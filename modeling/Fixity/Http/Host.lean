/-
This file defines the hosts of addresses: names, numbers of four bytes in any of
their spellings, numbers of eight groups, and hosts of schemes that give them no
meaning.
-/

import Fixity.Http.Domain
import Fixity.Text.Percent

namespace Fixity.Http

/-- The host of an address. -/
inductive Host where
  | name (text : String)
  | four (number : Nat)
  | eight (groups : List Nat)
  | uninterpreted (text : String)
deriving Repr, DecidableEq

namespace Host

/-! ### Numbers of four bytes -/

/-- The digits of a number, each below the base. -/
def digitsIn (base : Nat) (text : List Char) : Option Nat :=
  text.foldlM (fun value c => do
    let digit ← Text.Hex.digitValue c
    if digit < base then some (base * value + digit) else none) 0

/-- A part of a number: hexadecimal after a mark, octal after a zero, else decimal. -/
def part? : List Char → Option Nat
  | [] => none
  | '0' :: 'x' :: rest | '0' :: 'X' :: rest => digitsIn 16 rest
  | '0' :: rest => digitsIn 8 rest
  | text => digitsIn 10 text

/-- The parts of a text between its dots, without an empty one at the end. -/
def parts (text : List Char) : List (List Char) :=
  let all := Text.splitAll '.' text
  if 1 < all.length ∧ all.getLast? = some [] then all.dropLast else all

/-- The last part is a number, so that the whole must be one. -/
def endsInNumber (text : List Char) : Bool :=
  match (parts text).getLast? with
  | none | some [] => false
  | some last => last.all Char.isDigit || (part? last).isSome

/-- The number of some parts: all but the last are bytes, the last takes the room that is left. -/
def numberOfParts (found : List Nat) : Option Nat :=
  match found.reverse with
  | [] => none
  | last :: before =>
    let room := 1 <<< (8 * (4 - before.length))
    if before.all (· < 256) && last < room then
      some (before.foldr (fun byte value => 256 * value + byte) 0 * room + last)
    else none

/-- Reads a number of four bytes. -/
def four? (text : List Char) : Option Nat := do
  let found ← (parts text).mapM part?
  if found.length ≤ 4 then numberOfParts found else none

/-- A number of four bytes, byte by byte. -/
def writeFour (number : Nat) : List Char :=
  List.intercalate ['.']
    ([24, 16, 8, 0].map fun shift => Text.writeNat ((number >>> shift) % 256))

/-! ### Numbers of eight groups -/

/-- A group of up to four hexadecimal digits. -/
def group? (text : List Char) : Option Nat :=
  if text.isEmpty ∨ 4 < text.length then none else digitsIn 16 text

/-- A byte in decimal digits, without needless zeros. -/
def byte? (text : List Char) : Option Nat :=
  if text.isEmpty ∨ (1 < text.length ∧ text.head? = some '0') then none
  else (digitsIn 10 text).filter (· < 256)

/-- Two groups from four bytes between dots. -/
def groupsOfBytes? (text : List Char) : Option (List Nat) := do
  let [a, b, c, d] ← (Text.splitAll '.' text).mapM byte? | none
  return [256 * a + b, 256 * c + d]

/-- The groups between colons; the last may be spelled as four bytes. -/
def groups? (bytesAllowed : Bool) (text : List Char) : Option (List Nat) :=
  if text.isEmpty then some []
  else
    let pieces := Text.splitAll ':' text
    match pieces.getLast? with
    | none => some []
    | some last =>
      if last.contains '.' then
        if bytesAllowed then do
          let front ← pieces.dropLast.mapM group?
          return front ++ (← groupsOfBytes? last)
        else none
      else pieces.mapM group?

/-- Cuts a text at its first pair of colons. -/
def splitPair? : List Char → Option (List Char × List Char)
  | [] => none
  | ':' :: ':' :: rest => some ([], rest)
  | c :: rest => (splitPair? rest).map fun (before, after) => (c :: before, after)

/-- Reads eight groups, a pair of colons standing for one zero or more. -/
def eight? (text : List Char) : Option (List Nat) := do
  match splitPair? text with
  | none =>
    let found ← groups? true text
    if found.length = 8 then some found else none
  | some (before, after) =>
    let front ← groups? false before
    let back ← groups? true after
    if front.length + back.length ≤ 7 then
      some (front ++ List.replicate (8 - front.length - back.length) 0 ++ back)
    else none

/-- The longest run of zeros: its start and its length, the first of several. -/
def longestZeros (groups : List Nat) : Nat × Nat :=
  let runs := (List.range groups.length).map fun i => (i, ((groups.drop i).takeWhile (· == 0)).length)
  runs.foldl (fun best run => if best.2 < run.2 then run else best) (0, 0)

/-- Groups between colons. -/
def writeGroups (groups : List Nat) : List Char :=
  List.intercalate [':'] (groups.map Text.Hex.lowerNat)

/-- Eight groups, the longest run of at least two zeros left out. -/
def writeEight (groups : List Nat) : List Char :=
  let (start, length) := longestZeros groups
  if 2 ≤ length then
    writeGroups (groups.take start) ++ "::".toList ++ writeGroups (groups.drop (start + length))
  else writeGroups groups

/-! ### Reading and writing -/

/-- The text between brackets. -/
def bracketed? : List Char → Option (List Char)
  | '[' :: rest => if rest.getLast? = some ']' then some rest.dropLast else none
  | _ => none

/-- A host where hosts are names or numbers. -/
def ofName? (text : List Char) : Option Host :=
  if text.head? = some '[' then (bracketed? text >>= eight?).map eight
  else
    match Domain.ofBytes? (Text.Percent.decode text) with
    | none | some [] => none
    | some ascii =>
      if endsInNumber ascii then (four? ascii).map four else some (name (String.ofList ascii))

/-- A byte that is neither a control nor beyond ASCII. -/
def isPlainByte (b : UInt8) : Bool :=
  0x20 ≤ b && b < 0x7F

/-- A host where hosts are not interpreted. -/
def ofOther? (text : List Char) : Option Host :=
  if text.head? = some '[' then (bracketed? text >>= eight?).map eight
  else if text.any Domain.isForbidden then none
  else some (uninterpreted (String.ofList (Text.Percent.encode isPlainByte text)))

/-- The text of a host. -/
def text : Host → String
  | name text => text
  | four number => String.ofList (writeFour number)
  | eight groups => String.ofList ('[' :: writeEight groups ++ [']'])
  | uninterpreted text => text

end Host

end Fixity.Http
