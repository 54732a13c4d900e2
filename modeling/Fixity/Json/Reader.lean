/-
This file reads JSON text. The grammar is strict: one value, blanks from the four
of the standard, no control character inside a string, no superfluous zero. The
source is a list of pieces, so that a string literal with broken bytes is read as
a literal that denotes no text.
-/

import Fixity.Json.Value
import Fixity.Text.Hex
import Fixity.Text.Integer
import Fixity.Text.Utf8

namespace Fixity.Json.Reader

open Text

/-- What is read: characters and broken pieces. -/
abbrev Source := List Utf8.Piece

/-! ### Blanks and words -/

/-- The blanks of the standard. -/
def isSpace (c : Char) : Bool :=
  c == ' ' || c == '\t' || c == '\n' || c == '\r'

/-- The source after leading blanks. -/
def skipSpace : Source → Source
  | .scalar c :: rest => if isSpace c then skipSpace rest else .scalar c :: rest
  | source => source

/-- The source after a given word. -/
def word : List Char → Source → Option Source
  | [], source => some source
  | c :: letters, .scalar d :: rest => if c = d then word letters rest else none
  | _ :: _, _ => none

/-! ### Strings -/

/-- A unit of a string literal: a character, an escaped sixteen-bit unit, or a broken piece. -/
inductive Unit16 where
  | scalar (c : Char)
  | escaped (unit : Nat)
  | broken
deriving Repr, DecidableEq

/-- The character that a one-letter escape stands for. -/
def escapedLetter : Char → Option Char
  | '"' => some '"'
  | '\\' => some '\\'
  | '/' => some '/'
  | 'b' => some '\x08'
  | 'f' => some '\x0C'
  | 'n' => some '\n'
  | 'r' => some '\r'
  | 't' => some '\t'
  | _ => none

/-- The value of four hexadecimal digits. -/
def fourDigits (a b c d : Utf8.Piece) : Option Nat := do
  let a ← Hex.digitValue (← a.scalar?)
  let b ← Hex.digitValue (← b.scalar?)
  let c ← Hex.digitValue (← c.scalar?)
  let d ← Hex.digitValue (← d.scalar?)
  return ((a * 16 + b) * 16 + c) * 16 + d

/-- The units of a string literal after its opening quote, up to its closing quote. -/
def units : Source → Option (List Unit16 × Source)
  | [] => none
  | .scalar '"' :: rest => some ([], rest)
  | .scalar '\\' :: .scalar 'u' :: a :: b :: c :: d :: rest => do
    let unit ← fourDigits a b c d
    let (more, after) ← units rest
    return (.escaped unit :: more, after)
  | .scalar '\\' :: .scalar letter :: rest => do
    let c ← escapedLetter letter
    let (more, after) ← units rest
    return (.scalar c :: more, after)
  | .scalar c :: rest =>
    if c.toNat < 0x20 ∨ c = '\\' then none
    else do
      let (more, after) ← units rest
      return (.scalar c :: more, after)
  | .broken _ :: rest => do
    let (more, after) ← units rest
    return (.broken :: more, after)

/-- The first half of a surrogate pair. -/
def isHighHalf (unit : Nat) : Bool :=
  0xD800 ≤ unit && unit ≤ 0xDBFF

/-- The second half of a surrogate pair. -/
def isLowHalf (unit : Nat) : Bool :=
  0xDC00 ≤ unit && unit ≤ 0xDFFF

/-- The character of a surrogate pair. -/
def joinHalves (high low : Nat) : Char :=
  Char.ofNat ((high - 0xD800) * 0x400 + (low - 0xDC00) + 0x10000)

/-- The text of the units, if every half of a surrogate pair has its partner next to it and no
piece is broken. -/
def textOfUnits : List Unit16 → Option (List Char)
  | [] => some []
  | .scalar c :: rest => (textOfUnits rest).map (c :: ·)
  | .broken :: _ => none
  | .escaped high :: .escaped low :: rest =>
    if isHighHalf high && isLowHalf low then (textOfUnits rest).map (joinHalves high low :: ·)
    else if isHighHalf high || isLowHalf high then none
    else (textOfUnits (.escaped low :: rest)).map (Char.ofNat high :: ·)
  | .escaped unit :: rest =>
    if isHighHalf unit || isLowHalf unit then none
    else (textOfUnits rest).map (Char.ofNat unit :: ·)

/-- A string literal after its opening quote. -/
def stringContent (source : Source) : Option (Option String × Source) := do
  let (units, rest) ← units source
  return ((textOfUnits units).map String.ofList, rest)

/-! ### Numbers -/

/-- The decimal digits at the front of a source. -/
def digits : Source → List Char × Source
  | .scalar c :: rest =>
    if (decimalDigit c).isSome then
      let (more, after) := digits rest
      (c :: more, after)
    else ([], .scalar c :: rest)
  | source => ([], source)

/-- The integer part of a number: a zero, or digits that begin with none. -/
def integerPart (source : Source) : Option (List Char × Source) :=
  match source with
  | .scalar '0' :: rest => some (['0'], rest)
  | _ =>
    let (found, rest) := digits source
    if found.isEmpty then none else some (found, rest)

/-- The fraction of a number, if a point follows. -/
def fractionPart : Source → Option (List Char × Source)
  | .scalar '.' :: rest =>
    let (found, after) := digits rest
    if found.isEmpty then none else some ('.' :: found, after)
  | source => some ([], source)

/-- The sign of an exponent. -/
def exponentSign : Source → List Char × Source
  | .scalar '+' :: rest => (['+'], rest)
  | .scalar '-' :: rest => (['-'], rest)
  | source => ([], source)

/-- The exponent of a number, if its mark follows. -/
def exponentPart : Source → Option (List Char × Source)
  | .scalar c :: rest =>
    if c = 'e' ∨ c = 'E' then
      let (sign, rest) := exponentSign rest
      let (found, after) := digits rest
      if found.isEmpty then none else some (c :: sign ++ found, after)
    else some ([], .scalar c :: rest)
  | source => some ([], source)

/-- The value of digits. -/
def natOfDigits (found : List Char) : Nat :=
  found.foldl (fun value c => 10 * value + (c.toNat - 0x30)) 0

/-- A number after its sign. Minus zero is not an integer. -/
def unsignedNumber (negative : Bool) (source : Source) : Option (Json × Source) := do
  let (whole, rest) ← integerPart source
  let (fraction, rest) ← fractionPart rest
  let (exponent, rest) ← exponentPart rest
  let value := natOfDigits whole
  if fraction.isEmpty && exponent.isEmpty && !(negative && value == 0) then
    return (.integer (if negative then -value else value), rest)
  else
    let sign := if negative then ['-'] else []
    return (.inexact (String.ofList (sign ++ whole ++ fraction ++ exponent)), rest)

/-- A number. -/
def number : Source → Option (Json × Source)
  | .scalar '-' :: rest => unsignedNumber true rest
  | source => unsignedNumber false source

/-! ### Values -/

mutual

/-- A value after leading blanks. The fuel bounds the number of values that are begun. -/
def value : Nat → Source → Option (Json × Source)
  | 0, _ => none
  | fuel + 1, source =>
    match skipSpace source with
    | .scalar 'n' :: rest => (word "ull".toList rest).map (.null, ·)
    | .scalar 't' :: rest => (word "rue".toList rest).map (.bool true, ·)
    | .scalar 'f' :: rest => (word "alse".toList rest).map (.bool false, ·)
    | .scalar '"' :: rest => (stringContent rest).map fun (content, rest) => (.string content, rest)
    | .scalar '[' :: rest =>
      match skipSpace rest with
      | .scalar ']' :: rest => some (.array [], rest)
      | rest => (items fuel rest).map fun (items, rest) => (.array items, rest)
    | .scalar '\x7b' :: rest =>
      match skipSpace rest with
      | .scalar '\x7d' :: rest => some (.object [], rest)
      | rest => (members fuel rest).map fun (members, rest) => (.object members, rest)
    | rest => number rest

/-- The items of an array from the first on, with the closing bracket. -/
def items : Nat → Source → Option (List Json × Source)
  | 0, _ => none
  | fuel + 1, source => do
    let (item, rest) ← value fuel source
    match skipSpace rest with
    | .scalar ',' :: rest =>
      let (more, rest) ← items fuel rest
      return (item :: more, rest)
    | .scalar ']' :: rest => return ([item], rest)
    | _ => none

/-- The members of an object from the first on, with the closing brace. -/
def members : Nat → Source → Option (List (Option String × Json) × Source)
  | 0, _ => none
  | fuel + 1, source => do
    let rest ← word ['"'] (skipSpace source)
    let (name, rest) ← stringContent rest
    let rest ← word [':'] (skipSpace rest)
    let (item, rest) ← value fuel rest
    match skipSpace rest with
    | .scalar ',' :: rest =>
      let (more, rest) ← members fuel rest
      return ((name, item) :: more, rest)
    | .scalar '\x7d' :: rest => return ([(name, item)], rest)
    | _ => none

end

/-- The one value of a source that holds nothing else. -/
def document (source : Source) : Option Json := do
  let (value, rest) ← value (source.length + 1) source
  if (skipSpace rest).isEmpty then some value else none

end Fixity.Json.Reader

namespace Fixity.Json

/-- The value that a text holds. -/
def ofString? (text : String) : Option Json :=
  Reader.document (Text.Utf8.piecesOf text)

/-- The value that a byte string holds. -/
def ofBytes? (bytes : List UInt8) : Option Json :=
  Reader.document (Text.Utf8.pieces bytes)

end Fixity.Json
