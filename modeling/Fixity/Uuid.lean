/-
This file defines universally unique identifiers: sixteen bytes, written as
thirty-two hexadecimal digits in five groups. Reading takes the plain digits too,
and the grouped form in braces or after the name of its URN space.
-/

import Fixity.Text.Ascii
import Fixity.Text.Hex

namespace Fixity

/-- A universally unique identifier. -/
structure Uuid where
  bytes : List UInt8
  length_eq : bytes.length = 16 := by decide
deriving DecidableEq

namespace Uuid

/-- The identifier whose bytes are all zero. -/
def nil : Uuid := { bytes := List.replicate 16 0 }

instance : Inhabited Uuid := ⟨nil⟩

/-- The identifier of sixteen random bytes: its version and its variant take six of their bits. -/
def ofRandom? (bytes : List UInt8) : Option Uuid :=
  let marked := (bytes.modify 6 fun b => b &&& 0x0F ||| 0x40).modify 8 fun b => b &&& 0x3F ||| 0x80
  if length : marked.length = 16 then some ⟨marked, length⟩ else none

/-! ### Writing -/

/-- The digits of some bytes. -/
def writeGroup (bytes : List UInt8) : List Char :=
  bytes.flatMap Text.Hex.lowerByte

/-- Five groups of digits, with hyphens between them. -/
def write (id : Uuid) : List Char :=
  writeGroup (id.bytes.take 4) ++ '-' :: writeGroup ((id.bytes.drop 4).take 2) ++
    '-' :: writeGroup ((id.bytes.drop 6).take 2) ++ '-' :: writeGroup ((id.bytes.drop 8).take 2) ++
    '-' :: writeGroup (id.bytes.drop 10)

/-- The text of an identifier. -/
def text (id : Uuid) : String :=
  String.ofList id.write

/-! ### Reading -/

/-- The identifier with the given digits. -/
def ofDigits? (digits : List Char) : Option Uuid := do
  let bytes ← Text.Hex.bytes? digits
  if length : bytes.length = 16 then some ⟨bytes, length⟩ else none

/-- Five groups of digits, with hyphens between them. -/
def ofGroups? (text : List Char) : Option Uuid :=
  match Text.splitAll '-' text with
  | [a, b, c, d, e] =>
    if [a.length, b.length, c.length, d.length, e.length] = [8, 4, 4, 4, 12] then
      ofDigits? (a ++ b ++ c ++ d ++ e)
    else none
  | _ => none

/-- The text between braces. -/
def unbraced? (text : List Char) : Option (List Char) :=
  match text with
  | '\x7b' :: rest => if rest.getLast? = some '\x7d' then some rest.dropLast else none
  | _ => none

/-- Reads an identifier in any of its forms. -/
def read? (text : List Char) : Option Uuid :=
  if text.length = 32 then ofDigits? text
  else if text.length = 36 then ofGroups? text
  else if text.length = 38 then unbraced? text >>= ofGroups?
  else if text.length = 45 then Text.dropBeginning? "urn:uuid:".toList text >>= ofGroups?
  else none

/-- Reads an identifier from a string. -/
def ofString? (text : String) : Option Uuid :=
  read? text.toList

end Uuid

end Fixity
