/-
This file writes JSON values without blanks. Inside a string only the quote, the
backslash and the control characters below the space are escaped, the usual ones
by a letter and the others by their code.
-/

import Fixity.Json.Value
import Fixity.Text.Hex
import Fixity.Text.Integer

namespace Fixity.Json

/-! ### Strings -/

/-- A character inside a string literal. -/
def writeChar (c : Char) : List Char :=
  if c = '"' then ['\\', '"']
  else if c = '\\' then ['\\', '\\']
  else if c = '\x08' then ['\\', 'b']
  else if c = '\x0C' then ['\\', 'f']
  else if c = '\n' then ['\\', 'n']
  else if c = '\r' then ['\\', 'r']
  else if c = '\t' then ['\\', 't']
  else if c.toNat < 0x20 then ['\\', 'u', '0', '0'] ++ Text.Hex.lowerByte (UInt8.ofNat c.toNat)
  else [c]

/-- A string literal. One that denotes no text is written as half a surrogate pair. -/
def writeString : Option String → List Char
  | some content => '"' :: content.toList.flatMap writeChar ++ ['"']
  | none => "\"\\ud800\"".toList

/-! ### Values -/

mutual

/-- The text of a value. -/
def write : Json → List Char
  | .null => "null".toList
  | .bool true => "true".toList
  | .bool false => "false".toList
  | .integer value => Text.writeInt value
  | .inexact literal => literal.toList
  | .string content => writeString content
  | .array items => '[' :: writeItems items ++ [']']
  | .object members => '\x7b' :: writeMembers members ++ ['\x7d']

/-- The items of an array, separated by commas. -/
def writeItems : List Json → List Char
  | [] => []
  | [item] => write item
  | item :: next :: rest => write item ++ ',' :: writeItems (next :: rest)

/-- The members of an object, separated by commas. -/
def writeMembers : List (Option String × Json) → List Char
  | [] => []
  | [member] => writeMember member
  | member :: next :: rest => writeMember member ++ ',' :: writeMembers (next :: rest)

/-- A member: its name, a colon and its value. -/
def writeMember : Option String × Json → List Char
  | (name, value) => writeString name ++ ':' :: write value

end

/-- The text of a value as a string. -/
def print (value : Json) : String :=
  String.ofList (write value)

end Fixity.Json
