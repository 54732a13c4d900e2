/-
This file writes text between double quotes, as logs show it. A quote and a
backslash take a backslash before them, the usual controls have a letter of
their own, and a character that no page shows, or that would attach to its
neighbour, is written by its code point.
-/

import Fixity.Text.Hex
import Fixity.Text.Letter.Printable
import Fixity.Text.Utf8

namespace Fixity.Text.Quoted

/-! ### One character -/

/-- A character written by its code point. -/
def byCodePoint (c : Char) : List Char :=
  "\\u\x7b".toList ++ Hex.lowerNat c.toNat ++ ['\x7d']

/-- A character as it is written between quotes. -/
def writeChar (c : Char) : List Char :=
  if c = '\x00' then ['\\', '0']
  else if c = '\t' then ['\\', 't']
  else if c = '\r' then ['\\', 'r']
  else if c = '\n' then ['\\', 'n']
  else if c = '"' ∨ c = '\\' then ['\\', c]
  else if 0x20 ≤ c.toNat ∧ c.toNat < 0x7F then [c]
  else if isAttaching c || !isShown c then byCodePoint c
  else [c]

/-! ### Texts and lists of texts -/

/-- A text between quotes. -/
def write (text : String) : String :=
  String.ofList ('"' :: text.toList.flatMap writeChar ++ ['"'])

/-- A list of texts, each between quotes, in brackets. -/
def writeList (texts : List String) : String :=
  "[" ++ ", ".intercalate (texts.map write) ++ "]"

/-- A byte string between quotes; a byte that encodes no character is written by its value. -/
def writeBytes (bytes : List UInt8) : String :=
  let body := (Utf8.pieces bytes).flatMap fun
    | .scalar c => writeChar c
    | .broken broken => broken.flatMap fun b => ['\\', 'x'] ++ Hex.upperByte b
  String.ofList ('"' :: body ++ ['"'])

end Fixity.Text.Quoted
