/-
This file writes log entries for a terminal. Controls that could steer it are
written by their code; line breaks stay.
-/

import Fixity.Log
import Fixity.Text.Hex
import Fixity.Text.Lines

namespace Fixity.Log

/-- A character of a message as it is written. -/
def writeChar (c : Char) : List Char :=
  if c = '\x1b' ∨ c = '\x07' ∨ c = '\x08' ∨ c = '\x0c' ∨ c = '\x7f' then
    ['\\', 'x'] ++ Text.Hex.lowerByte (UInt8.ofNat c.toNat)
  else if 0x80 ≤ c.toNat ∧ c.toNat ≤ 0x9F then
    "\\u\x7b".toList ++ Text.Hex.lowerNat c.toNat ++ ['\x7d']
  else [c]

/-- A message as it is written. -/
def writeMessage (message : String) : List Char :=
  message.toList.flatMap writeChar

/-- The lines that a message takes. -/
def messageLines (message : String) : List String :=
  (Text.lines (writeMessage message ++ ['\n'])).map String.ofList

end Fixity.Log
