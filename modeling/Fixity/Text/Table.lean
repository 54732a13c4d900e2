/-
This file reads tables that are kept as text: numbers in hexadecimal digits, rows
between semicolons.
-/

import Fixity.Text.Hex

namespace Fixity.Text.Table

/-- What is read of a table: its whole rows, the whole numbers of the row begun, both in reverse,
and the number begun. -/
structure Progress where
  rows : List (List Nat) := []
  row : List Nat := []
  number : Option Nat := none

/-- Ends the number begun. -/
def Progress.endNumber (p : Progress) : Progress :=
  match p.number with
  | some number => { p with row := number :: p.row, number := none }
  | none => p

/-- Ends the row begun. -/
def Progress.endRow (p : Progress) : Progress :=
  let p := p.endNumber
  { rows := p.row.reverse :: p.rows }

/-- Passes a character: a digit, a semicolon, or a blank. -/
def Progress.pass (p : Progress) (c : Char) : Progress :=
  match Hex.digitValue c with
  | some digit => { p with number := some (16 * p.number.getD 0 + digit) }
  | none => if c = ';' then p.endRow else p.endNumber

/-- The rows of a table. -/
def rows (text : String) : List (List Nat) :=
  (text.toList.foldl Progress.pass {}).endRow.rows.reverse

/-- The rows of a table as ranges, both ends included. -/
def ranges (text : String) : List (Nat × Nat) :=
  (rows text).filterMap fun
    | [first, last] => some (first, last)
    | _ => none

end Fixity.Text.Table
