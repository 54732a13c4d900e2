/-
This file splits text into lines. A line ends at a line feed; a carriage return
directly before the line feed belongs to the line end. Text after the last line
feed is a line of its own unless it is empty.
-/

namespace Fixity.Text

/-- Splits the text at its line feeds; `current` holds the characters of the open line in
reverse. The last piece is what follows the last line feed. -/
def pieces (current : List Char) : List Char → List (List Char) × List Char
  | [] => ([], current.reverse)
  | '\n' :: rest =>
    let (closed, last) := pieces [] rest
    (current.reverse :: closed, last)
  | c :: rest => pieces (c :: current) rest

/-- A line without the carriage return that precedes its line feed. -/
def withoutReturn (line : List Char) : List Char :=
  if line.getLast? = some '\r' then line.dropLast else line

/-- The lines of a text, in order. -/
def lines (text : List Char) : List (List Char) :=
  let (closed, last) := pieces [] text
  closed.map withoutReturn ++ (if last.isEmpty then [] else [last])

end Fixity.Text
