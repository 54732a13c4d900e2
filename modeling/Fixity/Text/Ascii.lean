/-
This file holds what concerns the ASCII characters alone: lowering, and dropping
or splitting at a single mark.
-/

namespace Fixity.Text

/-- A text with its ASCII letters in lower case and all else unchanged. -/
def lowerAscii (text : List Char) : List Char :=
  text.map Char.toLower

/-- A string with its ASCII letters in lower case and all else unchanged. -/
def lowerAsciiString (text : String) : String :=
  String.ofList (lowerAscii text.toList)

/-- A text without the marks at its end. -/
def dropTrailing (mark : Char) (text : List Char) : List Char :=
  (text.reverse.dropWhile (· == mark)).reverse

/-- A string without the marks at its end. -/
def dropTrailingString (mark : Char) (text : String) : String :=
  String.ofList (dropTrailing mark text.toList)

/-- A string without the marks at either end. -/
def dropAroundString (mark : Char) (text : String) : String :=
  String.ofList (dropTrailing mark (text.toList.dropWhile (· == mark)))

/-- Cuts a text at every occurrence of a mark. There is one part more than there are marks. -/
def splitAll (mark : Char) : List Char → List (List Char)
  | [] => [[]]
  | c :: rest =>
    if c = mark then [] :: splitAll mark rest
    else
      match splitAll mark rest with
      | [] => [[c]]
      | part :: parts => (c :: part) :: parts

/-- Cuts a text at the first occurrence of a mark, if there is one. -/
def splitFirst? (mark : Char) : List Char → Option (List Char × List Char)
  | [] => none
  | c :: rest =>
    if c = mark then some ([], rest)
    else (splitFirst? mark rest).map fun (before, after) => (c :: before, after)

/-- Cuts a text at the last occurrence of a mark. -/
def splitLast? (mark : Char) (text : List Char) : Option (List Char × List Char) :=
  (splitFirst? mark text.reverse).map fun (after, before) => (before.reverse, after.reverse)

/-- The rest of a text after a given beginning. -/
def dropBeginning? : List Char → List Char → Option (List Char)
  | [], text => some text
  | _ :: _, [] => none
  | c :: beginning, d :: text => if c = d then dropBeginning? beginning text else none

end Fixity.Text
