/-
This file lowers text. Every letter goes to its simple lower form, with two
exceptions of the standard: a capital I with a dot above becomes two characters,
and a capital sigma that ends a word becomes a final sigma.
-/

import Fixity.Text.Letter.Cased
import Fixity.Text.Letter.Lowering

namespace Fixity.Text

/-- The first character that a word search does not pass over has a case. -/
def meetsCased (text : List Char) : Bool :=
  match text.dropWhile isCaseIgnorable with
  | [] => false
  | c :: _ => isCased c

/-- The lower form of one character, given the characters before it, nearest first, and those
after it. -/
def lowerAt (before : List Char) (c : Char) (after : List Char) : List Char :=
  if c = 'Σ' then [if meetsCased before && !meetsCased after then 'ς' else 'σ']
  else if c = '\u0130' then ['i', '\u0307']
  else if c.toNat < 0x80 then [c.toLower]
  else [simpleLower c]

/-- Lowers the rest of a text; `before` holds what precedes it, nearest first. -/
def lowerFrom (before : List Char) : List Char → List Char
  | [] => []
  | c :: rest => lowerAt before c rest ++ lowerFrom (c :: before) rest

/-- A text in lower case. -/
def lower (text : List Char) : List Char :=
  lowerFrom [] text

/-- A string in lower case. -/
def lowerString (text : String) : String :=
  String.ofList (lower text.toList)

end Fixity.Text
