/-
This file writes a text in its normal composed form: characters are taken apart,
the marks after each letter are put into the order of their classes, and what can be
composed is put together again.
-/

import Fixity.Text.Letter.Composition

namespace Fixity.Text

/-! ### Syllables -/

/-- Syllables of Korean are composed of an initial, a vowel and possibly a final by count. -/
def isSyllable (code : Nat) : Bool :=
  0xAC00 ≤ code && code < 0xAC00 + 11172

/-- The letters of a syllable. -/
def lettersOfSyllable (code : Nat) : List Nat :=
  let place := code - 0xAC00
  let front := [0x1100 + place / 588, 0x1161 + place % 588 / 28]
  if place % 28 = 0 then front else front ++ [0x11A7 + place % 28]

/-- A syllable from an initial and a vowel, or from a syllable without a final and a final. -/
def syllable? (first second : Nat) : Option Nat :=
  if 0x1100 ≤ first && first < 0x1113 && 0x1161 ≤ second && second < 0x1176 then
    some (0xAC00 + ((first - 0x1100) * 21 + (second - 0x1161)) * 28)
  else if isSyllable first && (first - 0xAC00) % 28 = 0 && 0x11A7 < second && second < 0x11C3 then
    some (first + (second - 0x11A7))
  else none

/-! ### Taking apart -/

/-- The most composites that stand one within the other. -/
def deepest : Nat := 4

/-- The characters of a composite, taken apart to the given depth. -/
def takeApart : Nat → Nat → List Nat
  | 0, code => [code]
  | depth + 1, code =>
    if code < 0xC0 then [code]
    else if isSyllable code then lettersOfSyllable code
    else
      match composites.find? fun row => row.headD 0 == code with
      | some [_, first, second] => takeApart depth first ++ [second]
      | _ =>
        match decompositions.find? fun row => row.headD 0 == code with
        | some row => row.drop 1
        | none => [code]

/-- The characters of a text, taken apart. -/
def decomposed (text : List Char) : List Char :=
  (text.flatMap fun c => takeApart deepest c.toNat).map Char.ofNat

/-! ### Order -/

/-- Puts a character at the end of a text that is given in reverse. A mark passes those of higher
classes. -/
def putInOrder (c : Char) : List Char → List Char
  | [] => [c]
  | last :: before =>
    if combiningClass c ≠ 0 ∧ combiningClass c < combiningClass last then
      last :: putInOrder c before
    else c :: last :: before

/-- A text with its marks in order. -/
def ordered (text : List Char) : List Char :=
  (text.foldl (fun before c => putInOrder c before) []).reverse

/-! ### Putting together -/

/-- The composite of two characters. -/
def composite? (first second : Char) : Option Char :=
  match syllable? first.toNat second.toNat with
  | some code => some (Char.ofNat code)
  | none =>
    (composites.find? fun row => row.drop 1 == [first.toNat, second.toNat]).map fun row =>
      Char.ofNat (row.headD 0)

/-- What is put together so far: the text before the last letter, that letter, and the marks after
it that stay by themselves. The text and the marks are in reverse. -/
structure Composing where
  before : List Char := []
  letter : Option Char := none
  marks : List Char := []

/-- The whole text so far, in reverse. -/
def Composing.written (p : Composing) : List Char :=
  p.marks ++ p.letter.toList ++ p.before

/-- The next character can reach the letter: no mark of its class or a higher one stands between. -/
def Composing.reaches (p : Composing) (c : Char) : Bool :=
  match p.marks with
  | [] => true
  | mark :: _ => combiningClass mark < combiningClass c

/-- Passes a character: it is composed with the letter, stays as a mark, or is the next letter. -/
def Composing.pass (p : Composing) (c : Char) : Composing :=
  match p.letter.bind fun letter => if p.reaches c then composite? letter c else none with
  | some composite => { p with letter := some composite }
  | none =>
    if combiningClass c = 0 then { before := p.written, letter := some c }
    else { p with marks := c :: p.marks }

/-- A text in its normal composed form. -/
def composed (text : List Char) : List Char :=
  ((ordered (decomposed text)).foldl Composing.pass {}).written.reverse

end Fixity.Text
