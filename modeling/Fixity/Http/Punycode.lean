/-
This file writes a label of a host name in ASCII and reads it back. The ASCII
characters come first; the others follow as differences between positions in a count
over all insertions, each difference as a number of variable length whose digits
have thresholds that adapt to the numbers before.
-/

import Fixity.Text.Integer

namespace Fixity.Http.Punycode

/-! ### Digits -/

/-- The digit of a value below thirty-six: letters first, then figures. -/
def digit (value : Nat) : Char :=
  if value < 26 then Char.ofNat (0x61 + value) else Char.ofNat (0x30 + (value - 26))

/-- The threshold of the digit at a place, for a bias. -/
def threshold (place bias : Nat) : Nat :=
  if place ≤ bias then 1 else if bias + 26 ≤ place then 26 else place - bias

/-- The value of a digit. -/
def valueOf? (c : Char) : Option Nat :=
  if c.isAlpha then some (c.toLower.toNat - 0x61)
  else if c.isDigit then some (c.toNat - 0x30 + 26)
  else none

theorem threshold_pos (place bias : Nat) : 1 ≤ threshold place bias := by
  unfold threshold
  split
  · omega
  · split <;> omega

/-- A difference in digits, from the given place on. -/
def digits (bias place difference : Nat) : List Char :=
  if difference < threshold place bias then [digit difference]
  else
    let beyond := difference - threshold place bias
    let room := 36 - threshold place bias
    digit (threshold place bias + beyond % room) :: digits bias (place + 36) (beyond / room)
termination_by difference
decreasing_by
  rename_i large
  have positive := threshold_pos place bias
  exact Nat.lt_of_le_of_lt (Nat.div_le_self _ _) (by omega)

/-! ### The bias -/

/-- Reduces a difference to a bias; `place` counts the reductions by thirty-six. -/
def reduce (difference place : Nat) : Nat :=
  if 455 < difference then reduce (difference / 35) (place + 36)
  else place + 36 * difference / (difference + 38)
termination_by difference
decreasing_by exact Nat.div_lt_self (by omega) (by omega)

/-- The bias after a difference, when so many characters are written. -/
def adapt (difference written : Nat) (isFirst : Bool) : Nat :=
  let damped := if isFirst then difference / 700 else difference / 2
  reduce (damped + damped / written) 0

/-! ### Writing -/

/-- What is carried along while the characters are written in the order of their code points. -/
structure Progress where
  output : List Char := []
  difference : Nat := 0
  bias : Nat := 72
  written : Nat

/-- Passes one character of the label, when the characters below `code` are written and that one
is due. -/
def Progress.pass (basic code : Nat) (p : Progress) (c : Char) : Progress :=
  if c.toNat < code then { p with difference := p.difference + 1 }
  else if c.toNat = code then
    { output := p.output ++ digits p.bias 36 p.difference
      difference := 0
      bias := adapt p.difference (p.written + 1) (p.written == basic)
      written := p.written + 1 }
  else p

/-- Writes the characters with the given code points, which ascend; `next` is the least code point
not considered yet. -/
def insertAll (label : List Char) (basic next : Nat) (p : Progress) : List Nat → Progress
  | [] => p
  | code :: rest =>
    let advanced := { p with difference := p.difference + (code - next) * (p.written + 1) }
    let passed := label.foldl (Progress.pass basic code) advanced
    insertAll label basic (code + 1) { passed with difference := passed.difference + 1 } rest

/-- The code points of a label beyond ASCII, ascending, each once. -/
def foreignCodes (label : List Char) : List Nat :=
  (((label.map Char.toNat).filter fun code => 0x80 ≤ code).mergeSort fun a b => a ≤ b).eraseDups

/-- A label in ASCII, without the mark of such labels. -/
def encode (label : List Char) : List Char :=
  let basic := label.filter fun c => c.toNat < 0x80
  let inserted := insertAll label basic.length 0x80 { written := basic.length } (foreignCodes label)
  (if basic.isEmpty then [] else basic ++ ['-']) ++ inserted.output

/-! ### Reading -/

/-- The numbers that are read fit into thirty-two bits, those that are formed on the way included. -/
def fits (number : Nat) : Option Nat :=
  if number ≤ 0xFFFFFFFF then some number else none

/-- Adds the difference that the digits at the beginning write, from the given place on and with
the given weight of a digit there. Gives the sum and the rest. -/
def readDifference? (bias : Nat) : Nat → Nat → Nat → List Char → Option (Nat × List Char)
  | _, _, _, [] => none
  | place, weight, sum, c :: rest => do
    let digit ← valueOf? c
    let sum ← fits (sum + (← fits (digit * weight)))
    if digit < threshold place bias then return (sum, rest)
    else readDifference? bias (place + 36) (← fits (weight * (36 - threshold place bias))) sum rest

theorem readDifference?_shorter {bias place weight sum total : Nat} {text rest : List Char}
    (read : readDifference? bias place weight sum text = some (total, rest)) :
    rest.length < text.length := by
  induction text generalizing place weight sum with
  | nil => simp [readDifference?] at read
  | cons c tail ih =>
    simp only [readDifference?, bind, Option.bind_eq_some_iff, pure] at read
    obtain ⟨digit, _, product, _, subtotal, _, read⟩ := read
    split at read
    · obtain ⟨_, rfl⟩ := Prod.mk.inj (Option.some.inj read)
      simp
    · obtain ⟨next, _, read⟩ := Option.bind_eq_some_iff.1 read
      exact Nat.lt_succ_of_lt (ih read)

/-- A character of a code point, if there is one. -/
def charOf? (code : Nat) : Option Char :=
  if code.isValidChar then some (Char.ofNat code) else none

/-- Inserts the characters that the digits write into a label. The next of them is counted from
the given code point and position on. -/
def readAll? (bias code position : Nat) (label digits : List Char) : Option (List Char) :=
  if digits.isEmpty then some label
  else
    match _ : readDifference? bias 36 1 position digits with
    | none => none
    | some (sum, rest) => do
      let room := label.length + 1
      let code := code + sum / room
      let c ← charOf? code
      readAll? (adapt (sum - position) room (position == 0)) code (sum % room + 1)
        (label.insertIdx (sum % room) c) rest
termination_by digits.length
decreasing_by exact readDifference?_shorter (by assumption)

/-- The most characters of a label that is read. -/
def longestRead : Nat := 2000

/-- The label that is written in ASCII, without the mark of such labels. -/
def decode? (text : List Char) : Option (List Char) :=
  if longestRead < text.length then none
  else
    let digits := (text.reverse.takeWhile (· != '-')).reverse
    let basic := text.take (text.length - digits.length - 1)
    readAll? 72 0x80 0 basic (if basic.isEmpty then text else digits)

end Fixity.Http.Punycode
