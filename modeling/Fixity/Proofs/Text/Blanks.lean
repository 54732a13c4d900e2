/-
This file says what trimming does: blanks at either end of a text do not count, and a
text without blanks is kept.
-/

import Fixity.Text.Blank
import Mathlib.Data.List.DropRight

namespace Fixity.Text

/-! ### Blanks -/

theorem isBlank_of_isDigit {c : Char} (digit : c.isDigit = true) : isBlank c = false := by
  have bounds : 0x30 ≤ c.toNat ∧ c.toNat ≤ 0x39 := by
    simpa [Char.isDigit, UInt32.le_iff_toNat_le] using digit
  simp only [isBlank, Bool.or_eq_false_iff, Bool.and_eq_false_iff, decide_eq_false_iff_not,
    beq_eq_false_iff_ne]
  omega

/-! ### Trimming -/

theorem trimStart_cons {c : Char} (visible : isBlank c = false) (tail : List Char) :
    trimStart (c :: tail) = c :: tail := by
  rw [trimStart, List.dropWhile_cons_of_neg (by rw [visible]; exact Bool.false_ne_true)]

theorem trimStart_eq_nil {text : List Char} (blank : ∀ c ∈ text, isBlank c = true) :
    trimStart text = [] :=
  List.dropWhile_eq_nil_iff.mpr blank

theorem trimEnd_append {text after : List Char} (blank : ∀ c ∈ after, isBlank c = true) :
    trimEnd (text ++ after) = trimEnd text := by
  have reversed : ∀ c ∈ after.reverse, isBlank c = true :=
    fun c member => blank c (List.mem_reverse.mp member)
  rw [trimEnd, List.reverse_append, List.dropWhile_append_of_pos reversed, trimEnd]

theorem trim_eq_nil {text : List Char} (blank : ∀ c ∈ text, isBlank c = true) : trim text = [] := by
  rw [trim, trimStart_eq_nil blank]
  rfl

/-- Blanks before a text are trimmed. -/
theorem trim_append_left {before : List Char} (blank : ∀ c ∈ before, isBlank c = true)
    (text : List Char) : trim (before ++ text) = trim text := by
  rw [trim, trimStart, List.dropWhile_append_of_pos blank, ← trimStart, ← trim]

/-- Blanks after a text are trimmed. -/
theorem trim_append_right {after : List Char} (blank : ∀ c ∈ after, isBlank c = true)
    (text : List Char) : trim (text ++ after) = trim text := by
  rw [trim, trimStart, List.dropWhile_append]
  split
  case isTrue none =>
    have start : trimStart text = [] := List.isEmpty_iff.mp none
    rw [trim, start, ← trimStart, trimStart_eq_nil blank]
  case isFalse some => exact trimEnd_append blank

theorem trimStart_eq_self {text : List Char} (visible : ∀ c ∈ text, isBlank c = false) :
    trimStart text = text := by
  cases text with
  | nil => rfl
  | cons c tail => exact trimStart_cons (visible c List.mem_cons_self) tail

/-- A text without blanks is kept. -/
theorem trim_eq_self {text : List Char} (visible : ∀ c ∈ text, isBlank c = false) :
    trim text = text := by
  rw [trim, trimStart_eq_self visible]
  show (trimStart text.reverse).reverse = text
  rw [trimStart_eq_self fun c member => visible c (List.mem_reverse.mp member),
    List.reverse_reverse]

end Fixity.Text
