/-
This file says what the decimal digits of a number are: digits and nothing else, of the
number's value, without a zero before others; padded, they fill the width.
-/

import Fixity.Text.Integer

namespace Fixity.Text

/-! ### Digits -/

theorem isSome_decimalDigit (c : Char) : (decimalDigit c).isSome = c.isDigit := by
  unfold decimalDigit Char.isDigit
  by_cases within : 0x30 ≤ c.toNat ∧ c.toNat ≤ 0x39
  · rw [if_pos within]
    simpa [UInt32.le_iff_toNat_le] using within
  · rw [if_neg within]
    simpa [UInt32.le_iff_toNat_le] using within

/-! ### Numbers -/

theorem isDigit_of_mem_writeNat {n : Nat} {c : Char} (member : c ∈ writeNat n) :
    c.isDigit = true :=
  Nat.isDigit_of_mem_toDigits (by decide) (by decide) member

theorem ofDigitChars_writeNat (n : Nat) : Nat.ofDigitChars 10 (writeNat n) 0 = n :=
  Nat.ofDigitChars_ten_toDigits

/-- A number begins with a digit, and only zero begins with a zero. -/
theorem exists_cons_writeNat (n : Nat) :
    ∃ c digits, writeNat n = c :: digits ∧ c.isDigit = true ∧ (c = '0' → n = 0) := by
  obtain ⟨c, digits, cons⟩ := List.exists_cons_of_ne_nil (Nat.toDigits_ne_nil (n := n) (b := 10))
  have digit : c.isDigit = true :=
    isDigit_of_mem_writeNat (n := n) (by rw [writeNat, cons]; exact List.mem_cons_self)
  refine ⟨c, digits, cons, digit, ?_⟩
  rintro rfl
  induction n using Nat.base_induction 10 (by decide) generalizing digits with
  | single n small =>
    rw [Nat.toDigits_of_lt_base small] at cons
    have value := Nat.toNat_digitChar_sub_48_of_lt_ten small
    rw [(List.cons.inj cons).1] at value
    exact value.symm
  | digit n last small front inductionHypothesis =>
    obtain ⟨c, more, first⟩ := List.exists_cons_of_ne_nil (Nat.toDigits_ne_nil (n := n) (b := 10))
    rw [← Nat.toDigits_append_toDigits (by decide) front small, first, List.cons_append] at cons
    rw [(List.cons.inj cons).1] at first
    exact absurd (inductionHypothesis more first) (Nat.ne_of_gt front)

/-! ### Padding -/

variable {width n : Nat}

theorem length_writePadded (positive : 0 < width) (bounded : n < Nat.pow 10 width) :
    (writePadded width n).length = width := by
  have short : (writeNat n).length ≤ width :=
    (Nat.length_toDigits_le_iff (by decide) positive).mpr bounded
  rw [writePadded, List.length_append, List.length_replicate]
  omega

theorem isDigit_of_mem_writePadded {c : Char} (member : c ∈ writePadded width n) :
    c.isDigit = true := by
  rcases List.mem_append.mp member with zero | digit
  · rw [List.eq_of_mem_replicate zero]
    rfl
  · exact isDigit_of_mem_writeNat digit

theorem exists_cons_writePadded (width n : Nat) :
    ∃ c digits, writePadded width n = c :: digits ∧ c.isDigit = true := by
  have present : writePadded width n ≠ [] :=
    List.append_ne_nil_of_right_ne_nil _ Nat.toDigits_ne_nil
  obtain ⟨c, digits, cons⟩ := List.exists_cons_of_ne_nil present
  exact ⟨c, digits, cons, isDigit_of_mem_writePadded (cons ▸ List.mem_cons_self)⟩

theorem ofDigitChars_writePadded : Nat.ofDigitChars 10 (writePadded width n) 0 = n := by
  rw [writePadded, Nat.ofDigitChars_append, Nat.ofDigitChars_replicate_zero]
  exact ofDigitChars_writeNat n

end Fixity.Text
