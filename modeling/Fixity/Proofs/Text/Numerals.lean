/-
This file says which texts are read as integers: those of a sign, which may be
missing, and decimal digits, whose number lies in the range. The reader gives up at
the first digit that leaves the range, and no further digit could lead back into it.
-/

import Fixity.Proofs.Text.Blanks
import Fixity.Proofs.Text.Decimal

namespace Fixity.Text

/-! ### Numerals -/

/-- A text of decimal digits, one at least, and the number it stands for. -/
structure Digits (text : List Char) (value : Nat) : Prop where
  present : text ≠ []
  each : ∀ c ∈ text, c.isDigit = true
  value : Nat.ofDigitChars 10 text 0 = value

/-- A text of a sign, which may be missing, and digits, and the number it stands for. -/
inductive Numeral : List Char → Int → Prop where
  | plain {text value} : Digits text value → Numeral text value
  | plus {text value} : Digits text value → Numeral ('+' :: text) value
  | minus {text value} : Digits text value → Numeral ('-' :: text) (-value)

theorem Numeral.ne_nil {text : List Char} {n : Int} (numeral : Numeral text n) : text ≠ [] := by
  cases numeral with
  | plain digits => exact digits.present
  | plus | minus => exact List.cons_ne_nil _ _

/-- Nothing in a numeral is blank. -/
theorem Numeral.isBlank_of_mem {text : List Char} {n : Int} (numeral : Numeral text n) :
    ∀ c ∈ text, isBlank c = false := by
  cases numeral with
  | plain digits => exact fun c member => isBlank_of_isDigit (digits.each c member)
  | plus digits | minus digits =>
    rw [List.forall_mem_cons]
    exact ⟨rfl, fun c member => isBlank_of_isDigit (digits.each c member)⟩

theorem digits_writeNat (n : Nat) : Digits (writeNat n) n where
  present := Nat.toDigits_ne_nil
  each _ := isDigit_of_mem_writeNat
  value := ofDigitChars_writeNat n

theorem numeral_writeInt (n : Int) : Numeral (writeInt n) n := by
  cases n with
  | ofNat n => exact .plain (digits_writeNat n)
  | negSucc n => exact .minus (digits_writeNat (n + 1))

/-! ### Magnitudes -/

theorem decimalDigit_eq_some_iff {c : Char} {digit : Nat} :
    decimalDigit c = some digit ↔ c.isDigit = true ∧ c.toNat - '0'.toNat = digit := by
  rw [← isSome_decimalDigit, decimalDigit]
  split
  · simp only [Option.some.injEq, Option.isSome_some, true_and]
    rfl
  · simp only [reduceCtorEq, Option.isSome_none, Bool.false_eq_true, false_and]

/-- Further digits do not make a number smaller. -/
theorem le_ofDigitChars (digits : List Char) (value : Nat) :
    value ≤ Nat.ofDigitChars 10 digits value := by
  induction digits generalizing value with
  | nil => exact Nat.le_refl value
  | cons c rest inductionHypothesis =>
    rw [Nat.ofDigitChars_cons]
    have further := inductionHypothesis (10 * value + (c.toNat - '0'.toNat))
    omega

/-- A magnitude is read from digits whose number does not exceed the bound. -/
theorem readMagnitude_eq_ok_iff {bound : Nat} {excess : IntegerFault} {value n : Nat}
    {digits : List Char} (within : value ≤ bound) :
    readMagnitude bound excess value digits = .ok n ↔
      (∀ c ∈ digits, c.isDigit = true) ∧ Nat.ofDigitChars 10 digits value = n ∧ n ≤ bound := by
  induction digits generalizing value with
  | nil =>
    rw [readMagnitude, Nat.ofDigitChars_nil, Except.ok.injEq]
    constructor
    · rintro rfl
      exact ⟨List.forall_mem_nil _, rfl, within⟩
    · rintro ⟨-, same, -⟩
      exact same
  | cons c rest inductionHypothesis =>
    rw [readMagnitude, Nat.ofDigitChars_cons, List.forall_mem_cons, ← isSome_decimalDigit]
    cases found : decimalDigit c with
    | none => simp only [reduceCtorEq, Option.isSome_none, Bool.false_eq_true, false_and]
    | some digit =>
      obtain ⟨-, rfl⟩ := decimalDigit_eq_some_iff.mp found
      dsimp only
      split
      case isTrue fits =>
        simp only [inductionHypothesis fits, Option.isSome_some, true_and]
      case isFalse exceeds =>
        have further := le_ofDigitChars rest (10 * value + (c.toNat - '0'.toNat))
        refine iff_of_false nofun ?_
        rintro ⟨-, rfl, small⟩
        omega

/-- From the start a magnitude is read from digits of its value. -/
theorem readMagnitude_zero_iff {bound n : Nat} {excess : IntegerFault} {digits : List Char}
    (present : digits ≠ []) :
    readMagnitude bound excess 0 digits = .ok n ↔ Digits digits n ∧ n ≤ bound := by
  rw [readMagnitude_eq_ok_iff (Nat.zero_le bound)]
  constructor
  · rintro ⟨each, value, small⟩
    exact ⟨⟨present, each, value⟩, small⟩
  · rintro ⟨⟨-, each, value⟩, small⟩
    exact ⟨each, value, small⟩

/-! ### Integers -/

theorem map_eq_ok_iff {f : α → β} {result : Except ε α} {b : β} :
    result.map f = .ok b ↔ ∃ a, result = .ok a ∧ f a = b := by
  cases result with
  | error fault => exact iff_of_false nofun (by rintro ⟨_, ⟨⟩, -⟩)
  | ok a => simp only [Except.map, Except.ok.injEq, exists_eq_left']

/-- Without digits there is no number, with a sign or without. -/
theorem not_exists_digits_nil {signed : Nat → Int} {n : Int} {within : Prop} :
    ¬ ((∃ value : Nat, Digits [] value ∧ signed value = n) ∧ within) := by
  rintro ⟨⟨_, digits, -⟩, -⟩
  exact digits.present rfl

section Numerals

variable {text : List Char} {n : Int}

theorem numeral_plus_iff :
    Numeral ('+' :: text) n ↔ ∃ value : Nat, Digits text value ∧ (value : Int) = n := by
  constructor
  · rintro (digits | digits)
    · exact absurd (digits.each '+' List.mem_cons_self) (by decide)
    · exact ⟨_, digits, rfl⟩
  · rintro ⟨value, digits, rfl⟩
    exact .plus digits

theorem numeral_minus_iff :
    Numeral ('-' :: text) n ↔ ∃ value : Nat, Digits text value ∧ -(value : Int) = n := by
  constructor
  · rintro (digits | _ | digits)
    · exact absurd (digits.each '-' List.mem_cons_self) (by decide)
    · exact ⟨_, digits, rfl⟩
  · rintro ⟨value, digits, rfl⟩
    exact .minus digits

theorem numeral_unsigned_iff (plus : ∀ rest, text ≠ '+' :: rest)
    (minus : ∀ rest, text ≠ '-' :: rest) :
    Numeral text n ↔ ∃ value : Nat, Digits text value ∧ (value : Int) = n := by
  constructor
  · rintro (digits | digits | digits)
    · exact ⟨_, digits, rfl⟩
    · exact absurd rfl (plus _)
    · exact absurd rfl (minus _)
  · rintro ⟨value, digits, rfl⟩
    exact .plain digits

end Numerals

section Range

variable {range : IntegerRange} {text : List Char} {n : Int} (negative : range.least < 0)
  (positive : 0 ≤ range.greatest)
include negative positive

theorem readUnsigned_eq_ok_iff (present : text ≠ []) :
    readUnsigned range text = .ok n ↔
      (∃ value : Nat, Digits text value ∧ (value : Int) = n) ∧
        range.least ≤ n ∧ n ≤ range.greatest := by
  rw [readUnsigned, map_eq_ok_iff]
  constructor
  · rintro ⟨value, read, rfl⟩
    obtain ⟨digits, small⟩ := (readMagnitude_zero_iff present).mp read
    refine ⟨⟨value, digits, rfl⟩, ?_⟩
    rw [Int.ofNat_eq_natCast]
    omega
  · rintro ⟨⟨value, digits, rfl⟩, -, small⟩
    exact ⟨value, (readMagnitude_zero_iff present).mpr ⟨digits, by omega⟩, rfl⟩

theorem readNegative_eq_ok_iff (present : text ≠ []) :
    (readMagnitude range.least.natAbs .tooSmall 0 text).map (fun value => -Int.ofNat value) =
        .ok n ↔
      (∃ value : Nat, Digits text value ∧ -(value : Int) = n) ∧
        range.least ≤ n ∧ n ≤ range.greatest := by
  rw [map_eq_ok_iff]
  constructor
  · rintro ⟨value, read, rfl⟩
    obtain ⟨digits, small⟩ := (readMagnitude_zero_iff present).mp read
    refine ⟨⟨value, digits, rfl⟩, ?_⟩
    rw [Int.ofNat_eq_natCast]
    omega
  · rintro ⟨⟨value, digits, rfl⟩, large, -⟩
    exact ⟨value, (readMagnitude_zero_iff present).mpr ⟨digits, by omega⟩, rfl⟩

/-- An integer of a range with negative members is read exactly from its numerals. -/
theorem readInteger_eq_ok_iff :
    readInteger range text = .ok n ↔ Numeral text n ∧ range.least ≤ n ∧ n ≤ range.greatest := by
  unfold readInteger
  split
  case h_1 =>
    rw [numeral_unsigned_iff (fun _ => (List.cons_ne_nil _ _).symm)
      (fun _ => (List.cons_ne_nil _ _).symm)]
    exact iff_of_false nofun not_exists_digits_nil
  case h_2 digits =>
    rw [numeral_plus_iff]
    split
    case isTrue empty =>
      rw [List.isEmpty_iff.mp empty]
      exact iff_of_false nofun not_exists_digits_nil
    case isFalse present =>
      exact readUnsigned_eq_ok_iff negative positive (mt List.isEmpty_iff.mpr present)
  case h_3 digits =>
    rw [numeral_minus_iff]
    split
    case isTrue empty =>
      rw [List.isEmpty_iff.mp (empty.resolve_right (Int.not_le.mpr negative))]
      exact iff_of_false nofun not_exists_digits_nil
    case isFalse present =>
      exact readNegative_eq_ok_iff negative positive
        (mt List.isEmpty_iff.mpr (not_or.mp present).1)
  case h_4 empty plus minus =>
    rw [numeral_unsigned_iff plus minus]
    exact readUnsigned_eq_ok_iff negative positive empty

end Range

/-! ### Words of sixty-four bits -/

/-- A word is read exactly from the numerals of the integer it holds. -/
theorem readInt64_eq_ok_iff {text : List Char} {word : Int64} :
    readInt64 text = .ok word ↔ Numeral text word.toInt := by
  rw [readInt64, map_eq_ok_iff]
  constructor
  · rintro ⟨n, read, rfl⟩
    rw [readInteger_eq_ok_iff (by decide) (by decide)] at read
    obtain ⟨numeral, large, small⟩ := read
    rwa [Int64.toInt_ofInt_of_le large (Int.lt_of_le_of_lt small (by decide))]
  · intro numeral
    refine ⟨word.toInt, ?_, Int64.ofInt_toInt word⟩
    rw [readInteger_eq_ok_iff (by decide) (by decide)]
    exact ⟨numeral, word.le_toInt, Int.le_of_lt_add_one word.toInt_lt⟩

end Fixity.Text
