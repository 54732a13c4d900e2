/-
This file proves that hexadecimal digits are read as the bytes that they were
written from, in either letter case.
-/

import Fixity.Text.Hex

namespace Fixity.Text.Hex

theorem digitValue_lowerDigit {n : Nat} (small : n < 16) :
    digitValue (lowerDigit n) = some n := by
  have each : ∀ n < 16, digitValue (lowerDigit n) = some n := by decide
  exact each n small

theorem digitValue_upperDigit {n : Nat} (small : n < 16) :
    digitValue (upperDigit n) = some n := by
  have each : ∀ n < 16, digitValue (upperDigit n) = some n := by decide
  exact each n small

theorem bytes?_lowerByte (b : UInt8) (digits : List Char) :
    bytes? (lowerByte b ++ digits) = (bytes? digits).map (b :: ·) := by
  have small := b.toNat_lt
  have high : digitValue (lowerDigit (b.toNat / 16)) = some (b.toNat / 16) :=
    digitValue_lowerDigit (by omega)
  have low : digitValue (lowerDigit (b.toNat % 16)) = some (b.toNat % 16) :=
    digitValue_lowerDigit (by omega)
  have value : UInt8.ofNat (16 * (b.toNat / 16) + b.toNat % 16) = b := by
    rw [Nat.div_add_mod, UInt8.ofNat_toNat]
  simp only [lowerByte, List.cons_append, List.nil_append, bytes?, high, low, Option.bind_eq_bind,
    Option.bind_some, value, Option.map_eq_bind]
  rfl

/-- The digits of a byte string are read as its bytes. -/
theorem bytes?_flatMap_lowerByte (bytes : List UInt8) :
    bytes? (bytes.flatMap lowerByte) = some bytes := by
  induction bytes with
  | nil => rfl
  | cons b bytes inductionHypothesis =>
    rw [List.flatMap_cons, bytes?_lowerByte, inductionHypothesis]
    rfl

theorem length_flatMap_lowerByte (bytes : List UInt8) :
    (bytes.flatMap lowerByte).length = 2 * bytes.length := by
  induction bytes with
  | nil => rfl
  | cons b bytes inductionHypothesis =>
    rw [List.flatMap_cons, List.length_append, inductionHypothesis, List.length_cons, lowerByte,
      List.length_cons, List.length_singleton]
    omega

/-- Bytes are written in lower-case digits and nothing else. -/
theorem exists_lowerDigit_of_mem {bytes : List UInt8} {c : Char}
    (member : c ∈ bytes.flatMap lowerByte) : ∃ n < 16, c = lowerDigit n := by
  obtain ⟨b, -, digit⟩ := List.mem_flatMap.mp member
  have small := b.toNat_lt
  simp only [lowerByte, List.mem_cons, List.not_mem_nil, or_false] at digit
  rcases digit with rfl | rfl
  · exact ⟨b.toNat / 16, by omega, rfl⟩
  · exact ⟨b.toNat % 16, by omega, rfl⟩

theorem isSome_digitValue_of_mem {bytes : List UInt8} {c : Char}
    (member : c ∈ bytes.flatMap lowerByte) : (digitValue c).isSome = true := by
  obtain ⟨n, small, rfl⟩ := exists_lowerDigit_of_mem member
  rw [digitValue_lowerDigit small]
  rfl

/-- The lower-case digits. -/
def lowerDigits : List Char :=
  "0123456789abcdef".toList

theorem mem_lowerDigits_of_mem {bytes : List UInt8} {c : Char}
    (member : c ∈ bytes.flatMap lowerByte) : c ∈ lowerDigits := by
  have each : ∀ n < 16, lowerDigit n ∈ lowerDigits := by decide
  obtain ⟨n, small, rfl⟩ := exists_lowerDigit_of_mem member
  exact each n small

end Fixity.Text.Hex
