/-
This file proves that resolving the escapes of a text gives the bytes that were
escaped. It holds for every choice of the bytes that are kept as they are, as long
as these are bytes of ASCII and the percent sign, which opens an escape, is none of
them.
-/

import Fixity.Text.Percent
import Fixity.Proofs.Text.Hexadecimal
import Fixity.Proofs.Text.Utf8
import Mathlib.Algebra.BigOperators.Group.List.Basic

namespace Fixity.Text.Percent

/-! ### Single bytes -/

theorem decodeBytes_cons {b : UInt8} (plain : b ≠ 0x25) (rest : List UInt8) :
    decodeBytes (b :: rest) = b :: decodeBytes rest := by
  rw [decodeBytes]
  rintro _ _ _ rfl
  exact absurd rfl plain

/-- A digit is encoded as one byte, which is read as that digit. -/
theorem encodeChar_upperDigit {n : Nat} (small : n < 16) :
    ∃ b : UInt8, String.utf8EncodeChar (Hex.upperDigit n) = [b] ∧
      Hex.digitValue (Char.ofNat b.toNat) = some n := by
  have each : ∀ n < 16, (Hex.upperDigit n).toNat < 0x80 := by decide
  have ascii := each n small
  refine ⟨_, Utf8.encodeChar_of_lt ascii, ?_⟩
  rw [UInt8.toNat_ofNat', Nat.mod_eq_of_lt (by omega), Char.ofNat_toNat,
    Hex.digitValue_upperDigit small]

theorem decodeBytes_escapeByte (b : UInt8) (rest : List UInt8) :
    decodeBytes (Utf8.encode (escapeByte b) ++ rest) = b :: decodeBytes rest := by
  have bound := b.toNat_lt
  obtain ⟨high, encodedHigh, readHigh⟩ := encodeChar_upperDigit (n := b.toNat / 16) (by omega)
  obtain ⟨low, encodedLow, readLow⟩ := encodeChar_upperDigit (n := b.toNat % 16) (by omega)
  have escape : Utf8.encode (escapeByte b) = [0x25, high, low] := by
    simp only [Utf8.encode, escapeByte, Hex.upperByte, List.flatMap_cons, List.flatMap_nil,
      encodedHigh, encodedLow]
    rfl
  have value : UInt8.ofNat (16 * (b.toNat / 16) + b.toNat % 16) = b := by
    rw [Nat.div_add_mod, UInt8.ofNat_toNat]
  rw [escape]
  show decodeBytes (0x25 :: high :: low :: rest) = _
  rw [decodeBytes, readHigh, readLow]
  simp only [value]

theorem length_writeByte_pos (keep : UInt8 → Bool) (b : UInt8) : 1 ≤ (writeByte keep b).length := by
  rw [writeByte]
  split
  · exact Nat.le_refl 1
  · exact Nat.le_add_left 1 _

/-- What is written piece by piece is no shorter than the pieces are many. -/
theorem length_le_length_flatMap {write : α → List β} (written : ∀ a, 1 ≤ (write a).length)
    (pieces : List α) : pieces.length ≤ (pieces.flatMap write).length := by
  rw [List.length_flatMap]
  have each : ∀ n ∈ pieces.map fun piece => (write piece).length, 1 ≤ n :=
    List.forall_mem_map.mpr fun piece _ => written piece
  have total := List.length_le_sum_of_one_le _ each
  rwa [List.length_map] at total

/-! ### Texts -/

section Kept

variable {keep : UInt8 → Bool} (ascii : ∀ b, keep b = true → b < 0x80) (escaped : keep 0x25 = false)

include ascii escaped

/-- What a byte is written as is read as that byte, whatever comes after it. -/
theorem decodeBytes_writeByte (b : UInt8) (rest : List UInt8) :
    decodeBytes (Utf8.encode (writeByte keep b) ++ rest) = b :: decodeBytes rest := by
  rw [writeByte]
  cases kept : keep b with
  | false =>
    rw [if_neg Bool.false_ne_true]
    exact decodeBytes_escapeByte b rest
  | true =>
    have small : b.toNat < 0x80 := UInt8.lt_iff_toNat_lt.mp (ascii b kept)
    have number : (Char.ofNat b.toNat).toNat = b.toNat := by
      rw [Char.ofNat, dif_pos (.inl (by omega))]
      rfl
    have plain : b ≠ 0x25 := by
      rintro rfl
      exact Bool.false_ne_true (escaped.symm.trans kept)
    rw [if_pos rfl, Utf8.encode, List.flatMap_singleton,
      Utf8.encodeChar_of_lt (by rw [number]; exact small), number, UInt8.ofNat_toNat,
      List.singleton_append, decodeBytes_cons plain]

/-- Resolving the escapes of a text gives the bytes of the text. -/
theorem decode_encode (text : List Char) : decode (encode keep text) = Utf8.encode text := by
  have each (bytes : List UInt8) :
      decodeBytes (Utf8.encode (bytes.flatMap (writeByte keep))) = bytes := by
    induction bytes with
    | nil => rfl
    | cons b bytes inductionHypothesis =>
      rw [List.flatMap_cons, Utf8.encode, List.flatMap_append, ← Utf8.encode, ← Utf8.encode,
        decodeBytes_writeByte ascii escaped, inductionHypothesis]
  exact each (Utf8.encode text)

end Kept

end Fixity.Text.Percent
