/-
This file proves that spelling a path as one segment of an address loses nothing.
The spelling is made of characters that stand in a segment as they are and of
escapes, and it is read back as the path by resolving the escapes. So different
paths have different spellings, and a path is its own spelling exactly when all its
characters stand as they are: any other one takes more than one place.
-/

import Fixity.Storage.Bucket
import Fixity.Proofs.Text.Percent

namespace Fixity.Storage

open Text

/-! ### The characters of a segment -/

/-- The characters that stand in a segment as they are: the letters and digits of ASCII and ten
marks. -/
def IsSegmentChar (c : Char) : Prop :=
  c.isAlphanum = true ∨ c ∈ "-_.~$&+:=@".toList

instance (c : Char) : Decidable (IsSegmentChar c) :=
  inferInstanceAs (Decidable (_ ∨ _))

/-- The digits of an escape. -/
def IsEscapeDigit (c : Char) : Prop :=
  c ∈ "0123456789ABCDEF".toList

/-- A text of characters that stand as they are and of escapes: a percent sign with two digits. -/
inductive Segment : List Char → Prop where
  | nil : Segment []
  | plain {c : Char} {rest : List Char} (stands : IsSegmentChar c) (segment : Segment rest) :
      Segment (c :: rest)
  | escape {high low : Char} {rest : List Char} (first : IsEscapeDigit high)
      (second : IsEscapeDigit low) (segment : Segment rest) : Segment ('%' :: high :: low :: rest)

/-- The bytes that are kept are those of the characters that stand as they are. -/
theorem isSegmentByte_iff (b : UInt8) :
    isSegmentByte b = true ↔ IsSegmentChar (Char.ofNat b.toNat) := by
  have each : ∀ n < 256, isSegmentByte (UInt8.ofNat n) = true ↔ IsSegmentChar (Char.ofNat n) := by
    decide +kernel
  have same := each b.toNat b.toNat_lt
  rwa [UInt8.ofNat_toNat] at same

theorem lt_of_isSegmentByte (b : UInt8) (kept : isSegmentByte b = true) : b < 0x80 := by
  have each : ∀ n < 256, isSegmentByte (UInt8.ofNat n) = true → UInt8.ofNat n < 0x80 := by
    decide +kernel
  have small := each b.toNat b.toNat_lt
  rw [UInt8.ofNat_toNat] at small
  exact small kept

theorem IsSegmentChar.lt {c : Char} (stands : IsSegmentChar c) : c.toNat < 0x80 := by
  rcases stands with letter | mark
  · have below : ∀ last : Char, last.toNat < 0x80 → c.val ≤ last.val → c.toNat < 0x80 :=
      fun last early within => Nat.lt_of_le_of_lt (UInt32.le_iff_toNat_le.mp within) early
    have kinds : (c.isUpper || c.isLower || c.isDigit) = true := letter
    rw [Bool.or_eq_true, Bool.or_eq_true] at kinds
    rcases kinds with (upper | lower) | digit
    · have range : 'A'.val ≤ c.val ∧ c.val ≤ 'Z'.val := of_decide_eq_true upper
      exact below 'Z' (by decide) range.2
    · have range := Bool.and_eq_true_iff.mp lower
      exact below 'z' (by decide) (of_decide_eq_true range.2)
    · have range := Bool.and_eq_true_iff.mp digit
      exact below '9' (by decide) (of_decide_eq_true range.2)
  · have each : "-_.~$&+:=@".toList.all (decide <| ·.toNat < 0x80) = true := by decide
    exact of_decide_eq_true (List.all_eq_true.mp each c mark)

theorem isEscapeDigit_upperDigit {n : Nat} (small : n < 16) : IsEscapeDigit (Hex.upperDigit n) := by
  have each : ∀ n < 16, Hex.upperDigit n ∈ "0123456789ABCDEF".toList := by decide
  exact each n small

/-! ### Spellings -/

theorem toList_escapePath (path : String) :
    (escapePath path).toList = Percent.encode isSegmentByte path.toList :=
  String.toList_ofList

theorem segment_escapePath (path : String) : Segment (escapePath path).toList := by
  rw [toList_escapePath, Percent.encode]
  induction Utf8.encode path.toList with
  | nil => exact .nil
  | cons b bytes inductionHypothesis =>
    rw [List.flatMap_cons, Percent.writeByte]
    cases kept : isSegmentByte b with
    | true => exact .plain ((isSegmentByte_iff b).mp kept) inductionHypothesis
    | false =>
      have small := b.toNat_lt
      exact .escape (isEscapeDigit_upperDigit (by omega)) (isEscapeDigit_upperDigit (by omega))
        inductionHypothesis

/-- The spelling of a path is read back as the path. -/
theorem decode_escapePath (path : String) :
    Utf8.decode? (Percent.decode (escapePath path).toList) = some path.toList := by
  rw [toList_escapePath, Percent.decode_encode lt_of_isSegmentByte rfl, Utf8.decode?_encode]

theorem escapePath_injective : Function.Injective escapePath := by
  intro path other same
  have read := decode_escapePath path
  rw [same, decode_escapePath other, Option.some.injEq] at read
  exact String.toList_inj.mp read.symm

/-! ### Paths that are their own spelling -/

/-- What a character is written as. -/
def writeSegmentChar (c : Char) : List Char :=
  (String.utf8EncodeChar c).flatMap (Percent.writeByte isSegmentByte)

theorem encode_eq_flatMap (text : List Char) :
    Percent.encode isSegmentByte text = text.flatMap writeSegmentChar := by
  rw [Percent.encode, Utf8.encode, List.flatMap_assoc]
  rfl

/-- The one byte of a character is kept exactly if the character stands as it is. -/
theorem isSegmentByte_oneByte_iff {c : Char} (small : c.toNat < 0x80) :
    isSegmentByte (UInt8.ofNat c.toNat) = true ↔ IsSegmentChar c := by
  rw [isSegmentByte_iff, Utf8.toNat_oneByte small, Char.ofNat_toNat]

theorem writeSegmentChar_of_stands {c : Char} (stands : IsSegmentChar c) :
    writeSegmentChar c = [c] := by
  have kept := (isSegmentByte_oneByte_iff stands.lt).mpr stands
  rw [writeSegmentChar, Utf8.encodeChar_of_lt stands.lt, List.flatMap_singleton, Percent.writeByte,
    if_pos kept, Utf8.toNat_oneByte stands.lt, Char.ofNat_toNat]

/-- A character that does not stand as it is takes more than one place: as an escape, or since it is
encoded in several bytes. -/
theorem one_lt_length_writeSegmentChar {c : Char} (foreign : ¬ IsSegmentChar c) :
    1 < (writeSegmentChar c).length := by
  by_cases small : c.toNat < 0x80
  · have escaped := mt (isSegmentByte_oneByte_iff small).mp foreign
    rw [writeSegmentChar, Utf8.encodeChar_of_lt small, List.flatMap_singleton, Percent.writeByte,
      if_neg escaped]
    exact Nat.lt_of_sub_eq_succ rfl
  · exact Nat.lt_of_lt_of_le (Utf8.one_lt_length_encodeChar (Nat.not_lt.mp small))
      (Percent.length_le_length_flatMap (Percent.length_writeByte_pos isSegmentByte) _)

theorem length_writeSegmentChar_pos (c : Char) : 1 ≤ (writeSegmentChar c).length := by
  by_cases stands : IsSegmentChar c
  · rw [writeSegmentChar_of_stands stands]
    exact Nat.le_refl 1
  · exact Nat.le_of_lt (one_lt_length_writeSegmentChar stands)

/-- A text that is not longer when it is written consists of characters that stand as they are. -/
theorem isSegmentChar_of_length_le {text : List Char}
    (short : (text.flatMap writeSegmentChar).length ≤ text.length) :
    ∀ c ∈ text, IsSegmentChar c := by
  induction text with
  | nil => exact fun _ member => absurd member List.not_mem_nil
  | cons c rest inductionHypothesis =>
    rw [List.flatMap_cons, List.length_append, List.length_cons] at short
    have more : rest.length ≤ (rest.flatMap writeSegmentChar).length :=
      Percent.length_le_length_flatMap length_writeSegmentChar_pos rest
    have stands : IsSegmentChar c := by
      refine Decidable.byContradiction fun foreign => ?_
      have wide := one_lt_length_writeSegmentChar foreign
      omega
    rw [writeSegmentChar_of_stands stands, List.length_singleton] at short
    exact List.forall_mem_cons.mpr ⟨stands, inductionHypothesis (by omega)⟩

theorem escapePath_eq_self_iff (path : String) :
    escapePath path = path ↔ ∀ c ∈ path.toList, IsSegmentChar c := by
  rw [← String.toList_inj, toList_escapePath, encode_eq_flatMap]
  constructor
  · intro same
    exact isSegmentChar_of_length_le (Nat.le_of_eq (congrArg List.length same))
  · intro stands
    rw [List.flatMap_def,
      List.map_congr_left fun c member => writeSegmentChar_of_stands (stands c member),
      ← List.flatMap_def, List.flatMap_singleton']

/-! ### Faithful spellings -/

/-- **What the spelling of a path is.** -/
theorem faithful_escapePath :
    Function.Injective escapePath ∧
      ∀ path, Segment (escapePath path).toList ∧
        Utf8.decode? (Percent.decode (escapePath path).toList) = some path.toList ∧
        (escapePath path = path ↔ ∀ c ∈ path.toList, IsSegmentChar c) :=
  ⟨escapePath_injective, fun path =>
    ⟨segment_escapePath path, decode_escapePath path, escapePath_eq_self_iff path⟩⟩

end Fixity.Storage
