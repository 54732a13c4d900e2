/-
This file proves that an encoded text is read back as it was. The bytes of one
character are cut off as one piece, whatever comes after them: the first byte
announces how many follow, and the bounds that it puts on the second one are met,
since no character is encoded longer than it has to be and none is a surrogate. So
the bytes of a text decide the text.
-/

import Fixity.Text.Utf8

namespace Fixity.Text.Utf8

/-! ### Bytes of an encoding -/

/-- A lead byte of two announces one byte more. -/
theorem lead?_two {n : Nat} (least : 2 ≤ n) (small : n < 32) :
    lead? (UInt8.ofNat (n + 192)) = some ⟨1, 0x80, 0xBF, n⟩ := by
  have each : ∀ n < 32, 2 ≤ n → lead? (UInt8.ofNat (n + 192)) = some ⟨1, 0x80, 0xBF, n⟩ := by
    decide
  exact each n small least

/-- A lead byte of three announces two bytes more, of which the first is bounded so that neither
shorter encodings nor surrogates come in. -/
theorem lead?_three {n : Nat} (small : n < 16) :
    lead? (UInt8.ofNat (n + 224)) =
      some ⟨2, if n = 0 then 0xA0 else 0x80, if n = 13 then 0x9F else 0xBF, n⟩ := by
  have each : ∀ n < 16, lead? (UInt8.ofNat (n + 224)) =
      some ⟨2, if n = 0 then 0xA0 else 0x80, if n = 13 then 0x9F else 0xBF, n⟩ := by
    decide
  exact each n small

/-- A lead byte of four announces three bytes more, of which the first is bounded so that neither
shorter encodings nor numbers beyond the last character come in. -/
theorem lead?_four {n : Nat} (small : n < 5) :
    lead? (UInt8.ofNat (n + 240)) =
      some ⟨3, if n = 0 then 0x90 else 0x80, if n = 4 then 0x8F else 0xBF, n⟩ := by
  have each : ∀ n < 5, lead? (UInt8.ofNat (n + 240)) =
      some ⟨3, if n = 0 then 0x90 else 0x80, if n = 4 then 0x8F else 0xBF, n⟩ := by
    decide
  exact each n small

section Following

variable {n : Nat} (small : n < 64)

include small

/-- The number of a byte that follows a lead byte, and the bits that it contributes. -/
theorem toNat_following : (UInt8.ofNat (n + 128)).toNat = n + 128 := by
  rw [UInt8.toNat_ofNat', Nat.mod_eq_of_lt (by omega)]

theorem isContinuation_following : isContinuation (UInt8.ofNat (n + 128)) = true := by
  have each : ∀ n < 64, isContinuation (UInt8.ofNat (n + 128)) = true := by decide
  exact each n small

/-- A byte that follows is admitted when its number lies within the bounds of the lead. -/
theorem admits_following {lead : Lead} (least : lead.least.toNat ≤ n + 128)
    (greatest : n + 128 ≤ lead.greatest.toNat) : lead.admits (UInt8.ofNat (n + 128)) = true := by
  simp only [Lead.admits, Bool.and_eq_true, decide_eq_true_eq, UInt8.le_iff_toNat_le,
    toNat_following small]
  exact ⟨least, greatest⟩

end Following

/-- A byte beyond ASCII is no character by itself. -/
theorem not_ascii {n : Nat} (least : 0x80 ≤ n) (small : n < 0x100) : ¬ UInt8.ofNat n < 0x80 := by
  rw [UInt8.lt_iff_toNat_lt, UInt8.toNat_ofNat', Nat.mod_eq_of_lt small]
  exact Nat.not_lt.mpr least

/-! ### Cuts -/

section Cuts

variable {b b₁ b₂ b₃ : UInt8} {lead : Lead} (beyond : ¬ b < 0x80) (announced : lead? b = some lead)
  (admitted : lead.admits b₁ = true) (rest : List UInt8)

include beyond announced admitted

theorem cut_two (following : lead.following = 1) :
    pieces (b :: b₁ :: rest) = scalarOf [b₁] lead.bits :: pieces rest := by
  rw [pieces, if_neg beyond, announced]
  simp only [admitted, following, Bool.not_true, Bool.false_eq_true, if_false, if_true]

theorem cut_three (following : lead.following = 2) (second : isContinuation b₂ = true) :
    pieces (b :: b₁ :: b₂ :: rest) = scalarOf [b₁, b₂] lead.bits :: pieces rest := by
  rw [pieces, if_neg beyond, announced]
  simp only [admitted, following, second, Bool.not_true, Bool.false_eq_true, if_false, if_true,
    Nat.reduceEqDiff]

theorem cut_four (following : lead.following = 3) (second : isContinuation b₂ = true)
    (third : isContinuation b₃ = true) :
    pieces (b :: b₁ :: b₂ :: b₃ :: rest) = scalarOf [b₁, b₂, b₃] lead.bits :: pieces rest := by
  rw [pieces, if_neg beyond, announced]
  simp only [admitted, following, second, third, Bool.not_true, Bool.false_eq_true, if_false,
    Nat.reduceEqDiff]

end Cuts

/-- The bits that are collected are those of the character's number. -/
theorem scalarOf_eq {c : Char} {bits : List UInt8} {high : Nat}
    (value : bits.foldl (fun value b => value * 64 + b.toNat % 64) high = c.toNat) :
    scalarOf bits high = .scalar c := by
  rw [scalarOf, value, Char.ofNat_toNat]

/-! ### Characters -/

section Characters

variable {c : Char} (rest : List UInt8)

theorem toNat_oneByte (small : c.toNat < 0x80) : (UInt8.ofNat c.toNat).toNat = c.toNat := by
  rw [UInt8.toNat_ofNat', Nat.mod_eq_of_lt (by omega)]

theorem pieces_oneByte (small : c.toNat < 0x80) :
    pieces (UInt8.ofNat c.toNat :: rest) = .scalar c :: pieces rest := by
  have early : UInt8.ofNat c.toNat < 0x80 := by
    rw [UInt8.lt_iff_toNat_lt, toNat_oneByte small]
    exact small
  rw [pieces, if_pos early, toNat_oneByte small, Char.ofNat_toNat]

theorem pieces_twoBytes (least : 0x80 ≤ c.toNat) (small : c.toNat < 0x800) :
    pieces (UInt8.ofNat (c.toNat / 64 % 32 + 192) :: UInt8.ofNat (c.toNat % 64 + 128) :: rest) =
      .scalar c :: pieces rest := by
  have last : c.toNat % 64 < 64 := Nat.mod_lt _ (by decide)
  have value : c.toNat / 64 % 32 * 64 + (c.toNat % 64 + 128) % 64 = c.toNat := by omega
  have admitted : Lead.admits ⟨1, 0x80, 0xBF, c.toNat / 64 % 32⟩
      (UInt8.ofNat (c.toNat % 64 + 128)) = true :=
    admits_following last (Nat.le_add_left 128 _)
      (Nat.add_le_add_right (Nat.le_of_lt_succ last) 128)
  rw [cut_two (not_ascii (by omega) (by omega)) (lead?_two (by omega) (by omega)) admitted rest rfl,
    scalarOf_eq]
  simp only [List.foldl_cons, List.foldl_nil, toNat_following last, value]

/-- Numbers below 0x800 have shorter encodings, and those from 0xD800 to 0xDFFF none. -/
theorem pieces_threeBytes (least : 0x800 ≤ c.toNat) (small : c.toNat < 0x10000) :
    pieces (UInt8.ofNat (c.toNat / 4096 % 16 + 224) :: UInt8.ofNat (c.toNat / 64 % 64 + 128) ::
      UInt8.ofNat (c.toNat % 64 + 128) :: rest) = .scalar c :: pieces rest := by
  have middle : c.toNat / 64 % 64 < 64 := Nat.mod_lt _ (by decide)
  have last : c.toNat % 64 < 64 := Nat.mod_lt _ (by decide)
  have valid : c.toNat < 0xD800 ∨ 0xDFFF < c.toNat ∧ c.toNat < 0x110000 := c.valid
  have value : (c.toNat / 4096 % 16 * 64 + (c.toNat / 64 % 64 + 128) % 64) * 64 +
      (c.toNat % 64 + 128) % 64 = c.toNat := by
    omega
  have lower : (if c.toNat / 4096 % 16 = 0 then (0xA0 : UInt8) else 0x80).toNat ≤
      c.toNat / 64 % 64 + 128 := by
    split
    · show 160 ≤ _
      omega
    · exact Nat.le_add_left 128 _
  have upper : c.toNat / 64 % 64 + 128 ≤
      (if c.toNat / 4096 % 16 = 13 then (0x9F : UInt8) else 0xBF).toNat := by
    split
    · show _ ≤ 159
      omega
    · exact Nat.add_le_add_right (Nat.le_of_lt_succ middle) 128
  rw [cut_three (not_ascii (by omega) (by omega)) (lead?_three (Nat.mod_lt _ (by decide)))
      (admits_following middle lower upper) rest rfl (isContinuation_following last),
    scalarOf_eq]
  simp only [List.foldl_cons, List.foldl_nil, toNat_following middle, toNat_following last, value]

/-- Numbers below 0x10000 have shorter encodings, and those from 0x110000 none. -/
theorem pieces_fourBytes (least : 0x10000 ≤ c.toNat) :
    pieces (UInt8.ofNat (c.toNat / 262144 % 8 + 240) :: UInt8.ofNat (c.toNat / 4096 % 64 + 128) ::
      UInt8.ofNat (c.toNat / 64 % 64 + 128) :: UInt8.ofNat (c.toNat % 64 + 128) :: rest) =
        .scalar c :: pieces rest := by
  have second : c.toNat / 4096 % 64 < 64 := Nat.mod_lt _ (by decide)
  have third : c.toNat / 64 % 64 < 64 := Nat.mod_lt _ (by decide)
  have last : c.toNat % 64 < 64 := Nat.mod_lt _ (by decide)
  have valid : c.toNat < 0xD800 ∨ 0xDFFF < c.toNat ∧ c.toNat < 0x110000 := c.valid
  have value : ((c.toNat / 262144 % 8 * 64 + (c.toNat / 4096 % 64 + 128) % 64) * 64 +
      (c.toNat / 64 % 64 + 128) % 64) * 64 + (c.toNat % 64 + 128) % 64 = c.toNat := by
    omega
  have lower : (if c.toNat / 262144 % 8 = 0 then (0x90 : UInt8) else 0x80).toNat ≤
      c.toNat / 4096 % 64 + 128 := by
    split
    · show 144 ≤ _
      omega
    · exact Nat.le_add_left 128 _
  have upper : c.toNat / 4096 % 64 + 128 ≤
      (if c.toNat / 262144 % 8 = 4 then (0x8F : UInt8) else 0xBF).toNat := by
    split
    · show _ ≤ 143
      omega
    · exact Nat.add_le_add_right (Nat.le_of_lt_succ second) 128
  rw [cut_four (not_ascii (by omega) (by omega)) (lead?_four (by omega))
      (admits_following second lower upper) rest rfl (isContinuation_following third)
      (isContinuation_following last),
    scalarOf_eq]
  simp only [List.foldl_cons, List.foldl_nil, toNat_following second, toNat_following third,
    toNat_following last, value]

end Characters

/-- The bytes of a character are cut off as that character, whatever comes after them. -/
theorem pieces_encodeChar_append (c : Char) (rest : List UInt8) :
    pieces (String.utf8EncodeChar c ++ rest) = .scalar c :: pieces rest := by
  rw [String.utf8EncodeChar, show c.val.toNat = c.toNat from rfl]
  split
  case isTrue small => exact pieces_oneByte rest (Nat.lt_succ_of_le small)
  case isFalse large =>
    split
    case isTrue small =>
      exact pieces_twoBytes rest (Nat.not_le.mp large) (Nat.lt_succ_of_le small)
    case isFalse large =>
      split
      case isTrue small =>
        exact pieces_threeBytes rest (Nat.not_le.mp large) (Nat.lt_succ_of_le small)
      case isFalse large => exact pieces_fourBytes rest (Nat.not_le.mp large)

theorem encodeChar_of_lt {c : Char} (small : c.toNat < 0x80) :
    String.utf8EncodeChar c = [UInt8.ofNat c.toNat] := by
  rw [String.utf8EncodeChar, show c.val.toNat = c.toNat from rfl, if_pos (Nat.le_of_lt_succ small)]

theorem one_lt_length_encodeChar {c : Char} (beyond : 0x80 ≤ c.toNat) :
    1 < (String.utf8EncodeChar c).length := by
  rw [String.utf8EncodeChar, show c.val.toNat = c.toNat from rfl, if_neg (Nat.not_le.mpr beyond)]
  split
  · exact Nat.one_lt_two
  · split
    · exact Nat.lt_of_sub_eq_succ rfl
    · exact Nat.lt_of_sub_eq_succ rfl

/-! ### Texts -/

theorem pieces_encode (text : List Char) : pieces (encode text) = text.map .scalar := by
  induction text with
  | nil => rw [encode, List.flatMap_nil, pieces, List.map_nil]
  | cons c rest inductionHypothesis =>
    rw [encode, List.flatMap_cons, pieces_encodeChar_append, ← encode, inductionHypothesis,
      List.map_cons]

/-- An encoded text is read back as it was. -/
theorem decode?_encode (text : List Char) : decode? (encode text) = some text := by
  rw [decode?, pieces_encode, List.mapM_map]
  show text.mapM (fun c => (pure c : Option Char)) = some text
  rw [List.mapM_pure, List.map_id']
  rfl

end Fixity.Text.Utf8
