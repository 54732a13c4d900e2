/-
This file proves that a text in lower case has nothing left to lower. The table of
lower forms lists capital letters in runs; that no letter of it is what another one
is lowered to is settled for the whole table at once, with both sets of letters as
the bits of a number. Lowering never drops a character, and brings no digits and
none of the marks before the capital letters into a text.
-/

import Fixity.Text.Lowercase

namespace Fixity.Text

/-! ### Sets of numbers -/

/-- A set of numbers as the bits of one number. -/
def bits (numbers : List Nat) : Nat :=
  numbers.foldr (fun n set => set ||| 1 <<< n) 0

theorem testBit_bits {numbers : List Nat} {n : Nat} :
    (bits numbers).testBit n = true ↔ n ∈ numbers := by
  induction numbers with
  | nil => simp only [bits, List.foldr_nil, Nat.zero_testBit, Bool.false_eq_true, List.not_mem_nil]
  | cons m rest inductionHypothesis =>
    rw [bits, List.foldr_cons, ← bits, Nat.testBit_or, Bool.or_eq_true, inductionHypothesis,
      List.mem_cons, Nat.one_shiftLeft, Nat.testBit_two_pow, decide_eq_true_eq, or_comm, eq_comm]

theorem notMem_of_bits_land {numbers others : List Nat}
    (separate : bits numbers &&& bits others = 0) {n : Nat} (member : n ∈ numbers) :
    n ∉ others := by
  intro too
  have both : (bits numbers &&& bits others).testBit n = true := by
    rw [Nat.testBit_and, testBit_bits.mpr member, testBit_bits.mpr too]
    rfl
  rw [separate, Nat.zero_testBit] at both
  cases both

/-! ### The table of lower forms -/

/-- The numbers of the letters in a run. -/
def letters : Nat × Nat × Nat × Int → List Nat
  | (first, last, step, _) => List.range' first ((last - first) / step + 1) step

/-- The number of the letter that a letter of a run is lowered to. -/
def shift (run : Nat × Nat × Nat × Int) (n : Nat) : Nat :=
  ((n : Int) + run.2.2.2).toNat

/-- The letters that are lowered: a capital I with a dot above, which goes to two characters, and
those of the table. -/
def capitals : List Nat :=
  0x130 :: loweringRuns.flatMap letters

/-- The letters that those of the table are lowered to. -/
def smalls : List Nat :=
  loweringRuns.flatMap fun run => (letters run).map (shift run)

theorem smalls_separate : bits smalls &&& bits capitals = 0 := by
  decide +kernel

/-- Every letter that is lowered to is a character after the capital letters of ASCII. -/
theorem smalls_late : ∀ n ∈ smalls, 0x5A < n ∧ n.isValidChar := by
  decide +kernel

/-- A character is its own simple lower form, or it is a letter of the table and shifted along with
its run. -/
theorem simpleLower_cases (c : Char) :
    simpleLower c = c ∨ c.toNat ∈ capitals ∧ (simpleLower c).toNat ∈ smalls := by
  rw [simpleLower]
  dsimp only
  split
  · rename_i first last step difference found
    have listed := List.mem_of_find?_eq_some found
    have inside := List.find?_some found
    simp only [Bool.and_eq_true, decide_eq_true_eq, beq_iff_eq] at inside
    obtain ⟨⟨least, most⟩, steps⟩ := inside
    have letter : c.toNat ∈ letters (first, last, step, difference) := by
      refine List.mem_range'.mpr ⟨(c.toNat - first) / step, ?_, ?_⟩
      · exact Nat.lt_succ_of_le (Nat.div_le_div_right (Nat.sub_le_sub_right most first))
      · rw [Nat.mul_div_cancel' (Nat.dvd_of_mod_eq_zero steps), Nat.add_sub_cancel' least]
    have small : shift (first, last, step, difference) c.toNat ∈ smalls :=
      List.mem_flatMap.mpr ⟨_, listed, List.mem_map_of_mem letter⟩
    refine .inr ⟨List.mem_cons_of_mem _ (List.mem_flatMap.mpr ⟨_, listed, letter⟩), ?_⟩
    show (Char.ofNat (shift (first, last, step, difference) c.toNat)).toNat ∈ smalls
    rw [Char.ofNat, dif_pos (smalls_late _ small).2]
    exact small
  · exact .inl rfl

/-! ### Characters in lower case -/

/-- A character that lowering leaves as it is, wherever it stands. -/
def Lowered (c : Char) : Prop :=
  ∀ before after, lowerAt before c after = [c]

theorem lowered_of_ascii {c : Char} (ascii : c.toNat < 0x80) (small : c.toLower = c) :
    Lowered c := by
  intro before after
  have noSigma : c ≠ 'Σ' := fun same => absurd (same ▸ ascii) (by decide)
  have noDotted : c ≠ '\u0130' := fun same => absurd (same ▸ ascii) (by decide)
  rw [lowerAt, if_neg noSigma, if_neg noDotted, if_pos ascii, small]

theorem lowered_of_simpleLower {c : Char} (noSigma : c ≠ 'Σ') (noDotted : c ≠ '\u0130')
    (foreign : ¬ c.toNat < 0x80) (small : simpleLower c = c) : Lowered c := by
  intro before after
  rw [lowerAt, if_neg noSigma, if_neg noDotted, if_neg foreign, small]

/-- What comes after the capital letters of ASCII and is no letter that is lowered is in lower
case. -/
theorem lowered_of_notMem_capitals {c : Char} (late : 0x5A < c.toNat)
    (small : c.toNat ∉ capitals) : Lowered c := by
  by_cases ascii : c.toNat < 0x80
  · refine lowered_of_ascii ascii ?_
    refine dif_neg ?_
    rintro ⟨-, capital⟩
    exact absurd (show c.toNat ≤ 0x5A from capital) (Nat.not_le.mpr late)
  · refine lowered_of_simpleLower ?_ ?_ ascii ?_
    · rintro rfl
      exact small (by decide +kernel)
    · rintro rfl
      exact small List.mem_cons_self
    · exact (simpleLower_cases c).resolve_right fun capital => small capital.1

theorem toLower_spec {c : Char} (ascii : c.toNat < 0x80) :
    Lowered c.toLower ∧ (c.toLower = c ∨ 0x5A < c.toLower.toNat) := by
  have each : ∀ n < 0x80, (Char.ofNat n).toLower.toNat < 0x80 ∧
      (Char.ofNat n).toLower.toLower = (Char.ofNat n).toLower ∧
      ((Char.ofNat n).toLower = Char.ofNat n ∨ 0x5A < (Char.ofNat n).toLower.toNat) := by
    decide +kernel
  obtain ⟨still, small, either⟩ := each c.toNat ascii
  rw [Char.ofNat_toNat] at still small either
  exact ⟨lowered_of_ascii still small, either⟩

/-- What a character is lowered to is in lower case, and is the character itself or comes after the
capital letters of ASCII. -/
theorem lowerAt_spec {before after : List Char} {c d : Char} (member : d ∈ lowerAt before c after) :
    Lowered d ∧ (d = c ∨ 0x5A < d.toNat) := by
  rw [lowerAt] at member
  split at member
  case isTrue =>
    have sigma : d = 'ς' ∨ d = 'σ' := by
      rw [List.mem_singleton] at member
      split at member
      · exact .inl member
      · exact .inr member
    obtain rfl | rfl := sigma <;>
      exact ⟨lowered_of_notMem_capitals (by decide) (by decide +kernel), .inr (by decide)⟩
  case isFalse noSigma =>
    split at member
    case isTrue =>
      have dotted : d = 'i' ∨ d = '\u0307' := by
        simpa only [List.mem_cons, List.not_mem_nil, or_false] using member
      obtain rfl | rfl := dotted <;>
        exact ⟨lowered_of_notMem_capitals (by decide) (by decide +kernel), .inr (by decide)⟩
    case isFalse noDotted =>
      split at member
      case isTrue ascii =>
        rw [List.mem_singleton.mp member]
        exact toLower_spec ascii
      case isFalse foreign =>
        rw [List.mem_singleton.mp member]
        obtain same | ⟨-, small⟩ := simpleLower_cases c
        · rw [same]
          exact ⟨lowered_of_simpleLower noSigma noDotted foreign same, .inl rfl⟩
        · have late := (smalls_late _ small).1
          exact ⟨lowered_of_notMem_capitals late (notMem_of_bits_land smalls_separate small),
            .inr late⟩

theorem lowerAt_ne_nil (before : List Char) (c : Char) (after : List Char) :
    lowerAt before c after ≠ [] := by
  rw [lowerAt]
  repeat' split
  all_goals exact List.cons_ne_nil _ _

/-! ### Texts in lower case -/

/-- Every character of a text in lower case comes from one of the text. -/
theorem exists_mem_lowerAt {text before : List Char} {d : Char}
    (member : d ∈ lowerFrom before text) :
    ∃ c ∈ text, ∃ earlier later, d ∈ lowerAt earlier c later := by
  induction text generalizing before with
  | nil => exact absurd member List.not_mem_nil
  | cons c rest inductionHypothesis =>
    obtain here | later := List.mem_append.mp member
    · exact ⟨c, List.mem_cons_self, before, rest, here⟩
    · obtain ⟨other, among, found⟩ := inductionHypothesis later
      exact ⟨other, List.mem_cons_of_mem c among, found⟩

theorem lowered_of_mem_lower {text : List Char} {c : Char} (member : c ∈ lower text) :
    Lowered c := by
  obtain ⟨_, -, _, _, found⟩ := exists_mem_lowerAt member
  exact (lowerAt_spec found).1

/-- Lowering brings nothing into a text that comes before the small letters of ASCII: no digits, and
none of the marks that hold the parts of an address apart. -/
theorem mem_of_mem_lower {text : List Char} {c : Char} (member : c ∈ lower text)
    (early : c.toNat ≤ 0x5A) : c ∈ text := by
  obtain ⟨origin, among, _, _, found⟩ := exists_mem_lowerAt member
  obtain rfl | late := (lowerAt_spec found).2
  · exact among
  · exact absurd late (Nat.not_lt.mpr early)

theorem lowerFrom_eq_self {text : List Char} (small : ∀ c ∈ text, Lowered c)
    (before : List Char) : lowerFrom before text = text := by
  induction text generalizing before with
  | nil => rfl
  | cons c rest inductionHypothesis =>
    rw [lowerFrom, small c List.mem_cons_self,
      inductionHypothesis fun other among => small other (List.mem_cons_of_mem c among)]
    rfl

/-- A text of characters in lower case is not changed by lowering. -/
theorem lower_eq_self {text : List Char} (small : ∀ c ∈ text, Lowered c) : lower text = text :=
  lowerFrom_eq_self small []

/-- A text in lower case has nothing left to lower. -/
theorem lower_lower (text : List Char) : lower (lower text) = lower text :=
  lower_eq_self fun _ => lowered_of_mem_lower

theorem toList_lowerString (text : String) : (lowerString text).toList = lower text.toList :=
  String.toList_ofList

theorem length_le_length_lowerFrom (text before : List Char) :
    text.length ≤ (lowerFrom before text).length := by
  induction text generalizing before with
  | nil => exact Nat.le_refl 0
  | cons c rest inductionHypothesis =>
    have some := List.length_pos_iff.mpr (lowerAt_ne_nil before c rest)
    have more := inductionHypothesis (c :: before)
    rw [lowerFrom, List.length_cons, List.length_append]
    omega

/-- Lowering never drops a character. -/
theorem length_le_length_lower (text : List Char) : text.length ≤ (lower text).length :=
  length_le_length_lowerFrom text []

end Fixity.Text
