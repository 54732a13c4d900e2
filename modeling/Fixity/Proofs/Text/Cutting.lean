/-
This file says what the cuts of a text come to: what is dropped at the beginning
is a prefix, and the parts between marks are those of the library's cut at an
element, so that parts without marks are found again between them.
-/

import Fixity.Text.Ascii
import Mathlib.Data.List.DropRight

namespace Fixity.Text

/-! ### Beginnings -/

theorem dropBeginning?_eq_some_iff {beginning text rest : List Char} :
    dropBeginning? beginning text = some rest ↔ beginning ++ rest = text := by
  induction beginning, text using dropBeginning?.induct with
  | case1 text => simp only [dropBeginning?, Option.some.injEq, List.nil_append, eq_comm]
  | case2 c beginning =>
    simp only [dropBeginning?, reduceCtorEq, List.cons_append]
  | case3 beginning d text inductionHypothesis =>
    simp only [dropBeginning?, if_true, inductionHypothesis, List.cons_append, List.cons.injEq,
      true_and]
  | case4 c beginning d text other =>
    simp only [dropBeginning?, other, if_false, reduceCtorEq, List.cons_append, List.cons.injEq,
      false_and]

theorem isSome_dropBeginning?_iff {beginning text : List Char} :
    (dropBeginning? beginning text).isSome = true ↔ beginning <+: text := by
  simp only [Option.isSome_iff_exists, dropBeginning?_eq_some_iff]
  exact Iff.rfl

theorem dropBeginning?_append (beginning rest : List Char) :
    dropBeginning? beginning (beginning ++ rest) = some rest :=
  dropBeginning?_eq_some_iff.mpr rfl

/-! ### Ends -/

/-- A text that does not end in a mark has no such marks to drop. -/
theorem dropTrailing_eq_self {mark : Char} {text : List Char} (bare : text.getLast? ≠ some mark) :
    dropTrailing mark text = text := by
  refine List.rdropWhile_eq_self_iff.mpr fun present => ?_
  rw [List.getLast?_eq_some_getLast present, ne_eq, Option.some.injEq] at bare
  exact mt beq_iff_eq.mp bare

/-- The bare string neither begins nor ends in a mark, and the whole one is it between any number of
marks. -/
structure Stripped (mark : Char) (whole bare : String) : Prop where
  split : ∃ before after, whole.toList =
    List.replicate before mark ++ bare.toList ++ List.replicate after mark
  start : bare.toList.head? ≠ some mark
  stop : bare.toList.getLast? ≠ some mark

theorem exists_replicate_append_dropWhile (mark : Char) (text : List Char) :
    ∃ n, text = List.replicate n mark ++ text.dropWhile (· == mark) := by
  have marks : ∀ c ∈ text.takeWhile (· == mark), c = mark := by
    intro c member
    exact beq_iff_eq.mp (List.all_eq_true.mp List.all_takeWhile c member)
  refine ⟨(text.takeWhile (· == mark)).length, ?_⟩
  rw [← List.eq_replicate_of_mem marks, List.takeWhile_append_dropWhile]

theorem head?_dropWhile_ne (mark : Char) (text : List Char) :
    (text.dropWhile (· == mark)).head? ≠ some mark := by
  intro starts
  have other := List.head?_dropWhile_not (· == mark) text
  rw [starts] at other
  exact absurd other (by simp)

theorem stripped_dropAroundString (mark : Char) (text : String) :
    Stripped mark text (dropAroundString mark text) := by
  obtain ⟨before, front⟩ := exists_replicate_append_dropWhile mark text.toList
  have started := head?_dropWhile_ne mark text.toList
  obtain ⟨after, back⟩ :=
    exists_replicate_append_dropWhile mark (text.toList.dropWhile (· == mark)).reverse
  have rest : text.toList.dropWhile (· == mark) =
      (dropAroundString mark text).toList ++ List.replicate after mark := by
    rw [dropAroundString, String.toList_ofList, dropTrailing]
    have reversed := congrArg List.reverse back
    rwa [List.reverse_reverse, List.reverse_append, List.reverse_replicate] at reversed
  refine ⟨⟨before, after, ?_⟩, ?_, ?_⟩
  · rw [List.append_assoc, ← rest, ← front]
  · intro starts
    rw [rest, List.head?_append, starts, Option.some_or] at started
    exact started rfl
  · rw [dropAroundString, String.toList_ofList, dropTrailing, List.getLast?_reverse]
    exact head?_dropWhile_ne mark _

/-! ### Parts -/

theorem splitFirst?_append_cons {mark : Char} {part : List Char} (whole : mark ∉ part)
    (rest : List Char) : splitFirst? mark (part ++ mark :: rest) = some (part, rest) := by
  induction part with
  | nil => exact if_pos rfl
  | cons c part inductionHypothesis =>
    obtain ⟨differ, whole⟩ := not_or.mp (mt List.mem_cons.mpr whole)
    rw [List.cons_append, splitFirst?, if_neg (Ne.symm differ), inductionHypothesis whole]
    rfl

theorem splitFirst?_of_notMem {mark : Char} {text : List Char} (whole : mark ∉ text) :
    splitFirst? mark text = none := by
  induction text with
  | nil => rfl
  | cons c rest inductionHypothesis =>
    obtain ⟨differ, whole⟩ := not_or.mp (mt List.mem_cons.mpr whole)
    rw [splitFirst?, if_neg (Ne.symm differ), inductionHypothesis whole, Option.map_none]

theorem splitAll_append_cons {mark : Char} {part : List Char} (whole : mark ∉ part)
    (rest : List Char) : splitAll mark (part ++ mark :: rest) = part :: splitAll mark rest := by
  induction part with
  | nil => exact if_pos rfl
  | cons c part inductionHypothesis =>
    obtain ⟨differ, whole⟩ := not_or.mp (mt List.mem_cons.mpr whole)
    rw [List.cons_append, splitAll, if_neg (Ne.symm differ), inductionHypothesis whole]

theorem splitAll_eq_splitOn (mark : Char) (text : List Char) :
    splitAll mark text = text.splitOn mark := by
  induction text with
  | nil => rw [splitAll, List.splitOn_nil]
  | cons c rest inductionHypothesis =>
    rw [splitAll, List.splitOn_cons_eq_if_modifyHead, inductionHypothesis]
    by_cases marked : c = mark
    · rw [if_pos marked, if_pos (beq_iff_eq.mpr marked)]
    · rw [if_neg marked, if_neg (mt beq_iff_eq.mp marked)]
      cases parts : rest.splitOn mark with
      | nil => exact absurd parts (List.splitOn_ne_nil mark rest)
      | cons part parts => rfl

theorem splitAll_ne_nil (mark : Char) (text : List Char) : splitAll mark text ≠ [] := by
  rw [splitAll_eq_splitOn]
  exact List.splitOn_ne_nil mark text

theorem not_mem_of_mem_splitAll {mark : Char} {text part : List Char}
    (member : part ∈ splitAll mark text) : mark ∉ part := by
  induction text generalizing part with
  | nil =>
    rw [List.mem_singleton.mp member]
    exact List.not_mem_nil
  | cons c rest inductionHypothesis =>
    rw [splitAll] at member
    by_cases marked : c = mark
    · rw [if_pos marked] at member
      rcases List.mem_cons.mp member with rfl | later
      · exact List.not_mem_nil
      · exact inductionHypothesis later
    · rw [if_neg marked] at member
      cases parts : splitAll mark rest with
      | nil =>
        rw [parts] at member
        rw [List.mem_singleton.mp member]
        exact fun found => marked (List.mem_singleton.mp found).symm
      | cons first parts' =>
        rw [parts] at member inductionHypothesis
        rcases List.mem_cons.mp member with rfl | later
        · rw [List.mem_cons, not_or]
          exact ⟨fun same => marked same.symm, inductionHypothesis List.mem_cons_self⟩
        · exact inductionHypothesis (List.mem_cons_of_mem _ later)

/-- The parts of a text are those without marks that give it when they are put together. -/
theorem splitAll_eq_iff {mark : Char} {text : List Char} {parts : List (List Char)}
    (present : parts ≠ []) :
    splitAll mark text = parts ↔ [mark].intercalate parts = text ∧ ∀ part ∈ parts, mark ∉ part := by
  constructor
  · rintro rfl
    refine ⟨?_, fun part => not_mem_of_mem_splitAll⟩
    rw [splitAll_eq_splitOn]
    exact List.intercalate_splitOn mark
  · rintro ⟨rfl, whole⟩
    rw [splitAll_eq_splitOn]
    exact List.splitOn_intercalate mark whole present

end Fixity.Text
