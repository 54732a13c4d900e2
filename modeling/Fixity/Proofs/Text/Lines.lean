/-
This file says what the lines of a text are: the parts between its line feeds, one
carriage return dropped at the end of each; after the last line feed there is a line
only if there is anything. A carriage return at the very end of a text is not dropped
by the reader of lines, but no trimmed line shows the difference.
-/

import Fixity.Proofs.Text.Blanks
import Fixity.Proofs.Text.Cutting
import Fixity.Text.Lines

namespace Fixity.Text

/-! ### Lines between line feeds -/

/-- The parts of a text between its line feeds; what follows the last one counts unless it is
empty. -/
def feedParts (text : List Char) : List (List Char) :=
  let parts := text.splitOn '\n'
  if parts.getLast? = some [] then parts.dropLast else parts

/-- The lines of a text: its parts between line feeds, one carriage return at the end of each
dropped. -/
def feedLines (text : List Char) : List (List Char) :=
  (feedParts text).map withoutReturn

/-! ### The reader of lines -/

theorem pieces_eq_splitOn (current text : List Char) :
    (pieces current text).1 ++ [(pieces current text).2] =
      (text.splitOn '\n').modifyHead (current.reverse ++ ·) := by
  fun_induction pieces current text with
  | case1 current => simp only [List.splitOn_nil, List.modifyHead_cons, List.append_nil,
      List.nil_append]
  | case2 current rest closed last cut inductionHypothesis =>
    rw [cut] at inductionHypothesis
    rw [List.splitOn_cons_eq_if_modifyHead, if_pos (beq_self_eq_true _), List.modifyHead_cons,
      List.append_nil, List.cons_append, inductionHypothesis]
    exact congrArg _ (congrFun List.modifyHead_id _)
  | case3 current c rest other inductionHypothesis =>
    rw [inductionHypothesis, List.splitOn_cons_eq_if_modifyHead,
      if_neg (mt beq_iff_eq.mp other), List.modifyHead_modifyHead]
    refine congrArg (List.modifyHead · _) (funext fun part => ?_)
    simp only [List.reverse_cons, List.append_assoc, List.singleton_append, Function.comp_apply]

/-- What is read of a text are the parts between its line feeds, the last one unless it is empty. -/
theorem feedParts_eq (text : List Char) :
    feedParts text = (pieces [] text).1 ++
      if (pieces [] text).2.isEmpty then [] else [(pieces [] text).2] := by
  have cut : text.splitOn '\n' = (pieces [] text).1 ++ [(pieces [] text).2] := by
    rw [pieces_eq_splitOn]
    exact (congrFun List.modifyHead_id _).symm
  simp only [feedParts, cut, List.getLast?_concat, List.dropLast_concat, Option.some.injEq]
  split
  case isTrue empty => rw [empty, List.isEmpty_nil, if_pos rfl, List.append_nil]
  case isFalse present => rw [if_neg (mt List.isEmpty_iff.mp present)]

theorem trim_withoutReturn (line : List Char) : trim (withoutReturn line) = trim line := by
  rw [withoutReturn]
  split
  case isTrue returned =>
    obtain ⟨front, rfl⟩ := List.getLast?_eq_some_iff.mp returned
    rw [List.dropLast_concat, trim_append_right (List.forall_mem_singleton.mpr rfl)]
  case isFalse => rfl

/-- Trimmed, the lines that are read are those between the line feeds. -/
theorem map_trim_lines (text : List Char) :
    (lines text).map trim = (feedLines text).map trim := by
  have trimmed (parts : List (List Char)) :
      (parts.map withoutReturn).map trim = parts.map trim := by
    rw [List.map_map]
    exact List.map_congr_left fun line _ => trim_withoutReturn line
  rw [feedLines, trimmed, feedParts_eq, lines, List.map_append, List.map_append, trimmed]

/-! ### Text line by line -/

theorem feedParts_append_cons {part : List Char} (whole : '\n' ∉ part) (rest : List Char) :
    feedParts (part ++ '\n' :: rest) = part :: feedParts rest := by
  have present := List.splitOn_ne_nil '\n' rest
  rw [feedParts, ← splitAll_eq_splitOn, splitAll_append_cons whole, splitAll_eq_splitOn,
    List.getLast?_cons_of_ne_nil present, List.dropLast_cons_of_ne_nil present, feedParts]
  split <;> rfl

theorem feedParts_of_notMem {part : List Char} (whole : '\n' ∉ part) :
    feedParts part = if part = [] then [] else [part] := by
  have one : part.splitOn '\n' = [part] := by
    rw [← splitAll_eq_splitOn, splitAll_eq_iff (List.cons_ne_nil _ _)]
    exact ⟨List.intercalate_singleton, List.forall_mem_singleton.mpr whole⟩
  simp only [feedParts, one, List.getLast?_singleton, Option.some.injEq]
  rfl

end Fixity.Text
