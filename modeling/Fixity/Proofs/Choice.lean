/-
This file speaks of choices that are made along a list: at each element the best one
so far is kept or the element takes its place.
-/

import Mathlib.Data.List.Basic

namespace Fixity

/-- What is chosen along a list is an element of it, or what was best before it. -/
theorem foldl_choose_eq_some {choose : Option α → α → Option α}
    (either : ∀ {best next chosen}, choose best next = some chosen →
      best = some chosen ∨ next = chosen)
    {elements : List α} {best : Option α} {chosen : α}
    (found : elements.foldl choose best = some chosen) :
    best = some chosen ∨ chosen ∈ elements := by
  induction elements generalizing best with
  | nil => exact .inl found
  | cons next rest inductionHypothesis =>
    obtain kept | later := inductionHypothesis found
    · obtain before | rfl := either kept
      · exact .inl before
      · exact .inr List.mem_cons_self
    · exact .inr (List.mem_cons_of_mem next later)

/-- Where every step chooses something, nothing is chosen only along an empty list. -/
theorem foldl_choose_eq_none_iff {choose : Option α → α → Option α}
    (always : ∀ best next, choose best next ≠ none) {elements : List α} {best : Option α} :
    elements.foldl choose best = none ↔ best = none ∧ elements = [] := by
  induction elements generalizing best with
  | nil => simp only [List.foldl_nil, and_true]
  | cons next rest inductionHypothesis =>
    rw [List.foldl_cons, inductionHypothesis]
    constructor
    · rintro ⟨nothing, -⟩
      exact absurd nothing (always best next)
    · rintro ⟨-, ⟨⟩⟩

end Fixity
