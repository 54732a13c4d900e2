/-
This file fixes what the outside answers to the queries about a file: what the
catalog knows of it, which copy is chosen, what the store reports of that copy, and
what its content is. Each of these may be a failure. Claims that compare two runs in
the same circumstances, or a run with what the circumstances call for, are made over
such answers; the clock, fresh identifiers and the saving of events stay free.
-/

import Fixity.Proofs.Yields

namespace Fixity

/-- What the catalog, the choice of a copy and the stores answer when they are asked. -/
structure Answers where
  file : Int64 → Except Catalog.Failure Catalog.File
  resolution : Catalog.File → Storage.Resolution
  stat : Storage.Source → Except Storage.Failure Storage.Stat
  body : Storage.Source → Except Storage.Failure Storage.Body

namespace Answers

/-- The exchange carries the answer that is given to its query. -/
def Give (answers : Answers) : Exchange → Prop
  | ⟨.getFile id, answer⟩ => answer = answers.file id
  | ⟨.resolve file, answer⟩ => answer = answers.resolution file
  | ⟨.stat source, answer⟩ => answer = answers.stat source
  | ⟨.get source, answer⟩ => answer = answers.body source
  | _ => True

/-- All exchanges carry the answers that are given to their queries. -/
def Explain (answers : Answers) (exchanges : List Exchange) : Prop :=
  ∀ exchange ∈ exchanges, answers.Give exchange

@[simp]
theorem explain_nil (answers : Answers) : answers.Explain [] :=
  fun _ member => absurd member List.not_mem_nil

@[simp]
theorem explain_cons (answers : Answers) (exchange : Exchange) (rest : List Exchange) :
    answers.Explain (exchange :: rest) ↔ answers.Give exchange ∧ answers.Explain rest :=
  List.forall_mem_cons

/-- Nothing is settled about exchanges that are no dealings. -/
theorem give_of_not_isDealing (answers : Answers) {exchange : Exchange}
    (quiet : exchange.query.isDealing = false) : answers.Give exchange := by
  obtain ⟨query, answer⟩ := exchange
  cases query <;> first | exact True.intro | cases quiet

theorem explain_dealings_iff (answers : Answers) (exchanges : List Exchange) :
    answers.Explain (dealings exchanges) ↔ answers.Explain exchanges := by
  constructor
  · intro explain exchange member
    cases quiet : exchange.query.isDealing with
    | false => exact answers.give_of_not_isDealing quiet
    | true => exact explain exchange (mem_dealings.mpr ⟨member, quiet⟩)
  · intro explain exchange member
    exact explain exchange (mem_dealings.mp member).1

/-! ### Worlds with fixed answers -/

/-- The world that always gives these answers. Its clock stands still, and every event is saved. -/
def world (answers : Answers) (time : Time.Timestamp) : World Unit where
  answer _
    | .getFile id => (answers.file id, ())
    | .resolve file => (answers.resolution file, ())
    | .stat source => (answers.stat source, ())
    | .get source => (answers.body source, ())
    | .saveEvent _ => (.ok (), ())
    | .now => (time, ())
    | .newUuid => (.nil, ())
    | .pause _ | .log _ => ((), ())

/-- The answers explain every run in their world. -/
theorem explain_run_world (answers : Answers) (time : Time.Timestamp) (program : Program α) :
    answers.Explain (program.run (answers.world time) ()).exchanges := by
  induction program with
  | done value => exact answers.explain_nil
  | ask query next inductionHypothesis =>
    refine (answers.explain_cons _ _).mpr ⟨?_, inductionHypothesis _⟩
    cases query <;> first | rfl | exact True.intro

end Answers

end Fixity
