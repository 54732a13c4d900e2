/-
This file proves that reports and saved events never part, however often checks are
invoked. A check is asked for by itself, in its reduced form, or in a request; each
way hands on the same report, with the same dealings. One invocation follows
another in a world that remembers, so the world may answer each of them as it
likes; the counts still add up to the number of events that were saved.
-/

import Fixity.Proofs.Check.Coherence
import Fixity.Proofs.Service.Posting
import Mathlib.Algebra.GroupWithZero.Nat

namespace Fixity.Check

open Program

/-! ### Invocations -/

/-- A way to have a file checked. -/
inductive Invocation where
  | check (settings : Settings) (id : Int64)
  | run (settings : Settings) (id : Int64)
  | request (deployment : Service.Deployment) (posted : Service.CheckRequest)

/-- What an invocation hands back. -/
inductive Result where
  | report (report : Report)
  | tally (count : UInt32) (issues : List Issue)
  | response (response : Service.Response)

namespace Invocation

/-- The settings of the check that is invoked. -/
def settings : Invocation → Settings
  | check settings _ | run settings _ => settings
  | request deployment _ => deployment.settings

/-- The file that is checked. -/
def id : Invocation → Int64
  | check _ id | run _ id => id
  | request _ posted => posted.id

/-- The program of an invocation. -/
def program : Invocation → Program Result
  | check settings id => return .report (← Check.check settings id)
  | run settings id => do
    let (count, issues) ← Check.run settings id
    return .tally count issues
  | request deployment posted => return .response (← Service.respond deployment posted.request)

/-- How an invocation hands a report back. -/
def present (report : Report) : Invocation → Result
  | check _ _ => .report report
  | run _ _ => .tally report.count report.issues
  | request _ _ =>
    .response (.json (if report.hasFatalIssue then .unprocessable else .ok) report.toJson)

/-- An invocation hands back the report of its check, and has no dealings beyond it. -/
theorem run_program (world : World σ) (state : σ) (invocation : Invocation) :
    let checked := (Check.check invocation.settings invocation.id).run world state
    (invocation.program.run world state).value = invocation.present checked.value ∧
      dealings (invocation.program.run world state).exchanges = dealings checked.exchanges := by
  cases invocation with
  | check settings id =>
    simp only [program, run_bind, dealings_append]
    exact ⟨rfl, List.append_nil _⟩
  | run settings id =>
    simp only [program, Check.run, run_bind, dealings_append]
    refine ⟨rfl, ?_⟩
    exact (List.append_nil _).trans (List.append_nil _)
  | request deployment posted =>
    simp only [program, posted.respond_eq, run_bind, dealings_append]
    -- The entry about the report is no dealing.
    exact ⟨rfl, (List.append_nil _).trans (List.append_nil _)⟩

/-- The report of the check that an invocation starts in a state of the world. -/
def report (world : World σ) (state : σ) (invocation : Invocation) : Report :=
  ((Check.check invocation.settings invocation.id).run world state).value

/-- Every invocation is coherent with the report of its check. -/
theorem coherent (world : World σ) (state : σ) (invocation : Invocation) :
    Coherent invocation.id (invocation.report world state)
      (invocation.program.run world state).exchanges :=
  (course_of_run world state invocation.settings invocation.id).coherent
    (invocation.run_program world state).2

end Invocation

/-! ### Sequences of invocations -/

/-- An invocation, the report of its check, and what its run left. -/
structure Invoked (σ : Type) where
  invocation : Invocation
  report : Report
  run : Run σ Result

/-- Invocations one after the other, each in the state that the one before it left. -/
def invokeAll (world : World σ) : σ → List Invocation → List (Invoked σ)
  | _, [] => []
  | state, invocation :: rest =>
    let run := invocation.program.run world state
    ⟨invocation, invocation.report world state, run⟩ :: invokeAll world run.state rest

/-- What holds of every invocation in every state holds of each in a sequence. -/
theorem forall_mem_invokeAll (world : World σ) (state : σ) (invocations : List Invocation)
    {property : Invoked σ → Prop}
    (each : ∀ (state : σ) (invocation : Invocation),
      property ⟨invocation, invocation.report world state, invocation.program.run world state⟩) :
    ∀ invoked ∈ invokeAll world state invocations, property invoked := by
  induction invocations generalizing state with
  | nil => exact nofun
  | cons invocation rest inductionHypothesis =>
    exact List.forall_mem_cons.mpr ⟨each state invocation, inductionHypothesis _⟩

theorem map_invocation_invokeAll (world : World σ) (state : σ) (invocations : List Invocation) :
    (invokeAll world state invocations).map Invoked.invocation = invocations := by
  induction invocations generalizing state with
  | nil => rfl
  | cons invocation rest inductionHypothesis =>
    rw [invokeAll, List.map_cons, inductionHypothesis]

/-- **Reports and events never part.** Along every sequence of invocations in every world, each
hands back the report of its check, which is coherent with what the run did, and together they
counted as many files as they saved events. -/
theorem coherent_invokeAll (world : World σ) (state : σ) (invocations : List Invocation) :
    let all := invokeAll world state invocations
    all.map Invoked.invocation = invocations ∧
      (∀ invoked ∈ all, invoked.run.value = invoked.invocation.present invoked.report ∧
        Coherent invoked.invocation.id invoked.report invoked.run.exchanges) ∧
      (all.map fun invoked => invoked.report.count.toNat).sum =
        (all.flatMap fun invoked => invoked.run.savedEvents).length := by
  intro all
  have coherent : ∀ invoked ∈ all,
      Coherent invoked.invocation.id invoked.report invoked.run.exchanges :=
    forall_mem_invokeAll world state invocations fun state invocation =>
      invocation.coherent world state
  have presented : ∀ invoked ∈ all,
      invoked.run.value = invoked.invocation.present invoked.report :=
    forall_mem_invokeAll world state invocations fun state invocation =>
      (invocation.run_program world state).1
  refine ⟨map_invocation_invokeAll world state invocations,
    fun invoked member => ⟨presented invoked member, coherent invoked member⟩, ?_⟩
  rw [List.length_flatMap]
  refine congrArg List.sum (List.map_congr_left fun invoked member => ?_)
  rw [Run.savedEvents_eq]
  exact (coherent invoked member).total

end Fixity.Check
