/-
This file compares the audits of a file with and without the wish for a full check.
Where the catalog, the choice of a copy and the stores answer both alike, they find
the same at a quick look, and the wish counts only where that leaves a doubt: in all
other cases the two records are one, times aside. Where it leaves one, the audit that
may go on ends otherwise, but keeps what was found, so no mismatch is hidden and no
pass is lost.
-/

import Fixity.Proofs.Audit.Restraint

namespace Fixity

namespace Audit

/-! ### Two audits of one file -/

/-- A record with its ending set aside: when and how the audit ended, whether it passed the file,
and what came of the content. What the catalog and the stores said is kept, with the address of the
copy, the mismatches, the tier, and the reason for a check. -/
def Record.findings (record : Record) : Record :=
  { record with
    outcome := .errored
    startedAt := .epoch
    completedAt := none
    passed := false
    method := none
    needsColdTierCheck := false
    streamSha256 := ""
    error := "" }

/-- The record of a full audit is that of a quick one, times aside, unless the quick one left the
file for attention. Then the content is refused, verified or refuted, or it could not be read; what
was found before it stays. In no case a pass is lost or a mismatch hidden. -/
structure Escalates (quick full : Record) : Prop where
  settled : quick.outcome ≠ .needsAttention → full.timeless = quick.timeless
  resumed : quick.outcome = .needsAttention →
    full.outcome = .coldTierDeferred ∨ full.outcome = .fullFixityPassed ∨
      full.outcome = .fullFixityFailed ∨ full.outcome = .errored
  findings : quick.outcome = .needsAttention → full.findings = quick.findings
  passed : quick.passed = true → full.passed = true
  mismatch : full.mismatch = quick.mismatch
  reason : full.reason = quick.reason

theorem Record.timeless_timeless (record : Record) :
    record.timeless.timeless = record.timeless := by
  simp only [timeless, Option.map_map, Function.comp_def]

namespace Escalates

/-- An audit that ended without leaving the file for attention is not changed by the wish. -/
theorem refl {record : Record} (settled : record.outcome ≠ .needsAttention) :
    Escalates record record where
  settled _ := rfl
  resumed attention := absurd attention settled
  findings _ := rfl
  passed := id
  mismatch := rfl
  reason := rfl

/-- A file that was left for attention has not passed, so nothing is lost by going on from what was
found. -/
theorem of_findings {quick full : Record} (attention : quick.outcome = .needsAttention)
    (failed : quick.passed = false)
    (resumed : full.outcome = .coldTierDeferred ∨ full.outcome = .fullFixityPassed ∨
      full.outcome = .fullFixityFailed ∨ full.outcome = .errored)
    (findings : full.findings = quick.findings) : Escalates quick full where
  settled other := absurd attention other
  resumed _ := resumed
  findings _ := findings
  passed pass := absurd (failed.symm.trans pass) Bool.false_ne_true
  mismatch := by
    show full.findings.mismatch = quick.findings.mismatch
    rw [findings]
  reason := by
    show full.findings.reason = quick.findings.reason
    rw [findings]

/-- The relation does not look at times. -/
theorem of_timeless {quick full : Record} (escalates : Escalates quick.timeless full.timeless) :
    Escalates quick full where
  settled other := by
    have same := escalates.settled other
    rwa [Record.timeless_timeless, Record.timeless_timeless] at same
  resumed := escalates.resumed
  findings := escalates.findings
  passed := escalates.passed
  mismatch := escalates.mismatch
  reason := escalates.reason

end Escalates

end Audit

/-! ### The records that answers settle -/

namespace Answers

open Audit

variable (answers : Answers)

/-- Past the stat, the wish for a full check counts only where there is a concern. -/
theorem escalates_judged (source : Storage.Source) (record : Record) :
    Escalates (answers.judged false source record) (answers.judged true source record) := by
  unfold judged
  cases record.concern with
  | none => exact .refl nofun
  | some reason =>
    show Escalates ((record.withReason reason).leftForAttention .epoch)
      (if record.isColdTierOnly then (doubted record reason).deferred else _)
    cases record.isColdTierOnly with
    | true => exact .of_findings rfl rfl (.inl rfl) rfl
    | false =>
      rw [if_neg Bool.false_ne_true]
      cases Storage.digestOfAnswer source (answers.body source) with
      | error failure => exact .of_findings rfl rfl (.inr (.inr (.inr rfl))) rfl
      | ok digest =>
        refine .of_findings rfl rfl ?_ rfl
        rw [Record.outcome_withDigest]
        split
        · exact .inr (.inl rfl)
        · exact .inr (.inr (.inl rfl))

theorem escalates_audited (id : Int64) :
    Escalates (answers.audited false id) (answers.audited true id) := by
  unfold audited
  cases answers.file id with
  | error failure => exact .refl nofun
  | ok file =>
    dsimp only
    cases (answers.resolution file).source with
    | error failure => exact .refl nofun
    | ok source =>
      dsimp only
      cases answers.stat source with
      | error failure => exact .refl nofun
      | ok stat => exact answers.escalates_judged source _

end Answers

/-! ### Every pair of audits -/

/-- **What the wish for a full check changes.** Where the answers are the same, a full audit of a
file ends as a quick one does unless that leaves the file for attention, and otherwise goes on from
what it found. -/
theorem escalates_audit {answers : Answers} (world : World σ) (state : σ) (other : World τ)
    (otherState : τ) (id : Int64)
    (explainQuick : answers.Explain ((Audit.audit false id).run world state).exchanges)
    (explainFull : answers.Explain ((Audit.audit true id).run other otherState).exchanges) :
    Audit.Escalates ((Audit.audit false id).run world state).value
      ((Audit.audit true id).run other otherState).value := by
  refine .of_timeless ?_
  rw [Answers.timeless_of_yields (Program.yields_run world state _) explainQuick,
    Answers.timeless_of_yields (Program.yields_run other otherState _) explainFull]
  exact answers.escalates_audited id

/-- The file in the cold tier is left for attention by a quick audit and deferred by a full one. -/
theorem escalates_audit_frozen :
    let answers := Answers.stored "Glacier-Deep-OH" (.ok [])
    let quick := (Audit.audit false 1).run (answers.world .epoch) ()
    let full := (Audit.audit true 1).run (answers.world .epoch) ()
    answers.Explain quick.exchanges ∧ answers.Explain full.exchanges ∧
      quick.value.outcome = .needsAttention ∧ full.value.outcome = .coldTierDeferred ∧
      Audit.Escalates quick.value full.value := by
  intro answers quick full
  have explainQuick := answers.explain_run_world .epoch (Audit.audit false 1)
  have explainFull := answers.explain_run_world .epoch (Audit.audit true 1)
  exact ⟨explainQuick, explainFull, by decide +kernel, by decide +kernel,
    escalates_audit _ () _ () 1 explainQuick explainFull⟩

end Fixity
