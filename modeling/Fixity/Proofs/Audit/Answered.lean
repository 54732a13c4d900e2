/-
This file computes the record of an audit from the answers that it meets with. The
clock settles when an audit started and when it completed, and nothing else, so with
these two set aside all audits of a file that meet with the same answers end with
the same record.
-/

import Fixity.Proofs.Audit.Concern

namespace Fixity

/-! ### Records without a clock -/

/-- A record with its times set aside. Whether there is a time of completion is kept. -/
def Audit.Record.timeless (record : Record) : Record :=
  { record with startedAt := .epoch, completedAt := record.completedAt.map fun _ => .epoch }

/-! ### Records from answers -/

namespace Answers

open Audit

/-- What becomes of a record that knows the copy's stat. -/
def judged (answers : Answers) (full : Bool) (source : Storage.Source) (record : Record) :
    Record :=
  match record.concern with
  | none => record.quicklyMatched .epoch
  | some reason =>
    if full = false then (record.withReason reason).leftForAttention .epoch
    else if record.isColdTierOnly then (doubted record reason).deferred
    else
      match Storage.digestOfAnswer source (answers.body source) with
      | .error failure => (doubted record reason).failed (.storage failure)
      | .ok digest => (doubted record reason).withDigest digest .epoch

/-- The record of an audit by a clock that stands still. -/
def audited (answers : Answers) (full : Bool) (id : Int64) : Record :=
  let record := Record.initial id .epoch
  match answers.file id with
  | .error failure => record.failed (.catalog failure)
  | .ok file =>
    match (answers.resolution file).source with
    | .error failure => (record.withFile file).failed failure
    | .ok source =>
      match answers.stat source with
      | .error failure => ((record.withFile file).withSource source).failed (.storage failure)
      | .ok stat => answers.judged full source (surveyed id .epoch file source stat)

variable {answers : Answers} {full : Bool} {exchanges : List Exchange}

theorem timeless_of_sequel {source : Storage.Source} {record result : Record}
    (sequel : Sequel full source record exchanges result) (explain : answers.Explain exchanges) :
    result.timeless = answers.judged full source record.timeless := by
  have concern : record.timeless.concern = record.concern := rfl
  have tier : record.timeless.isColdTierOnly = record.isColdTierOnly := rfl
  rw [judged, concern, tier]
  cases sequel with
  | quickMatch time calm =>
    rw [calm]
    rfl
  | needsAttention reason time doubt quick =>
    rw [doubt, quick]
    rfl
  | coldTierDeferred reason doubt wanted cold =>
    rw [doubt, wanted, cold]
    rfl
  | unread reason doubt wanted warm answer failure broken =>
    obtain ⟨rfl, -⟩ := (answers.explain_cons _ _).mp explain
    rw [doubt, wanted, warm, broken]
    rfl
  | read reason doubt wanted warm answer digest known time =>
    obtain ⟨rfl, -⟩ := (answers.explain_cons _ _).mp explain
    rw [doubt, wanted, warm, known]
    rfl

theorem timeless_of_course {id : Int64} {record : Record}
    (course : Course full id exchanges record) (explain : answers.Explain exchanges) :
    record.timeless = answers.audited full id := by
  cases course with
  | unknown started failure =>
    obtain ⟨known, -⟩ := (answers.explain_cons _ _).mp explain
    rw [audited, ← known]
    rfl
  | unlocated started file resolution failure nowhere =>
    simp only [explain_cons] at explain
    obtain ⟨known, rfl, -⟩ := explain
    rw [audited, ← known]
    dsimp only
    rw [nowhere]
    rfl
  | unreached started file resolution source failure found =>
    simp only [explain_cons] at explain
    obtain ⟨known, rfl, reported, -⟩ := explain
    rw [audited, ← known]
    dsimp only
    rw [found]
    dsimp only
    rw [← reported]
    rfl
  | reached started file resolution source stat found sequel =>
    simp only [explain_cons] at explain
    obtain ⟨known, rfl, reported, body⟩ := explain
    rw [timeless_of_sequel sequel body, audited, ← known]
    dsimp only
    rw [found]
    dsimp only
    rw [← reported]
    rfl

/-- **The answers settle the record.** Whatever the clock does, every way through an audit that
meets with these answers ends with the same record, times aside. -/
theorem timeless_of_yields {id : Int64} {record : Record}
    (yields : (audit full id).Yields exchanges record) (explain : answers.Explain exchanges) :
    record.timeless = answers.audited full id :=
  timeless_of_course (course_of_yields yields) ((answers.explain_dealings_iff _).mpr explain)

end Answers

end Fixity
