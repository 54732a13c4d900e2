/-
This file proves that an audit reads a content only when it has to, and writes
nothing. Its calls come in one order and stop where an answer stops them; the body of
a copy is asked for exactly where a full check is wanted, the copy can be streamed, and
a quick look at its stat left a doubt. So bodies leave no trace in the record of an
audit that does not ask for them: whatever the stores hold, a quick audit, and any audit
of a file in a cold tier, ends with the record that the stats alone settle.
-/

import Fixity.Proofs.Audit.Answered
import Fixity.Proofs.Audit.Verdict
import Fixity.Proofs.Calls
import Mathlib.Tactic.ByContra
import Mathlib.Tactic.MkIffOfInductiveProp

namespace Fixity

namespace Audit

/-! ### Restrained audits -/

/-- The audit came to know the file, its copy and the copy's stat. -/
def Surveyed (id : Int64) (exchanges : List Exchange) (file : Catalog.File)
    (source : Storage.Source) (stat : Storage.Stat) : Prop :=
  ∃ resolution : Storage.Resolution, ⟨.getFile id, .ok file⟩ ∈ exchanges ∧
    ⟨.resolve file, resolution⟩ ∈ exchanges ∧ resolution.source = .ok source ∧
    ⟨.stat source, .ok stat⟩ ∈ exchanges

/-- An audit makes its calls in one order, about the copy that was chosen; it saves no event; and it
reads the copy exactly if a full check is wanted of a file that can be streamed, after a quick look
that found the metadata, the size or the tag to disagree. -/
@[mk_iff]
structure Restrained (full : Bool) (id : Int64) (exchanges : List Exchange) (record : Record) :
    Prop where
  order : ∃ source, callsAlong exchanges <+: [.getFile id, .stat source, .get source]
  resolved : ∀ source, .stat source ∈ callsAlong exchanges →
    ∃ file resolution, ⟨.getFile id, .ok file⟩ ∈ exchanges ∧
      ⟨.resolve file, resolution⟩ ∈ exchanges ∧ resolution.source = .ok source
  neverSaves : ∀ event, .saveEvent event ∉ callsAlong exchanges
  reads_iff : ∀ source, .get source ∈ callsAlong exchanges ↔
    ∃ file stat, Surveyed id exchanges file source stat ∧ full = true ∧
      file.isColdTierOnly = false ∧
      (record.hasMetadataMismatch = true ∨ record.needsFixityCheck = true)

/-- Restraint can be read off the dealings. -/
theorem restrained_dealings_iff {full : Bool} {id : Int64} {exchanges : List Exchange}
    {record : Record} :
    Restrained full id (dealings exchanges) record ↔ Restrained full id exchanges record := by
  simp only [restrained_iff, Surveyed, callsAlong_dealings, mem_dealings, Query.isDealing, and_true]

/-! ### Every audit is restrained -/

/-- After the stat an audit asks for the body of the copy exactly if a full check is wanted of a file
that can be streamed and a quick look left a doubt. -/
theorem exchanges_of_sequel {full : Bool} {source : Storage.Source} {record result : Record}
    {exchanges : List Exchange} (sequel : Sequel full source record exchanges result) :
    result.hasMetadataMismatch = record.hasMetadataMismatch ∧
      result.needsFixityCheck = record.needsFixityCheck ∧
      ((exchanges = [] ∧ ¬ (full = true ∧ record.isColdTierOnly = false ∧
          (record.hasMetadataMismatch = true ∨ record.needsFixityCheck = true))) ∨
        ((∃ answer, exchanges = [⟨.get source, answer⟩]) ∧ full = true ∧
          record.isColdTierOnly = false ∧
          (record.hasMetadataMismatch = true ∨ record.needsFixityCheck = true))) := by
  have doubt {reason : Reason} (concern : record.concern = some reason) :
      record.hasMetadataMismatch = true ∨ record.needsFixityCheck = true := by
    by_contra calm
    simp only [not_or, Bool.not_eq_true] at calm
    rw [record.concern_eq_none_iff.mpr calm] at concern
    cases concern
  cases sequel with
  | quickMatch time calm =>
    obtain ⟨metadata, needed⟩ := record.concern_eq_none_iff.mp calm
    refine ⟨rfl, rfl, .inl ⟨rfl, ?_⟩⟩
    rintro ⟨-, -, doubt | doubt⟩
    · exact Bool.false_ne_true (metadata.symm.trans doubt)
    · exact Bool.false_ne_true (needed.symm.trans doubt)
  | needsAttention reason time concern quick =>
    refine ⟨rfl, rfl, .inl ⟨rfl, ?_⟩⟩
    rintro ⟨wanted, -⟩
    exact Bool.false_ne_true (quick.symm.trans wanted)
  | coldTierDeferred reason concern wanted cold =>
    refine ⟨rfl, rfl, .inl ⟨rfl, ?_⟩⟩
    rintro ⟨-, warm, -⟩
    exact Bool.false_ne_true (warm.symm.trans cold)
  | unread reason concern wanted warm answer | read reason concern wanted warm answer =>
    exact ⟨rfl, rfl, .inr ⟨⟨answer, rfl⟩, wanted, warm, doubt concern⟩⟩

theorem Course.restrained {full : Bool} {id : Int64} {exchanges : List Exchange}
    {record : Record} (course : Course full id exchanges record) :
    Restrained full id exchanges record := by
  cases course with
  | unknown started failure =>
    refine ⟨⟨⟨⟨"", "", ""⟩, ""⟩, ?_⟩, ?_, ?_, ?_⟩ <;>
      simp [Query.isCall, Surveyed]
  | unlocated started file resolution failure nowhere =>
    refine ⟨⟨⟨⟨"", "", ""⟩, ""⟩, ?_⟩, ?_, ?_, ?_⟩ <;>
      simp [Query.isCall, Surveyed]
  | unreached started file resolution source failure found =>
    refine ⟨⟨source, ?_⟩, ?_, ?_, ?_⟩ <;>
      simp [Query.isCall, Surveyed, found]
  | reached started file resolution source stat found sequel =>
    have tier : (surveyed id started file source stat).isColdTierOnly = file.isColdTierOnly := rfl
    obtain ⟨metadata, needed, further⟩ := exchanges_of_sequel sequel
    rw [← metadata, ← needed, tier] at further
    rcases further with ⟨rfl, quiet⟩ | ⟨⟨answer, rfl⟩, reason⟩
    · refine ⟨⟨source, ?_⟩, ?_, ?_, fun other => ⟨?_, ?_⟩⟩
      · simp [Query.isCall]
      · simp [Query.isCall, found]
      · simp [Query.isCall]
      · simp [Query.isCall]
      · rintro ⟨known, report, ⟨_, fetched, -⟩, reason⟩
        obtain rfl : known = file := by simpa using fetched
        exact absurd reason quiet
    · refine ⟨⟨source, ?_⟩, ?_, ?_, fun other => ⟨?_, ?_⟩⟩
      · simp [Query.isCall]
      · simp [Query.isCall, found]
      · simp [Query.isCall]
      · intro read
        obtain rfl : other = source := by simpa [Query.isCall] using read
        refine ⟨file, stat, ⟨resolution, ?_, ?_, found, ?_⟩, reason⟩ <;> simp
      · rintro ⟨known, report, ⟨_, -, -, -, asked⟩, -⟩
        obtain ⟨rfl, -⟩ : other = source ∧ report ≍ stat := by simpa using asked
        simp [Query.isCall]

end Audit

/-! ### Bodies and answers -/

namespace Answers

open Audit

/-- An audit that meets with these answers comes to know exactly what they let it reach. -/
theorem surveyed_iff_reach {answers : Answers} {full : Bool} {id : Int64}
    {exchanges : List Exchange} {record : Record} {file : Catalog.File} {source : Storage.Source}
    {stat : Storage.Stat} (course : Course full id exchanges record)
    (explain : answers.Explain exchanges) :
    Surveyed id exchanges file source stat ↔ answers.Reach id file source stat := by
  constructor
  · rintro ⟨resolution, fetched, located, found, told⟩
    have known : .ok file = answers.file id := explain _ fetched
    have chosen : resolution = answers.resolution file := explain _ located
    have reported : .ok stat = answers.stat source := explain _ told
    exact ⟨known.symm, chosen ▸ found, reported.symm⟩
  · intro reach
    obtain ⟨started, further, rfl, -⟩ := exists_sequel_of_reach course explain reach
    refine ⟨answers.resolution file, ?_, ?_, reach.chosen, ?_⟩ <;> simp

/-- An audit that meets with these answers asks for the body of a copy exactly if they let it reach
the copy's stat, a full check is wanted of a file that can be streamed, and a quick look left a
doubt. -/
theorem get_mem_calls_iff {answers : Answers} {full : Bool} {id : Int64}
    {exchanges : List Exchange} {record : Record} (course : Course full id exchanges record)
    (explain : answers.Explain exchanges) (source : Storage.Source) :
    .get source ∈ callsAlong exchanges ↔
      ∃ file stat, answers.Reach id file source stat ∧ full = true ∧
        file.isColdTierOnly = false ∧
        (record.hasMetadataMismatch = true ∨ record.needsFixityCheck = true) := by
  simp only [course.restrained.reads_iff, surveyed_iff_reach course explain]

end Answers

/-! ### Bodies that are not asked for -/

namespace Answers

open Audit

/-- The audit with these answers cannot come to ask for a body: no full check is wanted, or the file
lies in a cold tier. -/
def Unread (answers : Answers) (full : Bool) (id : Int64) : Prop :=
  full = false ∨ ∃ file, answers.file id = .ok file ∧ file.isColdTierOnly = true

/-- What becomes of a record does not depend on the body where that is not asked for. -/
theorem judged_body (answers : Answers) (body : Storage.Source → Except Storage.Failure Storage.Body)
    {full : Bool} (source : Storage.Source) {record : Record}
    (unread : full = false ∨ record.isColdTierOnly = true) :
    ({ answers with body } : Answers).judged full source record =
      answers.judged full source record := by
  unfold judged
  cases record.concern with
  | none => rfl
  | some reason =>
    rcases unread with quick | cold
    · simp only [if_pos quick]
    · simp only [if_pos cold]

theorem audited_body (answers : Answers)
    (body : Storage.Source → Except Storage.Failure Storage.Body) {full : Bool} {id : Int64} (unread : answers.Unread full id) :
    ({ answers with body } : Answers).audited full id = answers.audited full id := by
  unfold audited
  cases known : answers.file id with
  | error failure => rfl
  | ok file =>
    have warm : full = false ∨ file.isColdTierOnly = true := by
      rcases unread with quick | ⟨other, same, cold⟩
      · exact .inl quick
      · obtain rfl := Except.ok.inj (same.symm.trans known)
        exact .inr cold
    dsimp only
    cases (answers.resolution file).source with
    | error failure => rfl
    | ok source =>
      dsimp only
      cases answers.stat source with
      | error failure => rfl
      | ok stat => exact judged_body answers body source warm

end Answers

/-! ### Restraint -/

/-- **Audits are restrained.** In every world an audit reads a content exactly where it has to and
never saves an event: whatever answers it meets with, it asks for the body of the copy that they let
it reach exactly if a full check is wanted, the copy can be streamed, and there is a doubt. So in
two worlds whose answers differ in the bodies alone, audits that cannot come to ask for a body end
with the same record, times aside. -/
theorem restrained_audit (full : Bool) (id : Int64) :
    (∀ {σ : Type} (world : World σ) (state : σ),
      let run := (Audit.audit full id).run world state
      Audit.Restrained full id run.exchanges run.value ∧
        ∀ answers : Answers, answers.Explain run.exchanges →
          ∀ source, .get source ∈ callsAlong run.exchanges ↔
            ∃ file stat, answers.Reach id file source stat ∧ full = true ∧
              file.isColdTierOnly = false ∧
              (run.value.hasMetadataMismatch = true ∨ run.value.needsFixityCheck = true)) ∧
    ∀ {σ τ : Type} (world : World σ) (state : σ) (other : World τ) (otherState : τ)
      (answers : Answers) (body : Storage.Source → Except Storage.Failure Storage.Body),
      answers.Explain ((Audit.audit full id).run world state).exchanges →
      ({ answers with body } : Answers).Explain
        ((Audit.audit full id).run other otherState).exchanges →
      answers.Unread full id →
      ((Audit.audit full id).run world state).value.timeless =
        ((Audit.audit full id).run other otherState).value.timeless := by
  constructor
  · intro σ world state run
    have course := Audit.course_of_run world state full id
    refine ⟨Audit.restrained_dealings_iff.mp course.restrained, fun answers explain source => ?_⟩
    have settled := (answers.explain_dealings_iff _).mpr explain
    rw [← callsAlong_dealings]
    exact Answers.get_mem_calls_iff course settled source
  · intro σ τ world state other otherState answers body explain explainOther unread
    rw [Answers.timeless_of_yields (Program.yields_run world state _) explain,
      Answers.timeless_of_yields (Program.yields_run other otherState _) explainOther,
      answers.audited_body body unread]

/-- Answers about a file of this storage option whose copy, with this body, has another size than is
registered. -/
def Answers.stored (option : String) (body : Except Storage.Failure Storage.Body) : Answers where
  file _ := .ok {
    id := 1
    identifier := "example.edu/bag/data/file"
    uuid := "file"
    size := 1
    storageOption := option
    checksums := [{ algorithm := Catalog.sha256, digest := Sha256.digest [], recordedAt := .epoch }]
    institutionId := 1
    intellectualObjectId := 1
    createdAt := .epoch
    updatedAt := .epoch }
  resolution _ := ⟨none, .ok ⟨⟨"bucket", "store", "https://store/bucket/file"⟩, "file"⟩⟩
  stat _ := .ok { size := 0, etag := "", metadata := .empty }
  body _ := body

/-- A body that has the registered digest and one that cannot be had leave the same record of the
file in the cold tier, though a full check is wanted. In another tier the body is asked for. -/
theorem restrained_audit_stored :
    let whole := Answers.stored "Glacier-Deep-OH" (.ok [])
    let missing := Answers.stored "Glacier-Deep-OH" (.error (.objectNotFound "bucket" "file"))
    let warm := Answers.stored "Standard" (.ok [.ok [0x61], .ok [0x62]])
    let first := (Audit.audit true 1).run (whole.world .epoch) ()
    let second := (Audit.audit true 1).run (missing.world .epoch) ()
    let third := (Audit.audit true 1).run (warm.world .epoch) ()
    whole.Explain first.exchanges ∧ missing.Explain second.exchanges ∧ whole.Unread true 1 ∧
      first.value.timeless = second.value.timeless ∧ warm.Explain third.exchanges ∧
      (∀ source, .get source ∉ callsAlong first.exchanges) ∧
      .get ⟨⟨"bucket", "store", "https://store/bucket/file"⟩, "file"⟩ ∈
        callsAlong third.exchanges := by
  intro whole missing warm first second third
  have explainWhole := whole.explain_run_world .epoch (Audit.audit true 1)
  have explainMissing := missing.explain_run_world .epoch (Audit.audit true 1)
  have explainWarm := warm.explain_run_world .epoch (Audit.audit true 1)
  have unread : whole.Unread true 1 := .inr ⟨_, rfl, rfl⟩
  obtain ⟨restrained, untouched⟩ := restrained_audit true 1
  refine ⟨explainWhole, explainMissing, unread,
    untouched _ () _ () whole missing.body explainWhole explainMissing unread, explainWarm, ?_, ?_⟩
  · intro source asked
    obtain ⟨file, stat, reach, -, streamed, -⟩ :=
      ((restrained (whole.world .epoch) ()).2 whole explainWhole source).mp asked
    obtain rfl := Except.ok.inj reach.known
    exact absurd streamed (by decide)
  · have doubt : third.value.needsFixityCheck = true := by decide +kernel
    exact ((restrained (warm.world .epoch) ()).2 warm explainWarm _).mpr
      ⟨_, _, ⟨rfl, rfl, rfl⟩, rfl, by decide, .inr doubt⟩

end Fixity
