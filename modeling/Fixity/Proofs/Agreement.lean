/-
This file proves that audits and checks agree on the content of a file. Where the
catalog, the choice of a copy and the stores answer both alike, an audit that came
to read the content read the copy that the check measures, and compared it with the
digest that the check expects. So the check comes to the same verdict unless it ends
before it has one, and it has none where the audit could not read the content.
-/

import Fixity.Proofs.Audit.Verdict
import Fixity.Proofs.Check.Course

namespace Fixity

/-! ### What an audit of the content knows -/

/-- The audit came to read the content of the copy that is chosen, which can be streamed. What it
read, or failed to read, is in the record. -/
structure Audit.Inspected (answers : Answers) (id : Int64) (record : Record) (file : Catalog.File)
    (source : Storage.Source) : Prop where
  known : answers.file id = .ok file
  chosen : (answers.resolution file).source = .ok source
  warm : file.isColdTierOnly = false
  url : record.storageUrl = source.location.url
  registered : record.registered.sha256 = (file.latestDigest Catalog.sha256).getD ""
  digest : match Storage.digestOfAnswer source (answers.body source) with
    | .ok digest => record.streamSha256 = digest ∧
      record.outcome =
        if record.registered.sha256 = digest then .fullFixityPassed else .fullFixityFailed
    | .error _ => record.outcome = .errored

/-- An audit with a verdict on the content came to read it, and so did one that stopped at a failure
once it was to check the content. -/
theorem Audit.Course.exists_inspected {answers : Answers} {full : Bool} {id : Int64}
    {exchanges : List Exchange} {record : Record} (course : Course full id exchanges record)
    (explain : answers.Explain exchanges)
    (content : record.outcome = .fullFixityPassed ∨ record.outcome = .fullFixityFailed ∨
      (record.outcome = .errored ∧ record.method = some .fullFixity)) :
    ∃ file source, Inspected answers id record file source := by
  cases course with
  | unknown | unlocated | unreached => obtain ⟨⟨⟩⟩ | ⟨⟨⟩⟩ | ⟨_, ⟨⟩⟩ := content
  | reached started file resolution source stat found sequel =>
    simp only [Answers.explain_cons] at explain
    obtain ⟨known, rfl, -, body⟩ := explain
    cases sequel with
    | quickMatch | needsAttention | coldTierDeferred =>
      obtain ⟨⟨⟩⟩ | ⟨⟨⟩⟩ | ⟨⟨⟩, _⟩ := content
    | unread reason concern wanted warm answer failure broken =>
      obtain ⟨rfl, -⟩ := (answers.explain_cons _ _).mp body
      refine ⟨file, source, known.symm, found, warm, rfl, rfl, ?_⟩
      rw [broken]
      rfl
    | read reason concern wanted warm answer digest told time =>
      obtain ⟨rfl, -⟩ := (answers.explain_cons _ _).mp body
      refine ⟨file, source, known.symm, found, warm, rfl, rfl, ?_⟩
      rw [told]
      exact ⟨rfl, Record.outcome_withDigest _ digest time⟩

namespace Audit.Inspected

variable {answers : Answers} {id : Int64} {record : Audit.Record} {file : Catalog.File}
  {source : Storage.Source}

/-- Without a failure the record has the digest of the content. -/
theorem digestOfAnswer_eq (inspected : Inspected answers id record file source)
    (verdict : record.outcome ≠ .errored) :
    Storage.digestOfAnswer source (answers.body source) = .ok record.streamSha256 := by
  have digest := inspected.digest
  cases told : Storage.digestOfAnswer source (answers.body source) with
  | error failure =>
    rw [told] at digest
    exact absurd digest verdict
  | ok text =>
    rw [told] at digest
    rw [digest.1]

theorem outcome_eq (inspected : Inspected answers id record file source)
    (verdict : record.outcome ≠ .errored) :
    record.outcome = if record.registered.sha256 = record.streamSha256
      then .fullFixityPassed else .fullFixityFailed := by
  have digest := inspected.digest
  rw [inspected.digestOfAnswer_eq verdict] at digest
  exact digest.2

theorem streamSha256_ne_empty (inspected : Inspected answers id record file source)
    (verdict : record.outcome ≠ .errored) : record.streamSha256 ≠ "" := by
  obtain ⟨parts, -, told⟩ :=
    Storage.digestOfAnswer_eq_ok_iff.mp (inspected.digestOfAnswer_eq verdict)
  rw [told]
  exact Sha256.digest_ne_empty parts.flatten

end Audit.Inspected

/-! ### What a check of the same file comes to -/

theorem Check.Conclusion.outcome_eq {settings : Settings} {id : Int64} {file : Catalog.File}
    {url expected actual : String} {tries : List Exchange} {report : Report}
    (conclusion : Conclusion settings id file url expected actual tries report) :
    report.outcome = .eventRecordFailed ∨
      report.outcome = if expected = actual then .matched else .mismatched := by
  cases conclusion with
  | eventRecordFailed => exact .inl rfl
  | matched identifier time saving same => exact .inr (if_pos same).symm
  | mismatched identifier time saving differ => exact .inr (if_neg differ).symm

/-- A check of a file whose content can be streamed ends early, or it measures the copy that is
chosen and comes to a conclusion from the digest. -/
theorem Check.Course.of_known {answers : Answers} {settings : Settings} {id : Int64}
    {exchanges : List Exchange} {report : Report} {file : Catalog.File} {source : Storage.Source}
    (course : Course settings id exchanges report) (explain : answers.Explain exchanges)
    (known : answers.file id = .ok file) (chosen : (answers.resolution file).source = .ok source)
    (warm : file.isColdTierOnly = false) :
    report.outcome = .skippedRecent ∨
      (report.outcome = .missingBaseline ∧ file.latestDigest Catalog.sha256 = none) ∨
      ∃ expected, file.latestDigest Catalog.sha256 = some expected ∧
        match Storage.digestOfAnswer source (answers.body source) with
        | .error _ => report.outcome = .storageFailed
        | .ok digest => ∃ tries,
          Conclusion settings id file source.location.url expected digest tries report := by
  cases course with
  | fetchFailed failure =>
    obtain ⟨unknown, -⟩ := (answers.explain_cons _ _).mp explain
    cases unknown.trans known
  | skippedColdTier other cold =>
    obtain ⟨same, -⟩ := (answers.explain_cons _ _).mp explain
    obtain rfl := Except.ok.inj (same.trans known)
    cases cold.symm.trans warm
  | skippedRecent => exact .inl rfl
  | missingBaseline other time due unregistered =>
    obtain ⟨same, -⟩ := (answers.explain_cons _ _).mp explain
    obtain rfl := Except.ok.inj (same.trans known)
    exact .inr (.inl ⟨rfl, unregistered⟩)
  | storageFailed other time due expected registered failure measuring =>
    obtain ⟨same, measured⟩ := (answers.explain_cons _ _).mp explain
    obtain rfl := Except.ok.inj (same.trans known)
    refine .inr (.inr ⟨expected, registered, ?_⟩)
    cases measuring with
    | unlocated resolution failure nowhere =>
      obtain ⟨rfl, -⟩ := (answers.explain_cons _ _).mp measured
      cases nowhere.symm.trans chosen
    | unread resolution copy found answer failure broken =>
      simp only [Answers.explain_cons] at measured
      obtain ⟨rfl, rfl, -⟩ := measured
      obtain rfl := Except.ok.inj (found.symm.trans chosen)
      rw [broken]
      rfl
  | measured other time due expected registered actual url measuring conclusion =>
    obtain ⟨same, measured⟩ := (answers.explain_cons _ _).mp explain
    obtain rfl := Except.ok.inj (same.trans known)
    refine .inr (.inr ⟨expected, registered, ?_⟩)
    cases measuring with
    | read resolution copy found answer digest told =>
      simp only [List.cons_append, List.nil_append, Answers.explain_cons] at measured
      obtain ⟨rfl, rfl, -⟩ := measured
      obtain rfl := Except.ok.inj (found.symm.trans chosen)
      rw [told]
      exact ⟨_, conclusion⟩

/-- The only event that a check tries to save is that of comparing the digest of the copy that is
chosen with the newest one that is registered. -/
theorem Check.Course.eq_fixityCheck {answers : Answers} {settings : Settings} {id : Int64}
    {exchanges : List Exchange} {report : Report} {event : Premis.Event}
    {answer : Except Catalog.Failure Unit} (course : Course settings id exchanges report)
    (explain : answers.Explain exchanges) (tried : ⟨.saveEvent event, answer⟩ ∈ exchanges) :
    ∃ file source expected digest identifier time, answers.file id = .ok file ∧
      (answers.resolution file).source = .ok source ∧
      file.latestDigest Catalog.sha256 = some expected ∧
      Storage.digestOfAnswer source (answers.body source) = .ok digest ∧
      event = .fixityCheck identifier time file source.location.url expected digest := by
  cases course with
  | fetchFailed | skippedColdTier | skippedRecent | missingBaseline =>
    cases List.mem_singleton.mp tried
  | storageFailed file time due expected registered failure measuring =>
    cases measuring <;> simp at tried
  | measured file time due expected registered actual url measuring conclusion =>
    obtain ⟨same, measured⟩ := (answers.explain_cons _ _).mp explain
    cases measuring with
    | read resolution source found answer digest told =>
      simp only [List.cons_append, List.nil_append, Answers.explain_cons] at measured
      obtain ⟨rfl, rfl, -⟩ := measured
      obtain ⟨identifier, moment, saves⟩ := conclusion.eq_saveEvent
      refine ⟨file, source, expected, actual, identifier, moment, same.symm, found, registered, told,
        ?_⟩
      obtain ⟨result, again⟩ := saves ⟨.saveEvent event, answer⟩ (by simpa using tried)
      injection again with query
      injection query

/-- Where an audit has a verdict on the content, a check that has one has the same. -/
theorem Check.Course.outcome_of_inspected {answers : Answers} {settings : Settings} {id : Int64}
    {exchanges : List Exchange} {report : Report} {record : Audit.Record} {file : Catalog.File}
    {source : Storage.Source} (course : Course settings id exchanges report)
    (explain : answers.Explain exchanges)
    (inspected : Audit.Inspected answers id record file source)
    (verdict : record.outcome ≠ .errored) :
    report.outcome = .skippedRecent ∨
      (report.outcome = .missingBaseline ∧ record.registered.sha256 ≠ record.streamSha256) ∨
      report.outcome = .eventRecordFailed ∨
      report.outcome =
        if record.registered.sha256 = record.streamSha256 then .matched else .mismatched := by
  have ways := course.of_known explain inspected.known inspected.chosen inspected.warm
  rw [inspected.digestOfAnswer_eq verdict] at ways
  rw [inspected.registered]
  obtain recent | ⟨missing, unregistered⟩ | ⟨expected, registered, tries, conclusion⟩ := ways
  · exact .inl recent
  · rw [unregistered]
    exact .inr (.inl ⟨missing, (inspected.streamSha256_ne_empty verdict).symm⟩)
  · rw [registered]
    exact .inr (.inr conclusion.outcome_eq)

/-! ### Agreement -/

/-- A check says nothing against a full audit of the same file: it has no verdict or the audit's,
its event tells what is in the record, and it has no verdict on what the audit could not read. -/
structure Agree (record : Audit.Record) (report : Check.Report) (exchanges : List Exchange) :
    Prop where
  passed : record.outcome = .fullFixityPassed →
    report.outcome = .skippedRecent ∨ report.outcome = .eventRecordFailed ∨
      report.outcome = .matched
  failed : record.outcome = .fullFixityFailed →
    report.outcome = .skippedRecent ∨ report.outcome = .missingBaseline ∨
      report.outcome = .eventRecordFailed ∨ report.outcome = .mismatched
  event : record.outcome = .fullFixityPassed ∨ record.outcome = .fullFixityFailed →
    ∀ event answer, ⟨.saveEvent event, answer⟩ ∈ exchanges →
      event.outcomeDetail = "sha256:" ++ record.streamSha256 ∧
      event.outcomeInformation =
        if record.outcome = .fullFixityPassed then
          s!"Fixity matches at {record.storageUrl}: {record.streamSha256}"
        else
          s!"Fixity did not match at {record.storageUrl}. Expected {record.registered.sha256}, got {record.streamSha256}"
  errored : record.outcome = .errored → record.method = some .fullFixity →
    report.outcome ≠ .matched ∧ report.outcome ≠ .mismatched

section Inspected

variable {answers : Answers} {settings : Check.Settings} {id : Int64} {exchanges : List Exchange}
  {record : Audit.Record} {report : Check.Report} {file : Catalog.File} {source : Storage.Source}

theorem outcome_of_fullFixityPassed (check : Check.Course settings id exchanges report)
    (explain : answers.Explain exchanges)
    (inspected : Audit.Inspected answers id record file source)
    (passed : record.outcome = .fullFixityPassed) :
    report.outcome = .skippedRecent ∨ report.outcome = .eventRecordFailed ∨
      report.outcome = .matched := by
  have verdict : record.outcome ≠ .errored := by
    rw [passed]
    exact nofun
  have outcome := inspected.outcome_eq verdict
  have ways := check.outcome_of_inspected explain inspected verdict
  by_cases same : record.registered.sha256 = record.streamSha256
  · rw [if_pos same] at ways
    obtain recent | ⟨-, differ⟩ | ending := ways
    · exact .inl recent
    · exact absurd same differ
    · exact .inr ending
  · rw [if_neg same, passed] at outcome
    cases outcome

theorem outcome_of_fullFixityFailed (check : Check.Course settings id exchanges report)
    (explain : answers.Explain exchanges)
    (inspected : Audit.Inspected answers id record file source)
    (failed : record.outcome = .fullFixityFailed) :
    report.outcome = .skippedRecent ∨ report.outcome = .missingBaseline ∨
      report.outcome = .eventRecordFailed ∨ report.outcome = .mismatched := by
  have verdict : record.outcome ≠ .errored := by
    rw [failed]
    exact nofun
  have outcome := inspected.outcome_eq verdict
  have ways := check.outcome_of_inspected explain inspected verdict
  by_cases same : record.registered.sha256 = record.streamSha256
  · rw [if_pos same, failed] at outcome
    cases outcome
  · rw [if_neg same] at ways
    obtain recent | ⟨missing, -⟩ | ending := ways
    · exact .inl recent
    · exact .inr (.inl missing)
    · exact .inr (.inr ending)

/-- The event that a check tries to save is about the copy that the audit read, and tells the
digest that is in the record. -/
theorem event_of_inspected {event : Premis.Event} {answer : Except Catalog.Failure Unit}
    (check : Check.Course settings id exchanges report) (explain : answers.Explain exchanges)
    (inspected : Audit.Inspected answers id record file source)
    (verdict : record.outcome ≠ .errored) (tried : ⟨.saveEvent event, answer⟩ ∈ exchanges) :
    event.outcomeDetail = "sha256:" ++ record.streamSha256 ∧
      event.outcomeInformation =
        if record.outcome = .fullFixityPassed then
          s!"Fixity matches at {record.storageUrl}: {record.streamSha256}"
        else
          s!"Fixity did not match at {record.storageUrl}. Expected {record.registered.sha256}, got {record.streamSha256}" := by
  obtain ⟨other, copy, expected, digest, identifier, time, known, chosen, registered, told, rfl⟩ :=
    check.eq_fixityCheck explain tried
  obtain rfl := Except.ok.inj (inspected.known.symm.trans known)
  obtain rfl := Except.ok.inj (inspected.chosen.symm.trans chosen)
  obtain rfl := Except.ok.inj ((inspected.digestOfAnswer_eq verdict).symm.trans told)
  have same : record.registered.sha256 = expected := by
    rw [inspected.registered, registered]
    rfl
  refine ⟨rfl, ?_⟩
  rw [inspected.outcome_eq verdict, inspected.url, same]
  dsimp only [Premis.Event.fixityCheck]
  by_cases equal : expected = record.streamSha256
  · rw [if_pos equal, if_pos equal, if_pos rfl]
  · rw [if_neg equal, if_neg equal, if_neg (by decide)]

theorem outcome_of_errored (check : Check.Course settings id exchanges report)
    (explain : answers.Explain exchanges)
    (inspected : Audit.Inspected answers id record file source)
    (errored : record.outcome = .errored) :
    report.outcome ≠ .matched ∧ report.outcome ≠ .mismatched := by
  have ways := check.of_known explain inspected.known inspected.chosen inspected.warm
  have digest := inspected.digest
  cases told : Storage.digestOfAnswer source (answers.body source) with
  | ok text =>
    rw [told, errored] at digest
    obtain ⟨-, outcome⟩ := digest
    split at outcome <;> cases outcome
  | error failure =>
    rw [told] at ways
    obtain recent | ⟨missing, -⟩ | ⟨expected, -, unread⟩ := ways
    · rw [recent]
      exact ⟨nofun, nofun⟩
    · rw [missing]
      exact ⟨nofun, nofun⟩
    · rw [unread]
      exact ⟨nofun, nofun⟩

end Inspected

theorem agree_of_courses {answers : Answers} {settings : Check.Settings} {id : Int64}
    {audited checked : List Exchange} {record : Audit.Record} {report : Check.Report}
    (audit : Audit.Course true id audited record) (check : Check.Course settings id checked report)
    (explainAudit : answers.Explain audited) (explainCheck : answers.Explain checked) :
    Agree record report checked := by
  refine ⟨fun passed => ?_, fun failed => ?_, fun content event answer tried => ?_,
    fun errored method => ?_⟩
  · obtain ⟨file, source, inspected⟩ := audit.exists_inspected explainAudit (.inl passed)
    exact outcome_of_fullFixityPassed check explainCheck inspected passed
  · obtain ⟨file, source, inspected⟩ := audit.exists_inspected explainAudit (.inr (.inl failed))
    exact outcome_of_fullFixityFailed check explainCheck inspected failed
  · obtain ⟨file, source, inspected⟩ :=
      audit.exists_inspected explainAudit (content.imp_right .inl)
    refine event_of_inspected check explainCheck inspected ?_ tried
    rcases content with passed | failed
    · rw [passed]
      exact nofun
    · rw [failed]
      exact nofun
  · obtain ⟨file, source, inspected⟩ :=
      audit.exists_inspected explainAudit (.inr (.inr ⟨errored, method⟩))
    exact outcome_of_errored check explainCheck inspected errored

/-- **Audits and checks agree.** Where the catalog, the choice of a copy and the stores answer both
alike, a check, with any settings and whatever comes of saving its event, says nothing against a
full audit of the same file. -/
theorem agree_audit_check {answers : Answers} (auditWorld : World σ) (auditState : σ)
    (checkWorld : World τ) (checkState : τ) (settings : Check.Settings) (id : Int64)
    (explainAudit : answers.Explain ((Audit.audit true id).run auditWorld auditState).exchanges)
    (explainCheck : answers.Explain ((Check.check settings id).run checkWorld checkState).exchanges) :
    Agree ((Audit.audit true id).run auditWorld auditState).value
      ((Check.check settings id).run checkWorld checkState).value
      ((Check.check settings id).run checkWorld checkState).exchanges := by
  have agree := agree_of_courses (Audit.course_of_run auditWorld auditState true id)
    (Check.course_of_run checkWorld checkState settings id)
    ((answers.explain_dealings_iff _).mpr explainAudit)
    ((answers.explain_dealings_iff _).mpr explainCheck)
  refine { agree with event := fun content event answer tried => ?_ }
  exact agree.event content event answer (mem_dealings.mpr ⟨tried, rfl⟩)

/-- Answers about a file of eleven bytes that is registered with its digest, but with another size;
its content comes in chunks, one of them empty. -/
def Answers.inChunks : Answers where
  file _ := .ok {
    id := 1
    identifier := "example.edu/bag/data/file"
    uuid := "file"
    size := 1
    storageOption := "Standard"
    checksums := [{
      algorithm := Catalog.sha256
      digest := "b94d27b9934d3e08a52e52d7da7dabfac484efe37a5380ee9088f7ace2efcde9"
      recordedAt := .epoch }]
    institutionId := 1
    intellectualObjectId := 1
    createdAt := .epoch
    updatedAt := .epoch }
  resolution _ := ⟨none, .ok ⟨⟨"bucket", "store", "https://store/bucket/file"⟩, "file"⟩⟩
  stat _ := .ok { size := 11, etag := "", metadata := .empty }
  body _ := .ok [.ok [104, 101, 108, 108, 111], .ok [], .ok [32], .ok [119, 111, 114, 108, 100]]

/-- The audit of the file passes it by its content, and a check agrees. -/
theorem agree_audit_check_inChunks :
    let audited := (Audit.audit true 1).run (Answers.inChunks.world .epoch) ()
    let checked := (Check.check {} 1).run (Answers.inChunks.world .epoch) ()
    Answers.inChunks.Explain audited.exchanges ∧ Answers.inChunks.Explain checked.exchanges ∧
      audited.value.outcome = .fullFixityPassed ∧
      Agree audited.value checked.value checked.exchanges := by
  intro audited checked
  have explainAudit := Answers.inChunks.explain_run_world .epoch (Audit.audit true 1)
  have explainCheck := Answers.inChunks.explain_run_world .epoch (Check.check {} 1)
  refine ⟨explainAudit, explainCheck, ?_,
    agree_audit_check _ () _ () {} 1 explainAudit explainCheck⟩
  have whole : Answers.inChunks.body ⟨⟨"bucket", "store", "https://store/bucket/file"⟩, "file"⟩ =
      .ok (([[104, 101, 108, 108, 111], [], [32], [119, 111, 114, 108, 100]] :
        List (List UInt8)).map .ok) := rfl
  have digest : "b94d27b9934d3e08a52e52d7da7dabfac484efe37a5380ee9088f7ace2efcde9" =
      Sha256.digest [104, 101, 108, 108, 111, 32, 119, 111, 114, 108, 100] := by
    decide +kernel
  have outcome := Audit.outcome_of_course (Audit.course_of_run _ () true 1)
    ((Answers.explain_dealings_iff _ _).mpr explainAudit) ⟨rfl, rfl, rfl⟩
    (fun calm => absurd calm.size (by decide)) (by decide) whole
  exact outcome.trans (if_pos digest)

end Fixity
