/-
This file proves that the outcome of a check, its count, its issues and the event
that it saves tell one story. Only the tries of the conclusion save an event, at
most one of them succeeds, and the check counts the file exactly then; the event
and the outcome say what comparing the streamed content with the newest registered
digest says; and there is one fatal issue, unless the content matched or the file
was checked recently.
-/

import Fixity.Proofs.Check.Course
import Fixity.Proofs.Checksums

namespace Fixity.Check

/-! ### Coherent reports -/

/-- A check counts a file exactly when it saved an event, one at most, and this is when it has a
verdict. -/
structure Counted (report : Report) (exchanges : List Exchange) : Prop where
  bounded : (savedAlong exchanges).length ≤ 1
  counted : report.outcome = .matched ∨ report.outcome = .mismatched ↔ report.count = 1
  saved : report.count = 1 ↔ (savedAlong exchanges).length = 1
  total : report.count.toNat = (savedAlong exchanges).length

/-- The catalog's file was fetched, and the body of the copy that was chosen arrived whole in these
parts; after it there were only tries to save an event. -/
def Streamed (id : Int64) (exchanges : List Exchange) (file : Catalog.File)
    (source : Storage.Source) (parts : List (List UInt8)) : Prop :=
  ∃ (resolution : Storage.Resolution) (tries : List Exchange),
    resolution.source = .ok source ∧
    dealings exchanges = ⟨.getFile id, .ok file⟩ :: ⟨.resolve file, resolution⟩ ::
      ⟨.get source, .ok (parts.map .ok)⟩ :: tries ∧
    ∀ exchange ∈ tries, ∃ event answer, exchange = ⟨.saveEvent event, answer⟩

/-- An event that was saved has the verdict of the report, and both are what comparing the digest
of the streamed content with the newest one that is registered says. -/
def Verdict (id : Int64) (report : Report) (exchanges : List Exchange) (event : Premis.Event) :
    Prop :=
  (event.outcome = .success ↔ report.outcome = .matched) ∧
  (event.outcome = .failed ↔ report.outcome = .mismatched) ∧
  ∃ file source parts checksum, Streamed id exchanges file source parts ∧
    file.latestChecksum Catalog.sha256 = some checksum ∧
    (report.outcome = .matched ↔ Sha256.digest parts.flatten = checksum.digest) ∧
    (report.outcome = .mismatched ↔ Sha256.digest parts.flatten ≠ checksum.digest) ∧
    event.outcomeDetail = "sha256:" ++ Sha256.digest parts.flatten

/-- There is one fatal issue unless the content matched or the file was checked recently. It belongs
to no work item and names the file as the catalog does, or by its id where the catalog gave none. -/
structure Raised (id : Int64) (report : Report) (exchanges : List Exchange) : Prop where
  calm : report.issues = [] ↔ report.outcome = .matched ∨ report.outcome = .skippedRecent
  single : report.issues ≠ [] → ∃ issue, report.issues = [issue] ∧
    issue.isFatal = true ∧ issue.workItemId = 0 ∧
    (report.outcome = .fetchFailed → issue.identifier = Text.writeInt64 id) ∧
    (report.outcome ≠ .fetchFailed → ∃ file rest,
      dealings exchanges = ⟨.getFile id, .ok file⟩ :: rest ∧ issue.identifier = file.identifier)

/-- Outcome, count, event and issues of a check do not contradict each other. -/
structure Coherent (id : Int64) (report : Report) (exchanges : List Exchange) : Prop
    extends Counted report exchanges, Raised id report exchanges where
  verdict : ∀ event ∈ savedAlong exchanges, Verdict id report exchanges event

/-! ### Saved events -/

/-- Whether an event was saved is the result of the tries to save it. -/
theorem Saving.savedAlong_eq {event : Premis.Event} {left : Nat} {tries : List Exchange}
    {result : Except Catalog.Failure Unit} (saving : Saving event left tries result) :
    savedAlong tries = (result.toOption.map fun _ => event).toList := by
  induction saving with
  | saved left => rfl
  | refused left failure final => rfl
  | again left failure gateway rest inductionHypothesis => exact inductionHypothesis

theorem Measuring.savedAlong_eq {file : Catalog.File} {measured : List Exchange}
    {result : Except Failure (String × String)} (measuring : Measuring file measured result) :
    savedAlong measured = [] := by
  cases measuring <;> rfl

/-! ### Courses without an event -/

variable {settings : Settings} {id : Int64} {exchanges : List Exchange}

theorem counted_of_unsaved {report : Report} (unsaved : savedAlong exchanges = [])
    (count : report.count = 0)
    (ending : ¬ (report.outcome = .matched ∨ report.outcome = .mismatched)) :
    Counted report exchanges := by
  have none : report.count ≠ 1 := by
    rw [count]
    decide
  refine ⟨?_, iff_of_false ending none, iff_of_false none ?_, ?_⟩
  · rw [unsaved]
    exact Nat.zero_le 1
  · rw [unsaved]
    exact Nat.zero_ne_one
  · rw [unsaved, count]
    rfl

/-- A check that stops without a verdict after the file was fetched is coherent. -/
theorem coherent_stopped {file : Catalog.File} {rest : List Exchange} {outcome : Outcome}
    (fetched : dealings exchanges = ⟨.getFile id, .ok file⟩ :: rest)
    (unsaved : savedAlong exchanges = [])
    (ending : outcome ≠ .matched ∧ outcome ≠ .mismatched ∧ outcome ≠ .skippedRecent ∧
      outcome ≠ .fetchFailed) (message : String) :
    Coherent id (stopped id outcome file.identifier message) exchanges where
  toCounted := counted_of_unsaved unsaved rfl (not_or.mpr ⟨ending.1, ending.2.1⟩)
  calm := iff_of_false (List.cons_ne_nil _ _) (not_or.mpr ⟨ending.1, ending.2.2.1⟩)
  single _ := ⟨_, rfl, rfl, rfl, fun fetchFailed => absurd fetchFailed ending.2.2.2,
    fun _ => ⟨file, rest, fetched, rfl⟩⟩
  verdict event member := by
    rw [unsaved] at member
    cases member

theorem coherent_fetchFailed (unsaved : savedAlong exchanges = []) (message : String) :
    Coherent id (stopped id .fetchFailed (Text.writeInt64 id) message) exchanges where
  toCounted := counted_of_unsaved unsaved rfl (by simp [stopped])
  calm := iff_of_false (List.cons_ne_nil _ _) (by simp [stopped])
  single _ := ⟨_, rfl, rfl, rfl, fun _ => rfl, fun other => absurd rfl other⟩
  verdict event member := by
    rw [unsaved] at member
    cases member

theorem coherent_skippedRecent (unsaved : savedAlong exchanges = []) :
    Coherent id { fileId := id, outcome := .skippedRecent, count := 0 } exchanges where
  toCounted := counted_of_unsaved unsaved rfl (by simp)
  calm := iff_of_true rfl (.inr rfl)
  single issues := absurd rfl issues
  verdict event member := by
    rw [unsaved] at member
    cases member

/-! ### Courses with an event -/

theorem counted_of_saved {report : Report} {event : Premis.Event}
    (saved : savedAlong exchanges = [event]) (count : report.count = 1)
    (ending : report.outcome = .matched ∨ report.outcome = .mismatched) :
    Counted report exchanges := by
  refine ⟨?_, iff_of_true ending count, iff_of_true count ?_, ?_⟩
  · rw [saved]
    exact Nat.le_refl 1
  · rw [saved]
    rfl
  · rw [saved, count]
    rfl

/-- The event of a comparison has the verdict of a report that says the same of it. -/
theorem verdict_fixityCheck {report : Report} {file : Catalog.File} {source : Storage.Source}
    {parts : List (List UInt8)} {checksum : Catalog.Checksum} (identifier : Uuid)
    (time : Time.Timestamp) (url : String) (streamed : Streamed id exchanges file source parts)
    (latest : file.latestChecksum Catalog.sha256 = some checksum)
    (outcome : report.outcome =
      if checksum.digest = Sha256.digest parts.flatten then .matched else .mismatched) :
    Verdict id report exchanges
      (.fixityCheck identifier time file url checksum.digest (Sha256.digest parts.flatten)) := by
  have told : (Premis.Event.fixityCheck identifier time file url checksum.digest
      (Sha256.digest parts.flatten)).outcome =
      if checksum.digest = Sha256.digest parts.flatten then .success else .failed := rfl
  rw [Verdict, outcome, told]
  by_cases same : checksum.digest = Sha256.digest parts.flatten
  · rw [if_pos same, if_pos same]
    exact ⟨iff_of_true rfl rfl, iff_of_false nofun nofun, file, source, parts, checksum, streamed,
      latest, iff_of_true rfl same.symm, iff_of_false nofun (not_not_intro same.symm), rfl⟩
  · rw [if_neg same, if_neg same]
    exact ⟨iff_of_false nofun nofun, iff_of_true rfl rfl, file, source, parts, checksum, streamed,
      latest, iff_of_false nofun (Ne.symm same), iff_of_true rfl (Ne.symm same), rfl⟩

/-- A conclusion saves the event of the comparison and reports its verdict, or saves none. -/
theorem Conclusion.coherent {file : Catalog.File} {source : Storage.Source}
    {tries rest : List Exchange} {report : Report} {checksum : Catalog.Checksum}
    {parts : List (List UInt8)}
    (conclusion : Conclusion settings id file source.location.url checksum.digest
      (Sha256.digest parts.flatten) tries report)
    (fetched : dealings exchanges = ⟨.getFile id, .ok file⟩ :: rest)
    (streamed : Streamed id exchanges file source parts)
    (saved : savedAlong exchanges = savedAlong tries)
    (latest : file.latestChecksum Catalog.sha256 = some checksum) :
    Coherent id report exchanges := by
  cases conclusion with
  | eventRecordFailed identifier time failure saving =>
    rw [saving.savedAlong_eq] at saved
    exact coherent_stopped fetched saved (by decide) failure.message
  | matched identifier time saving same =>
    rw [saving.savedAlong_eq] at saved
    exact {
      toCounted := counted_of_saved saved rfl (.inl rfl)
      calm := iff_of_true rfl (.inl rfl)
      single := fun issues => absurd rfl issues
      verdict := by
        rw [saved]
        refine List.forall_mem_singleton.mpr ?_
        exact verdict_fixityCheck identifier time _ streamed latest (if_pos same).symm }
  | mismatched identifier time saving differ =>
    rw [saving.savedAlong_eq] at saved
    exact {
      toCounted := counted_of_saved saved rfl (.inr rfl)
      calm := iff_of_false (List.cons_ne_nil _ _) (by simp [refuted])
      single := fun _ => ⟨_, rfl, rfl, rfl, nofun, fun _ => ⟨file, rest, fetched, rfl⟩⟩
      verdict := by
        rw [saved]
        refine List.forall_mem_singleton.mpr ?_
        exact verdict_fixityCheck identifier time _ streamed latest (if_neg differ).symm }

/-! ### Checks -/

theorem Course.coherent {dealt : List Exchange} {report : Report}
    (course : Course settings id dealt report) (dealing : dealings exchanges = dealt) :
    Coherent id report exchanges := by
  have saved : savedAlong exchanges = savedAlong dealt := by
    rw [← dealing, savedAlong_dealings]
  cases course with
  | fetchFailed failure => exact coherent_fetchFailed saved failure.message
  | skippedColdTier file cold => exact coherent_stopped dealing saved (by decide) _
  | skippedRecent file time warm recent => exact coherent_skippedRecent saved
  | missingBaseline file time due unregistered =>
    exact coherent_stopped dealing saved (by decide) _
  | storageFailed file time due expected registered failure measuring =>
    exact coherent_stopped dealing (saved.trans measuring.savedAlong_eq) (by decide) _
  | measured file time due expected registered actual url measuring conclusion =>
    obtain ⟨checksum, latest, rfl⟩ := Catalog.File.latestDigest_eq_some_iff.mp registered
    cases measuring with
    | read resolution source found answer digest known =>
      obtain ⟨parts, rfl, rfl⟩ := Storage.digestOfAnswer_eq_ok_iff.mp known
      obtain ⟨identifier, time, saves⟩ := conclusion.eq_saveEvent
      have streamed : Streamed id exchanges file source parts :=
        ⟨resolution, _, found, dealing, fun exchange member => ⟨_, saves exchange member⟩⟩
      exact conclusion.coherent dealing streamed saved latest

end Fixity.Check
