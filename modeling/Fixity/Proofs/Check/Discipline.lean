/-
This file proves in which order a check turns to the outside, and when it does so. It
fetches the file, reads at most one copy, and then tries to save one event; each of
these calls is made only after what comes before it went well. Of the guards that keep
a check from the content of a file, the first that holds is the one it reports: the
cold tier before the recent check, that before the missing digest, and that before a
copy which cannot be found or read.
-/

import Fixity.Proofs.Calls
import Fixity.Proofs.Check.Course
import Fixity.Proofs.Checksums

namespace Fixity.Check

open Program

/-! ### The order of calls -/

/-- The calls of a check: it fetches the file, then it may read one copy, and after that it may try
to save one event, at least once and no more often than the settings grant. -/
inductive CallOrder (settings : Settings) (id : Int64) : List Query → Prop where
  | fetched : CallOrder settings id [.getFile id]
  | read (source : Storage.Source) : CallOrder settings id [.getFile id, .get source]
  | saved (source : Storage.Source) (event : Premis.Event) (tries : Nat) (least : 1 ≤ tries)
      (most : tries ≤ max 1 settings.attempts.toNat) :
      CallOrder settings id
        (.getFile id :: .get source :: List.replicate tries (.saveEvent event))

/-- The tries to save an event are calls with this event, one at least and one more than may be
left at most. -/
theorem Saving.callsAlong_eq {event : Premis.Event} {left : Nat} {tries : List Exchange}
    {result : Except Catalog.Failure Unit} (saving : Saving event left tries result) :
    ∃ number, 1 ≤ number ∧ number ≤ left + 1 ∧
      callsAlong tries = List.replicate number (.saveEvent event) := by
  induction saving with
  | saved left => exact ⟨1, Nat.le_refl 1, by omega, rfl⟩
  | refused left failure final => exact ⟨1, Nat.le_refl 1, by omega, rfl⟩
  | again left failure gateway rest inductionHypothesis =>
    obtain ⟨number, least, most, calls⟩ := inductionHypothesis
    refine ⟨number + 1, by omega, by omega, ?_⟩
    rw [callsAlong_cons, calls]
    rfl

theorem Conclusion.callsAlong_eq {settings : Settings} {id : Int64} {file : Catalog.File}
    {url expected actual : String} {tries : List Exchange} {report : Report}
    (conclusion : Conclusion settings id file url expected actual tries report) :
    ∃ event number, 1 ≤ number ∧ number ≤ max 1 settings.attempts.toNat ∧
      callsAlong tries = List.replicate number (.saveEvent event) := by
  cases conclusion with
  | eventRecordFailed _ _ _ saving | matched _ _ saving _ | mismatched _ _ saving _ =>
    obtain ⟨number, least, most, calls⟩ := saving.callsAlong_eq
    exact ⟨_, number, least, by omega, calls⟩

/-- Measuring a copy reads it unless none is found. -/
theorem Measuring.callsAlong_eq {file : Catalog.File} {measured : List Exchange}
    {result : Except Failure (String × String)} (measuring : Measuring file measured result) :
    callsAlong measured = [] ∨ ∃ source, callsAlong measured = [.get source] := by
  cases measuring with
  | unlocated => exact .inl rfl
  | unread _ source | read _ source => exact .inr ⟨source, rfl⟩

theorem Course.callOrder {settings : Settings} {id : Int64} {exchanges : List Exchange}
    {report : Report} (course : Course settings id exchanges report) :
    CallOrder settings id (callsAlong exchanges) := by
  cases course with
  | fetchFailed | skippedColdTier | skippedRecent | missingBaseline => exact .fetched
  | storageFailed file time due expected registered failure measuring =>
    show CallOrder settings id (.getFile id :: callsAlong _)
    rcases measuring.callsAlong_eq with calls | ⟨source, calls⟩
    · rw [calls]
      exact .fetched
    · rw [calls]
      exact .read source
  | measured file time due expected registered actual url measuring conclusion =>
    obtain ⟨event, number, least, most, calls⟩ := conclusion.callsAlong_eq
    cases measuring with
    | read resolution source found answer digest known =>
      have order : CallOrder settings id _ := .saved source event number least most
      rwa [← calls] at order

/-! ### The order of guards -/

/-- The copy that is chosen can be read: there is one, and its body arrives whole. -/
def Readable (answers : Answers) (file : Catalog.File) : Prop :=
  ∃ (source : Storage.Source) (parts : List (List UInt8)),
    (answers.resolution file).source = .ok source ∧ answers.body source = .ok (parts.map .ok)

/-- The file has no registered SHA-256 digest. -/
def Unregistered (file : Catalog.File) : Prop :=
  ∀ checksum ∈ file.checksums, checksum.algorithm ≠ Catalog.sha256

/-- How a check of a file ends: with the first of the guards that holds, in the order in which they
are listed, or after its content was measured. -/
inductive FirstGuard (settings : Settings) (answers : Answers) (time : Time.Timestamp)
    (file : Catalog.File) : Outcome → Prop where
  | coldTier (cold : file.isColdTierOnly = true) :
      FirstGuard settings answers time file .skippedColdTier
  | recent (warm : file.isColdTierOnly = false)
      (recent : recentlyChecked settings file time = true) :
      FirstGuard settings answers time file .skippedRecent
  | baseline (due : Due settings file time) (unregistered : Unregistered file) :
      FirstGuard settings answers time file .missingBaseline
  | storage (due : Due settings file time) (registered : ¬ Unregistered file)
      (unreadable : ¬ Readable answers file) :
      FirstGuard settings answers time file .storageFailed
  | none (due : Due settings file time) (registered : ¬ Unregistered file)
      (readable : Readable answers file) {outcome : Outcome}
      (measured : outcome = .eventRecordFailed ∨ outcome = .matched ∨ outcome = .mismatched) :
      FirstGuard settings answers time file outcome

theorem not_unregistered {file : Catalog.File} {digest : String}
    (registered : file.latestDigest Catalog.sha256 = some digest) : ¬ Unregistered file := by
  intro unregistered
  rw [Catalog.File.latestDigest_eq_none_iff.mpr unregistered] at registered
  cases registered

theorem Conclusion.measured {settings : Settings} {id : Int64} {file : Catalog.File}
    {url expected actual : String} {tries : List Exchange} {report : Report}
    (conclusion : Conclusion settings id file url expected actual tries report) :
    report.outcome = .eventRecordFailed ∨ report.outcome = .matched ∨
      report.outcome = .mismatched := by
  cases conclusion with
  | eventRecordFailed => exact .inl rfl
  | matched => exact .inr (.inl rfl)
  | mismatched => exact .inr (.inr rfl)

/-- What is concluded from a measurement is not that the file was checked recently. -/
theorem Conclusion.outcome_ne {settings : Settings} {id : Int64} {file : Catalog.File}
    {url expected actual : String} {tries : List Exchange} {report : Report}
    (conclusion : Conclusion settings id file url expected actual tries report) :
    report.outcome ≠ .skippedRecent := by
  rcases conclusion.measured with ending | ending | ending <;> rw [ending] <;> exact nofun

/-- A copy is measured exactly if it can be read. -/
theorem Measuring.readable_iff {answers : Answers} {file : Catalog.File}
    {measured : List Exchange} {result : Except Failure (String × String)}
    (measuring : Measuring file measured result) (explain : answers.Explain measured) :
    Readable answers file ↔ ∃ copy, result = .ok copy := by
  cases measuring with
  | unlocated resolution failure nowhere =>
    obtain ⟨rfl, -⟩ := (answers.explain_cons _ _).mp explain
    constructor
    · rintro ⟨source, parts, found, -⟩
      cases nowhere.symm.trans found
    · rintro ⟨_, ⟨⟩⟩
  | unread resolution source found answer failure broken =>
    simp only [Answers.explain_cons] at explain
    obtain ⟨rfl, rfl, -⟩ := explain
    constructor
    · rintro ⟨other, parts, again, whole⟩
      obtain rfl := Except.ok.inj (found.symm.trans again)
      rw [Storage.digestOfAnswer_eq_ok_iff.mpr ⟨parts, whole, rfl⟩] at broken
      cases broken
    · rintro ⟨_, ⟨⟩⟩
  | read resolution source found answer digest known =>
    simp only [Answers.explain_cons] at explain
    obtain ⟨rfl, rfl, -⟩ := explain
    obtain ⟨parts, whole, -⟩ := Storage.digestOfAnswer_eq_ok_iff.mp known
    exact ⟨fun _ => ⟨_, rfl⟩, fun _ => ⟨source, parts, found, whole⟩⟩

/-- A comparison does not end as if it had not been made. -/
theorem outcome_compare {settings : Settings} {id : Int64} {file : Catalog.File}
    {expected : String} {exchanges : List Exchange} {report : Report}
    (yields : (compare settings id file expected).Yields exchanges report) :
    report.outcome ≠ .skippedRecent := by
  obtain ⟨first, measured, rest, -, told, -⟩ := yields_bind_iff.mp yields
  cases measured with
  | error failure =>
    rw [(pure_yields told).2]
    exact nofun
  | ok copy => exact (conclusion_of_yields told).outcome_ne

/-- For a file that can be streamed the clock is asked first of all, and the check ends there
exactly if the file was checked recently by the time it tells. -/
theorem exists_firstTime? {settings : Settings} {id : Int64} {file : Catalog.File}
    {exchanges : List Exchange} {report : Report} (warm : file.isColdTierOnly = false)
    (yields : (checkFile settings id file).Yields exchanges report) :
    ∃ time, firstTime? exchanges = some time ∧
      (report.outcome = .skippedRecent ↔ recentlyChecked settings file time = true) := by
  dsimp only [checkFile] at yields
  rw [if_neg (by rw [warm]; exact Bool.false_ne_true)] at yields
  obtain ⟨time, rest, told, rfl⟩ := yields_query_bind_iff.mp yields
  refine ⟨time, rfl, ?_⟩
  by_cases recent : recentlyChecked settings file time = true
  · rw [if_pos recent] at told
    obtain ⟨last, ended, -⟩ := log_yields told
    rw [(pure_yields ended).2]
    exact iff_of_true rfl recent
  · rw [if_neg recent] at told
    refine iff_of_false ?_ recent
    cases registered : file.latestDigest Catalog.sha256 with
    | none =>
      rw [registered] at told
      rw [(pure_yields told).2]
      exact nofun
    | some expected =>
      rw [registered] at told
      exact outcome_compare told

/-- Every check of a known file ends with the first guard that holds, at the time by which it was
looked whether the file was checked recently. -/
theorem Course.firstGuard {settings : Settings} {answers : Answers} {time : Time.Timestamp}
    {id : Int64} {file : Catalog.File} {exchanges : List Exchange} {report : Report}
    (course : Course settings id exchanges report) (explain : answers.Explain exchanges)
    (known : answers.file id = .ok file)
    (recent : file.isColdTierOnly = false →
      (report.outcome = .skippedRecent ↔ recentlyChecked settings file time = true)) :
    FirstGuard settings answers time file report.outcome := by
  have due (warm : file.isColdTierOnly = false) (other : report.outcome ≠ .skippedRecent) :
      Due settings file time :=
    ⟨warm, Bool.eq_false_iff.mpr fun early => other ((recent warm).mpr early)⟩
  cases course with
  | fetchFailed failure =>
    obtain ⟨unknown, -⟩ := (answers.explain_cons _ _).mp explain
    cases unknown.trans known
  | skippedColdTier other cold =>
    obtain ⟨same, -⟩ := (answers.explain_cons _ _).mp explain
    obtain rfl := Except.ok.inj (same.trans known)
    exact .coldTier cold
  | skippedRecent other _ warm =>
    obtain ⟨same, -⟩ := (answers.explain_cons _ _).mp explain
    obtain rfl := Except.ok.inj (same.trans known)
    exact .recent warm ((recent warm).mp rfl)
  | missingBaseline other _ checked unregistered =>
    obtain ⟨same, -⟩ := (answers.explain_cons _ _).mp explain
    obtain rfl := Except.ok.inj (same.trans known)
    exact .baseline (due checked.warm nofun)
      (Catalog.File.latestDigest_eq_none_iff.mp unregistered)
  | storageFailed other _ checked expected registered failure measuring =>
    obtain ⟨same, measured⟩ := (answers.explain_cons _ _).mp explain
    obtain rfl := Except.ok.inj (same.trans known)
    refine .storage (due checked.warm nofun) (not_unregistered registered) fun readable => ?_
    obtain ⟨copy, ⟨⟩⟩ := (measuring.readable_iff measured).mp readable
  | measured other _ checked expected registered actual url measuring conclusion =>
    obtain ⟨same, measured⟩ := (answers.explain_cons _ _).mp explain
    obtain rfl := Except.ok.inj (same.trans known)
    have explained : answers.Explain _ := fun exchange member =>
      measured exchange (List.mem_append_left _ member)
    exact .none (due checked.warm conclusion.outcome_ne) (not_unregistered registered)
      ((measuring.readable_iff explained).mpr ⟨_, rfl⟩) conclusion.measured

/-! ### Every check meets with answers -/

/-- Measuring a copy asks for one resolution and for one body at most. -/
theorem Measuring.exists_explain {file : Catalog.File} {measured : List Exchange}
    {result : Except Failure (String × String)} (measuring : Measuring file measured result) :
    ∃ (resolution : Storage.Resolution) (body : Except Storage.Failure Storage.Body),
      ∀ answers : Answers, answers.resolution file = resolution →
        (∀ source, answers.body source = body) → answers.Explain measured := by
  cases measuring with
  | unlocated resolution failure nowhere =>
    refine ⟨resolution, .error (.unknownBucket ""), fun answers chosen _ => ?_⟩
    simp only [Answers.explain_cons, Answers.explain_nil, Answers.Give, chosen, and_self]
  | unread resolution source found answer | read resolution source found answer =>
    refine ⟨resolution, answer, fun answers chosen body => ?_⟩
    simp only [Answers.explain_cons, Answers.explain_nil, Answers.Give, chosen, body, and_self]

/-- The dealings of a check ask each query about the file once, so some answers explain them. -/
theorem Course.exists_explain {settings : Settings} {id : Int64} {exchanges : List Exchange}
    {report : Report} (course : Course settings id exchanges report) :
    ∃ answers : Answers, answers.Explain exchanges := by
  -- What is not asked may have any answer.
  let silence : Storage.Failure := .unknownBucket ""
  let nowhere : Storage.Resolution := ⟨none, .error (.storage silence)⟩
  cases course with
  | fetchFailed failure =>
    refine ⟨⟨fun _ => .error failure, fun _ => nowhere, fun _ => .error silence,
      fun _ => .error silence⟩, ?_⟩
    simp only [Answers.explain_cons, Answers.explain_nil, Answers.Give, and_self]
  | skippedColdTier file | skippedRecent file | missingBaseline file =>
    refine ⟨⟨fun _ => .ok file, fun _ => nowhere, fun _ => .error silence,
      fun _ => .error silence⟩, ?_⟩
    simp only [Answers.explain_cons, Answers.explain_nil, Answers.Give, and_self]
  | storageFailed file time due expected registered failure measuring =>
    obtain ⟨resolution, body, explain⟩ := measuring.exists_explain
    refine ⟨⟨fun _ => .ok file, fun _ => resolution, fun _ => .error silence, fun _ => body⟩, ?_⟩
    exact (Answers.explain_cons _ _ _).mpr ⟨rfl, explain _ rfl fun _ => rfl⟩
  | measured file time due expected registered actual url measuring conclusion =>
    obtain ⟨resolution, body, explain⟩ := measuring.exists_explain
    obtain ⟨identifier, moment, saves⟩ := conclusion.eq_saveEvent
    refine ⟨⟨fun _ => .ok file, fun _ => resolution, fun _ => .error silence, fun _ => body⟩, ?_⟩
    refine (Answers.explain_cons _ _ _).mpr ⟨rfl, fun exchange member => ?_⟩
    rcases List.mem_append.mp member with asked | tried
    · exact explain _ rfl (fun _ => rfl) exchange asked
    · obtain ⟨answer, rfl⟩ := saves exchange tried
      exact True.intro

/-! ### Disciplined checks -/

/-- A check turns to the outside in order and for a reason. A copy is read only if it was found for a
file that no guard keeps from it; an event is saved only after a body arrived whole; and the check
ends with the first guard that holds, whatever would have been answered to what was not asked. -/
structure Disciplined (settings : Settings) (id : Int64) (exchanges : List Exchange)
    (report : Report) : Prop where
  order : CallOrder settings id (callsAlong exchanges)
  unstatted : ∀ source, .stat source ∉ callsAlong exchanges
  reads : ∀ source, .get source ∈ callsAlong exchanges →
    ∃ file resolution time, ⟨.getFile id, .ok file⟩ ∈ exchanges ∧
      file.isColdTierOnly = false ∧
      firstTime? exchanges = some time ∧ recentlyChecked settings file time = false ∧
      (∃ checksum ∈ file.checksums, checksum.algorithm = Catalog.sha256) ∧
      ⟨.resolve file, resolution⟩ ∈ exchanges ∧ resolution.source = .ok source
  saves : ∀ event, .saveEvent event ∈ callsAlong exchanges →
    ∃ (source : Storage.Source) (parts : List (List UInt8)),
      ⟨.get source, .ok (parts.map .ok)⟩ ∈ exchanges
  explained : ∃ answers : Answers, answers.Explain exchanges
  guards : ∀ (answers : Answers) (time : Time.Timestamp) (file : Catalog.File),
    answers.Explain exchanges → answers.file id = .ok file →
    firstTime? exchanges = none ∨ firstTime? exchanges = some time →
    FirstGuard settings answers time file report.outcome

theorem CallOrder.not_mem_stat {settings : Settings} {id : Int64} {calls : List Query}
    (order : CallOrder settings id calls) (source : Storage.Source) : .stat source ∉ calls := by
  cases order <;> simp [List.mem_replicate]

/-- A copy is read only of a file that is due and registered, and only where it was found. -/
theorem Course.reads {settings : Settings} {id : Int64} {exchanges : List Exchange}
    {report : Report} {source : Storage.Source} (course : Course settings id exchanges report)
    (read : .get source ∈ callsAlong exchanges) :
    ∃ file resolution further, exchanges = ⟨.getFile id, .ok file⟩ :: further ∧
      file.isColdTierOnly = false ∧ report.outcome ≠ .skippedRecent ∧ ¬ Unregistered file ∧
      ⟨.resolve file, resolution⟩ ∈ further ∧ resolution.source = .ok source := by
  cases course with
  | fetchFailed | skippedColdTier | skippedRecent | missingBaseline =>
    cases List.mem_singleton.mp read
  | storageFailed file time due expected registered failure measuring =>
    cases measuring with
    | unlocated => cases List.mem_singleton.mp read
    | unread resolution other found =>
      obtain rfl : source = other := by simpa [Query.isCall] using read
      exact ⟨file, resolution, _, rfl, due.warm, nofun, not_unregistered registered,
        List.mem_cons_self, found⟩
  | measured file time due expected registered actual url measuring conclusion =>
    obtain ⟨event, number, -, -, calls⟩ := conclusion.callsAlong_eq
    cases measuring with
    | read resolution copy found =>
      obtain rfl : source = copy := by simpa [Query.isCall, calls, List.mem_replicate] using read
      exact ⟨file, resolution, _, rfl, due.warm, conclusion.outcome_ne,
        not_unregistered registered, List.mem_cons_self, found⟩

/-- An event is saved only after the body of a copy arrived whole. -/
theorem Course.saves {settings : Settings} {id : Int64} {exchanges : List Exchange}
    {report : Report} {event : Premis.Event} (course : Course settings id exchanges report)
    (saved : .saveEvent event ∈ callsAlong exchanges) :
    ∃ (source : Storage.Source) (parts : List (List UInt8)),
      ⟨.get source, .ok (parts.map .ok)⟩ ∈ exchanges := by
  cases course with
  | fetchFailed | skippedColdTier | skippedRecent | missingBaseline =>
    cases List.mem_singleton.mp saved
  | storageFailed file time due expected registered failure measuring =>
    cases measuring <;> simp [Query.isCall] at saved
  | measured file time due expected registered actual url measuring conclusion =>
    cases measuring with
    | read resolution source found answer digest known =>
      obtain ⟨parts, rfl, -⟩ := Storage.digestOfAnswer_eq_ok_iff.mp known
      exact ⟨source, parts, by simp⟩

/-- Every way through a check is disciplined. -/
theorem disciplined_of_yields {settings : Settings} {id : Int64} {exchanges : List Exchange}
    {report : Report} (yields : (check settings id).Yields exchanges report) :
    Disciplined settings id exchanges report := by
  have course := course_of_yields yields
  have order := course.callOrder
  obtain ⟨answer, rest, told, rfl⟩ := yields_query_bind_iff.mp yields
  rw [callsAlong_dealings] at order
  obtain ⟨answers, explain⟩ := course.exists_explain
  refine ⟨order, order.not_mem_stat, ?reads, ?saves,
    ⟨answers, (answers.explain_dealings_iff _).mp explain⟩, ?guards⟩
  case reads =>
    intro source read
    rw [← callsAlong_dealings] at read
    obtain ⟨file, resolution, further, fetched, warm, other, registered, located, found⟩ :=
      course.reads read
    -- The dealings begin with the exchange that the check begins with.
    injection fetched with first same
    injection first with _ known
    subst known
    obtain ⟨time, clock, recent⟩ := exists_firstTime? warm told
    have old : recentlyChecked settings file time = false :=
      Bool.eq_false_iff.mpr fun early => other (recent.mpr early)
    have member : ⟨.resolve file, resolution⟩ ∈ rest := by
      rw [← same] at located
      exact (mem_dealings.mp located).1
    simp only [Unregistered, not_forall, not_not, exists_prop] at registered
    exact ⟨file, resolution, time, List.mem_cons_self, warm, clock, old, registered,
      List.mem_cons_of_mem _ member, found⟩
  case saves =>
    intro event saved
    rw [← callsAlong_dealings] at saved
    obtain ⟨source, parts, whole⟩ := course.saves saved
    exact ⟨source, parts, (mem_dealings.mp whole).1⟩
  case guards =>
    intro answers time file explain known clock
    obtain ⟨given, -⟩ := (answers.explain_cons _ _).mp explain
    obtain rfl : answer = .ok file := Eq.trans given known
    refine course.firstGuard ((answers.explain_dealings_iff _).mpr explain) known fun warm => ?_
    obtain ⟨first, asked, recent⟩ := exists_firstTime? warm told
    obtain nothing | same := clock
    · cases asked.symm.trans nothing
    · obtain rfl := Option.some.inj (asked.symm.trans same)
      exact recent

/-- **Checks are disciplined.** With any settings and in every world, a check makes its calls in one
order, reads and saves only after what comes before went well, and reports the first guard that
holds. -/
theorem disciplined_check (world : World σ) (state : σ) (settings : Settings) (id : Int64) :
    Disciplined settings id ((check settings id).run world state).exchanges
      ((check settings id).run world state).value :=
  disciplined_of_yields (yields_run world state (check settings id))

end Fixity.Check
