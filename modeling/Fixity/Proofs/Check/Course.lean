/-
This file lists the courses that a fixity check can take: which dealings it has,
with which answers, and the report that each ends with. Measuring a copy and saving
an event are courses of their own. An event is saved at the first try that succeeds;
a try is repeated only after a failure of the gateway, while tries are left.
-/

import Fixity.Check.Pass
import Fixity.Proofs.Copies

namespace Fixity.Check

open Program

/-! ### Courses -/

/-- The tries to save an event when so many are left after the first, and their result. -/
inductive Saving (event : Premis.Event) :
    Nat → List Exchange → Except Catalog.Failure Unit → Prop where
  | saved (left : Nat) : Saving event left [⟨.saveEvent event, .ok ()⟩] (.ok ())
  | refused (left : Nat) (failure : Catalog.Failure)
      (final : left = 0 ∨ failure.isBadGateway = false) :
      Saving event left [⟨.saveEvent event, .error failure⟩] (.error failure)
  | again (left : Nat) (failure : Catalog.Failure) (gateway : failure.isBadGateway = true)
      {further : List Exchange} {result : Except Catalog.Failure Unit}
      (rest : Saving event left further result) :
      Saving event (left + 1) (⟨.saveEvent event, .error failure⟩ :: further) result

/-- The dealings that measure a file's copy, and the digest with the copy's address. -/
inductive Measuring (file : Catalog.File) :
    List Exchange → Except Failure (String × String) → Prop where
  | unlocated (resolution : Storage.Resolution) (failure : Failure)
      (nowhere : resolution.source = .error failure) :
      Measuring file [⟨.resolve file, resolution⟩] (.error failure)
  | unread (resolution : Storage.Resolution) (source : Storage.Source)
      (found : resolution.source = .ok source) (answer : Except Storage.Failure Storage.Body)
      (failure : Storage.Failure)
      (broken : Storage.digestOfAnswer source answer = .error failure) :
      Measuring file [⟨.resolve file, resolution⟩, ⟨.get source, answer⟩]
        (.error (.storage failure))
  | read (resolution : Storage.Resolution) (source : Storage.Source)
      (found : resolution.source = .ok source) (answer : Except Storage.Failure Storage.Body)
      (digest : String) (known : Storage.digestOfAnswer source answer = .ok digest) :
      Measuring file [⟨.resolve file, resolution⟩, ⟨.get source, answer⟩]
        (.ok (digest, source.location.url))

/-- A file is due at a time when its content can be streamed and was not checked recently. -/
structure Due (settings : Settings) (file : Catalog.File) (time : Time.Timestamp) : Prop where
  warm : file.isColdTierOnly = false
  old : recentlyChecked settings file time = false

/-- The report of a content that is not the registered one. -/
def refuted (id : Int64) (file : Catalog.File) (url expected actual : String) : Report :=
  { fileId := id
    outcome := .mismatched
    count := 1
    issues := [.fatal raisedAt file.identifier
      (Failure.integrity file.identifier url expected actual).message] }

/-- The dealings of a file's check once its content is known, and the report at its end. -/
inductive Conclusion (settings : Settings) (id : Int64) (file : Catalog.File)
    (url expected actual : String) : List Exchange → Report → Prop where
  | eventRecordFailed (identifier : Uuid) (time : Time.Timestamp) (failure : Catalog.Failure)
      {tries : List Exchange}
      (saving : Saving (.fixityCheck identifier time file url expected actual)
        (settings.attempts.toNat - 1) tries (.error failure)) :
      Conclusion settings id file url expected actual tries
        (stopped id .eventRecordFailed file.identifier failure.message)
  | matched (identifier : Uuid) (time : Time.Timestamp) {tries : List Exchange}
      (saving : Saving (.fixityCheck identifier time file url expected actual)
        (settings.attempts.toNat - 1) tries (.ok ())) (same : expected = actual) :
      Conclusion settings id file url expected actual tries
        { fileId := id, outcome := .matched, count := 1 }
  | mismatched (identifier : Uuid) (time : Time.Timestamp) {tries : List Exchange}
      (saving : Saving (.fixityCheck identifier time file url expected actual)
        (settings.attempts.toNat - 1) tries (.ok ())) (differ : expected ≠ actual) :
      Conclusion settings id file url expected actual tries
        (refuted id file url expected actual)

/-- The dealings of a check, and the report at its end. -/
inductive Course (settings : Settings) (id : Int64) : List Exchange → Report → Prop where
  | fetchFailed (failure : Catalog.Failure) :
      Course settings id [⟨.getFile id, .error failure⟩]
        (stopped id .fetchFailed (Text.writeInt64 id) failure.message)
  | skippedColdTier (file : Catalog.File) (cold : file.isColdTierOnly = true) :
      Course settings id [⟨.getFile id, .ok file⟩]
        (stopped id .skippedColdTier file.identifier (coldTierMessage file))
  | skippedRecent (file : Catalog.File) (time : Time.Timestamp)
      (warm : file.isColdTierOnly = false) (recent : recentlyChecked settings file time = true) :
      Course settings id [⟨.getFile id, .ok file⟩]
        { fileId := id, outcome := .skippedRecent, count := 0 }
  | missingBaseline (file : Catalog.File) (time : Time.Timestamp) (due : Due settings file time)
      (unregistered : file.latestDigest Catalog.sha256 = none) :
      Course settings id [⟨.getFile id, .ok file⟩]
        (stopped id .missingBaseline file.identifier
          (Failure.missingBaseline file.identifier).message)
  | storageFailed (file : Catalog.File) (time : Time.Timestamp) (due : Due settings file time)
      (expected : String) (registered : file.latestDigest Catalog.sha256 = some expected)
      (failure : Failure) {measured : List Exchange}
      (measuring : Measuring file measured (.error failure)) :
      Course settings id (⟨.getFile id, .ok file⟩ :: measured)
        (stopped id .storageFailed file.identifier failure.message)
  | measured (file : Catalog.File) (time : Time.Timestamp) (due : Due settings file time)
      (expected : String) (registered : file.latestDigest Catalog.sha256 = some expected)
      (actual url : String) {measured tries : List Exchange} {report : Report}
      (measuring : Measuring file measured (.ok (actual, url)))
      (conclusion : Conclusion settings id file url expected actual tries report) :
      Course settings id (⟨.getFile id, .ok file⟩ :: (measured ++ tries)) report

/-! ### Tries -/

theorem Saving.eq_saveEvent {event : Premis.Event} {left : Nat} {tries : List Exchange}
    {result : Except Catalog.Failure Unit} (saving : Saving event left tries result) :
    ∀ exchange ∈ tries, ∃ answer, exchange = ⟨.saveEvent event, answer⟩ := by
  induction saving with
  | saved left => exact List.forall_mem_singleton.mpr ⟨_, rfl⟩
  | refused left failure final => exact List.forall_mem_singleton.mpr ⟨_, rfl⟩
  | again left failure gateway rest inductionHypothesis =>
    exact List.forall_mem_cons.mpr ⟨⟨_, rfl⟩, inductionHypothesis⟩

/-- All tries of a conclusion are for one event, that of the comparison. -/
theorem Conclusion.eq_saveEvent {settings : Settings} {id : Int64} {file : Catalog.File}
    {url expected actual : String} {tries : List Exchange} {report : Report}
    (conclusion : Conclusion settings id file url expected actual tries report) :
    ∃ identifier time, ∀ exchange ∈ tries, ∃ answer,
      exchange = ⟨.saveEvent (.fixityCheck identifier time file url expected actual), answer⟩ := by
  cases conclusion with
  | eventRecordFailed identifier time _ saving | matched identifier time saving _
  | mismatched identifier time saving _ => exact ⟨identifier, time, saving.eq_saveEvent⟩

/-! ### Every check takes a course -/

theorem saving_of_yields {settings : Settings} {event : Premis.Event} {left : Nat}
    {exchanges : List Exchange} {result : Except Catalog.Failure Unit}
    (yields : (saveFrom settings event left).Yields exchanges result) :
    Saving event left (dealings exchanges) result := by
  induction left generalizing exchanges with
  | zero =>
    rw [yields_query_iff.mp yields]
    cases result with
    | ok => exact .saved 0
    | error failure => exact .refused 0 failure (.inl rfl)
  | succ left inductionHypothesis =>
    obtain ⟨answer, rest, told, same⟩ := dealing_yields rfl yields
    rw [same]
    cases answer with
    | ok =>
      rw [(pure_yields told).1, (pure_yields told).2]
      exact .saved (left + 1)
    | error failure =>
      dsimp only at told
      cases gateway : failure.isBadGateway with
      | false =>
        rw [if_neg (by rw [gateway]; exact Bool.false_ne_true)] at told
        rw [(pure_yields told).1, (pure_yields told).2]
        exact .refused (left + 1) failure (.inr gateway)
      | true =>
        rw [if_pos gateway] at told
        -- The entry of the log and the pause before the next try are no dealings.
        obtain ⟨-, paused, told, noted⟩ := aside_yields rfl told
        obtain ⟨-, tries, told, waited⟩ := aside_yields rfl told
        rw [noted, waited]
        exact .again left failure gateway (inductionHypothesis told)

theorem measuring_of_yields {file : Catalog.File} {exchanges : List Exchange}
    {result : Except Failure (String × String)}
    (yields : (measure file).Yields exchanges result) :
    Measuring file (dealings exchanges) result := by
  obtain ⟨first, found, rest, located, told, rfl⟩ := yields_bind_iff.mp yields
  obtain ⟨resolution, asked, rfl⟩ := locate_yields located
  rw [dealings_append, asked]
  cases found : resolution.source with
  | error failure =>
    rw [found] at told
    rw [(pure_yields told).1, (pure_yields told).2]
    exact .unlocated resolution failure found
  | ok source =>
    rw [found] at told
    obtain ⟨second, measured, rest, reading, told, rfl⟩ := yields_bind_iff.mp told
    obtain ⟨answer, asked, rfl⟩ := digestOf_yields reading
    rw [dealings_append, asked]
    cases known : Storage.digestOfAnswer source answer with
    | error failure =>
      rw [known] at told
      rw [(pure_yields told).1, (pure_yields told).2]
      exact .unread resolution source found answer failure known
    | ok digest =>
      rw [known] at told
      rw [(pure_yields told).1, (pure_yields told).2]
      exact .read resolution source found answer digest known

theorem conclusion_of_yields {settings : Settings} {id : Int64} {file : Catalog.File}
    {url expected actual : String} {exchanges : List Exchange} {report : Report}
    (yields : (conclude settings id file url expected actual).Yields exchanges report) :
    Conclusion settings id file url expected actual (dealings exchanges) report := by
  obtain ⟨first, event, rest, made, yields, rfl⟩ := yields_bind_iff.mp yields
  obtain ⟨identifier, later, made, same⟩ := aside_yields rfl made
  obtain ⟨time, last, made, again⟩ := now_yields made
  obtain ⟨ended, rfl⟩ := pure_yields made
  rw [dealings_append, same, again, ended, List.nil_append]
  obtain ⟨tries, result, rest, saving, told, rfl⟩ := yields_bind_iff.mp yields
  have saving := saving_of_yields saving
  rw [dealings_append]
  cases result with
  | error failure =>
    rw [(pure_yields told).1, (pure_yields told).2, List.append_nil]
    exact .eventRecordFailed identifier time failure saving
  | ok =>
    by_cases same : expected = actual
    · have success : (Premis.Event.fixityCheck identifier time file url expected actual).outcome =
          .success := if_pos same
      dsimp only [verdict] at told
      rw [if_pos success] at told
      obtain ⟨rest, told, noted⟩ := log_yields told
      rw [noted, (pure_yields told).1, (pure_yields told).2, List.append_nil]
      exact .matched identifier time saving same
    · have failed : (Premis.Event.fixityCheck identifier time file url expected actual).outcome =
          .failed := if_neg same
      dsimp only [verdict] at told
      rw [if_neg (by rw [failed]; decide)] at told
      obtain ⟨rest, told, noted⟩ := log_yields told
      rw [noted, (pure_yields told).1, (pure_yields told).2, List.append_nil]
      exact .mismatched identifier time saving same

/-- Every way through a check is one of its courses. -/
theorem course_of_yields {settings : Settings} {id : Int64} {exchanges : List Exchange}
    {report : Report} (yields : (check settings id).Yields exchanges report) :
    Course settings id (dealings exchanges) report := by
  obtain ⟨answer, rest, yields, same⟩ := dealing_yields rfl yields
  rw [same]
  cases answer with
  | error failure =>
    rw [(pure_yields yields).1, (pure_yields yields).2]
    exact .fetchFailed failure
  | ok file =>
    dsimp only [checkFile] at yields
    cases warm : file.isColdTierOnly with
    | true =>
      rw [if_pos warm] at yields
      obtain ⟨rest, yields, same⟩ := log_yields yields
      rw [same, (pure_yields yields).1, (pure_yields yields).2]
      exact .skippedColdTier file warm
    | false =>
      rw [if_neg (by rw [warm]; exact Bool.false_ne_true)] at yields
      obtain ⟨time, rest, yields, same⟩ := now_yields yields
      rw [same]
      cases old : recentlyChecked settings file time with
      | true =>
        rw [if_pos old] at yields
        obtain ⟨rest, yields, same⟩ := log_yields yields
        rw [same, (pure_yields yields).1, (pure_yields yields).2]
        exact .skippedRecent file time warm old
      | false =>
        rw [if_neg (by rw [old]; exact Bool.false_ne_true)] at yields
        have due : Due settings file time := ⟨warm, old⟩
        cases registered : file.latestDigest Catalog.sha256 with
        | none =>
          rw [registered] at yields
          rw [(pure_yields yields).1, (pure_yields yields).2]
          exact .missingBaseline file time due registered
        | some expected =>
          rw [registered] at yields
          obtain ⟨first, measured, rest, measuring, told, rfl⟩ := yields_bind_iff.mp yields
          have measuring := measuring_of_yields measuring
          rw [dealings_append]
          cases measured with
          | error failure =>
            rw [(pure_yields told).1, (pure_yields told).2, List.append_nil]
            exact .storageFailed file time due expected registered failure measuring
          | ok copy =>
            exact .measured file time due expected registered copy.1 copy.2 measuring
              (conclusion_of_yields told)

/-- Every check in every world takes one of the courses. -/
theorem course_of_run (world : World σ) (state : σ) (settings : Settings) (id : Int64) :
    Course settings id (dealings ((check settings id).run world state).exchanges)
      ((check settings id).run world state).value :=
  course_of_yields (yields_run world state (check settings id))

end Fixity.Check
