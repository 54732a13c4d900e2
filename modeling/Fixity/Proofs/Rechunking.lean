/-
This file proves that nobody sees how a body is cut into chunks. Its digest is that of
its bytes, or its first fault; so audits and checks of a file resemble those in another
world, whose stores hold the same bytes in other chunks, and end with the same record
but for its times, and with the same report and the same events but for their
identifiers and times.
-/

import Fixity.Check.Pass
import Fixity.Proofs.Audit.Answered
import Fixity.Proofs.Resemblance

namespace Fixity

open Program

variable {clock : Time.Timestamp → Time.Timestamp → Prop}

/-! ### Copies -/

namespace Storage

theorem Body.Recut.digest_eq {body other : Body} (recut : body.Recut other) :
    body.digest = other.digest := by
  obtain ⟨parts, otherParts, rfl, rfl, same⟩ := recut
  rw [digest_map_ok, digest_map_ok, same]

/-- The digest that is told of a body does not depend on its chunks. -/
theorem digestOfAnswer_of_resembles {source : Source} {answer other : Except Failure Body}
    (like : Exchange.Resembles clock ⟨.get source, answer⟩ ⟨.get source, other⟩) :
    digestOfAnswer source answer = digestOfAnswer source other := by
  cases like with
  | refl => rfl
  | get _ recut => rw [digestOfAnswer, digestOfAnswer, recut.digest_eq]

end Storage

namespace Program

theorem locate_resembles (file : Catalog.File) :
    Resembles clock (· = ·) (locate file) (locate file) := by
  refine .query_bind rfl fun resolution => ?_
  cases resolution.preferred with
  | none => exact .pure rfl
  | some bucket => exact .log_bind (.pure rfl)

theorem digestOf_resembles (source : Storage.Source) :
    Resembles clock (· = ·) (digestOf source) (digestOf source) := by
  rw [digestOf_eq]
  exact .ask (.refl _) fun _ _ like => .pure (Storage.digestOfAnswer_of_resembles like)

end Program

/-! ### Audits -/

namespace Audit

/-- A record with another time of its beginning. -/
def Record.begunAt (record : Record) (time : Time.Timestamp) : Record :=
  { record with startedAt := time }

/-- Records that differ at most in their times. -/
def Record.SameUpToTimes (record other : Record) : Prop :=
  record.timeless = other.timeless

variable (record : Record) (begun : Time.Timestamp)

theorem stop_resembles (failure : Failure) :
    Resembles clock Record.SameUpToTimes (stop record failure)
      (stop (record.begunAt begun) failure) :=
  .log_bind (.pure rfl)

theorem readContent_resembles (file : Catalog.File) (source : Storage.Source) :
    Resembles clock Record.SameUpToTimes (readContent file source record)
      (readContent file source (record.begunAt begun)) := by
  refine .bind_eq (digestOf_resembles source) fun measured => ?_
  cases measured with
  | error failure => exact stop_resembles record begun (.storage failure)
  | ok digest =>
    refine .now_bind fun time later _ => ?_
    dsimp only
    rw [show ((record.begunAt begun).withDigest digest later).passed =
      (record.withDigest digest time).passed from rfl]
    split
    · exact .log_bind (.pure rfl)
    · exact .pure rfl

theorem checkContent_resembles (file : Catalog.File) (source : Storage.Source) :
    Resembles clock Record.SameUpToTimes (checkContent file source record)
      (checkContent file source (record.begunAt begun)) := by
  rw [checkContent, checkContent, show (record.begunAt begun).withFullMethod.isColdTierOnly =
    record.withFullMethod.isColdTierOnly from rfl]
  split
  · exact .log_bind (.pure rfl)
  · exact readContent_resembles record.withFullMethod begun file source

theorem judge_resembles (full : Bool) (file : Catalog.File) (source : Storage.Source) :
    Resembles clock Record.SameUpToTimes (judge full file source record)
      (judge full file source (record.begunAt begun)) := by
  rw [judge, judge, show (record.begunAt begun).concern = record.concern from rfl]
  cases record.concern with
  | none => exact .now_bind fun _ _ _ => .pure rfl
  | some reason =>
    cases full with
    | true => exact checkContent_resembles (record.withReason reason) begun file source
    | false => exact .now_bind fun _ _ _ => .pure rfl

theorem audit_resembles (full : Bool) (id : Int64) :
    Resembles clock Record.SameUpToTimes (audit full id) (audit full id) := by
  refine .now_bind fun time begun _ => .query_bind rfl fun answer => ?_
  cases answer with
  | error failure => exact stop_resembles (.initial id time) begun (.catalog failure)
  | ok file =>
    refine .bind_eq (locate_resembles file) fun found => ?_
    cases found with
    | error failure => exact stop_resembles ((Record.initial id time).withFile file) begun failure
    | ok source =>
      refine .query_bind rfl fun answer => ?_
      cases answer with
      | error failure =>
        exact stop_resembles (((Record.initial id time).withFile file).withSource source) begun
          (.storage failure)
      | ok stat => exact judge_resembles (surveyed id time file source stat) begun full file source

end Audit

/-! ### Checks -/

namespace Check

variable {event other : Premis.Event} (same : event.unmarked = other.unmarked)

include same

theorem saveFrom_resembles (settings : Settings) (left : Nat) :
    Resembles clock (· = ·) (saveFrom settings event left) (saveFrom settings other left) := by
  have entry : retryEntry settings event = retryEntry settings other := by
    show retryEntry settings event.unmarked = retryEntry settings other.unmarked
    rw [same]
  induction left with
  | zero => exact .saveEvent_bind same fun _ => .pure rfl
  | succ left inductionHypothesis =>
    refine .saveEvent_bind same fun answer => ?_
    cases answer with
    | ok => exact .pure rfl
    | error failure =>
      dsimp only
      split
      · rw [entry]
        exact .query_bind rfl fun _ => .query_bind rfl fun _ => inductionHypothesis
      · exact .pure rfl

theorem verdict_resembles (id : Int64) (file : Catalog.File) (url expected actual : String) :
    Resembles clock (· = ·) (verdict id file url expected actual event)
      (verdict id file url expected actual other) := by
  have verdicts : verdict id file url expected actual event =
      verdict id file url expected actual other := by
    show verdict id file url expected actual event.unmarked =
      verdict id file url expected actual other.unmarked
    rw [same]
  rw [verdicts, verdict]
  split
  · exact .log_bind (.pure rfl)
  · exact .log_bind (.pure rfl)

omit same

theorem newEvent_resembles (file : Catalog.File) (url expected actual : String) :
    Resembles clock (fun event other => event.unmarked = other.unmarked)
      (newEvent file url expected actual) (newEvent file url expected actual) :=
  .ask (.refl _) fun _ _ _ => .now_bind fun _ _ _ => .pure rfl

theorem conclude_resembles (settings : Settings) (id : Int64) (file : Catalog.File)
    (url expected actual : String) :
    Resembles clock (· = ·) (conclude settings id file url expected actual)
      (conclude settings id file url expected actual) := by
  refine .bind (newEvent_resembles file url expected actual) fun event other same => ?_
  refine .bind_eq (saveFrom_resembles same settings _) fun answer => ?_
  cases answer with
  | error failure => exact .pure rfl
  | ok => exact verdict_resembles same id file url expected actual

theorem measure_resembles (file : Catalog.File) :
    Resembles clock (· = ·) (measure file) (measure file) := by
  refine .bind_eq (locate_resembles file) fun found => ?_
  cases found with
  | error failure => exact .pure rfl
  | ok source =>
    refine .bind_eq (digestOf_resembles source) fun measured => ?_
    cases measured with
    | error failure => exact .pure rfl
    | ok digest => exact .pure rfl

theorem compare_resembles (settings : Settings) (id : Int64) (file : Catalog.File)
    (expected : String) :
    Resembles clock (· = ·) (compare settings id file expected)
      (compare settings id file expected) := by
  refine .bind_eq (measure_resembles file) fun measured => ?_
  cases measured with
  | error failure => exact .pure rfl
  | ok copy => exact conclude_resembles settings id file copy.2 expected copy.1

/-- The two clocks agree on whether a file was checked recently. -/
def Timely (settings : Settings) (clock : Time.Timestamp → Time.Timestamp → Prop)
    (file : Catalog.File) : Prop :=
  ∀ time other, clock time other →
    recentlyChecked settings file time = recentlyChecked settings file other

theorem timely_of_unchecked (settings : Settings) {file : Catalog.File}
    (unchecked : file.lastFixityCheck = none) : Timely settings clock file := by
  have never : ∀ time, recentlyChecked settings file time = false := by
    intro time
    rw [recentlyChecked, unchecked]
    cases cutoff? settings.maxDays time <;> exact Bool.and_false _
  intro time other _
  rw [never, never]

theorem checkFile_resembles {settings : Settings} {file : Catalog.File}
    (timely : Timely settings clock file) (id : Int64) :
    Resembles clock (· = ·) (checkFile settings id file) (checkFile settings id file) := by
  rw [checkFile]
  split
  · exact .log_bind (.pure rfl)
  · refine .now_bind fun time other near => ?_
    have same : recentlyChecked settings file time = recentlyChecked settings file other := by
      obtain rfl | near := near
      · rfl
      · exact timely time other near
    rw [same]
    split
    · exact .log_bind (.pure rfl)
    · cases file.latestDigest Catalog.sha256 with
      | none => exact .pure rfl
      | some expected => exact compare_resembles settings id file expected

/-- Only whether the file that the catalog names was checked recently is left to the clocks. -/
theorem check_resembles {related : σ → τ → Prop} {world : World σ} {other : World τ}
    (worlds : World.Resembles clock related world other) {state : σ} {otherState : τ}
    (together : related state otherState) {settings : Settings} {id : Int64}
    (timely : ∀ file, (world.answer state (.getFile id)).1 = .ok file →
      Timely settings clock file) :
    Run.Resembles clock (· = ·) ((check settings id).run world state)
      ((check settings id).run other otherState) := by
  refine Program.Resembles.run_query_bind rfl worlds together ?_
  cases known : (world.answer state (.getFile id)).1 with
  | error failure => exact .pure rfl
  | ok file => exact checkFile_resembles (timely file known) id

end Check

/-! ### Stores that cut alike bodies in other ways -/

/-- **Chunks are not seen.** A body without faults has the digest of its bytes, and the first fault
of another is told. So where two worlds answer alike but for clocks, fresh identifiers and the
chunks in which bodies without faults arrive, audits end with the same record, times aside, and
checks with the same report, as long as the clocks agree on whether the file was checked recently;
both save the same events, but for their identifiers and times. -/
theorem chunks_unseen :
    (∀ body : Storage.Body, body.Digested) ∧
    ∀ {σ τ : Type} {clock : Time.Timestamp → Time.Timestamp → Prop} {related : σ → τ → Prop}
      {world : World σ} {other : World τ} {state : σ} {otherState : τ} (id : Int64),
      World.Resembles clock related world other → related state otherState →
        (∀ full : Bool, Run.Resembles clock Audit.Record.SameUpToTimes
          ((Audit.audit full id).run world state) ((Audit.audit full id).run other otherState)) ∧
        ∀ settings : Check.Settings,
          (∀ file, (world.answer state (.getFile id)).1 = .ok file →
            Check.Timely settings clock file) →
          Run.Resembles clock (· = ·) ((Check.check settings id).run world state)
            ((Check.check settings id).run other otherState) := by
  refine ⟨Storage.Body.digested, fun id worlds together => ⟨?_, ?_⟩⟩
  · intro full
    exact (Audit.audit_resembles full id).run worlds together
  · intro settings timely
    exact Check.check_resembles worlds together timely

/-- Worlds with the same fixed answers but for the chunks of the bodies resemble each other. -/
theorem Answers.world_resembles (answers : Answers)
    {body : Storage.Source → Except Storage.Failure Storage.Body}
    (recut : ∀ source, answers.body source = body source ∨
      ∃ first second, answers.body source = .ok first ∧ body source = .ok second ∧
        first.Recut second) {time other : Time.Timestamp} (near : clock time other) :
    World.Resembles clock (fun _ _ => True) (answers.world time)
      (({ answers with body } : Answers).world other) := by
  rintro state otherState query _ - like
  refine ⟨?_, True.intro⟩
  cases like with
  | saveEvent same => exact .saveEvent same _
  | refl =>
    cases query with
    | get source =>
      show Exchange.Resembles clock ⟨.get source, answers.body source⟩ ⟨.get source, body source⟩
      obtain same | ⟨first, second, firstBody, secondBody, alike⟩ := recut source
      · rw [same]
        exact .refl _
      · rw [firstBody, secondBody]
        exact .get source alike
    | now => exact .now near
    | getFile | resolve | stat | saveEvent | newUuid | pause | log => exact .refl _

/-- Answers about a file of three bytes that is registered with its digest, but with another size;
its content comes in these parts. -/
def Answers.inParts (parts : List (List UInt8)) : Answers where
  file _ := .ok {
    id := 1
    identifier := "example.edu/bag/data/file"
    uuid := "file"
    size := 1
    storageOption := "Standard"
    checksums := [{
      algorithm := Catalog.sha256
      digest := Sha256.digest [97, 98, 99]
      recordedAt := .epoch }]
    institutionId := 1
    intellectualObjectId := 1
    createdAt := .epoch
    updatedAt := .epoch }
  resolution _ := ⟨none, .ok ⟨⟨"bucket", "store", "https://store/bucket/file"⟩, "file"⟩⟩
  stat _ := .ok { size := 3, etag := "", metadata := .empty }
  body _ := .ok (parts.map .ok)

/-- The content at once and the content byte by byte, with an empty chunk between, leave the same
record and the same report and event, whatever the two clocks tell. -/
theorem chunks_unseen_inParts :
    let whole := (Answers.inParts [[97, 98, 99]]).world .epoch
    let bytewise := (Answers.inParts [[97], [], [98], [99]]).world
      { day := 1, second := 0, nano := 0 }
    World.Resembles (fun _ _ => True) (fun _ _ => True) whole bytewise ∧
    (∀ file, (whole.answer () (.getFile 1)).1 = .ok file →
      Check.Timely {} (fun _ _ => True) file) ∧
    Run.Resembles (fun _ _ => True) Audit.Record.SameUpToTimes
      ((Audit.audit true 1).run whole ()) ((Audit.audit true 1).run bytewise ()) ∧
    Run.Resembles (fun _ _ => True) (· = ·)
      ((Check.check {} 1).run whole ()) ((Check.check {} 1).run bytewise ()) := by
  intro whole bytewise
  have recut : Storage.Body.Recut (([[97, 98, 99]] : List (List UInt8)).map .ok)
      (([[97], [], [98], [99]] : List (List UInt8)).map .ok) := ⟨_, _, rfl, rfl, rfl⟩
  have worlds : World.Resembles (fun _ _ => True) (fun _ _ => True) whole bytewise :=
    (Answers.inParts [[97, 98, 99]]).world_resembles
      (fun _ => .inr ⟨_, _, rfl, rfl, recut⟩) True.intro
  have timely : ∀ file, (whole.answer () (.getFile 1)).1 = .ok file →
      Check.Timely {} (fun _ _ => True) file := by
    rintro file ⟨⟩
    exact Check.timely_of_unchecked _ rfl
  obtain ⟨audits, checks⟩ := chunks_unseen.2 1 worlds True.intro
  exact ⟨worlds, timely, audits true, checks {} timely⟩

end Fixity
