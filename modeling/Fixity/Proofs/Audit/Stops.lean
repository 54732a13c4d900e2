/-
This file says what an audit that stops at a failure leaves in its record. The catalog,
the choice of a copy, the store's stat and the body are asked in turn, and each answer
fills fields of its own; a failure adds its wording and leaves the fields of all later
answers as they were. Where the body is what fails, the record is compared with that of
an audit in the same world with bodies that can be read: both runs go the same way up
to the request for the body, so what was found before it is the same, and nothing that
only a content can tell is said.
-/

import Fixity.Proofs.Audit.Answered
import Mathlib.Tactic.MkIffOfInductiveProp

namespace Fixity

/-! ### Bodies that cannot be read -/

namespace Storage

theorem Body.exists_fault_of_digestFrom {progress : Sha256.Progress} {body : Body} {fault : String}
    (stopped : digestFrom progress body = .error fault) :
    ∃ (parts : List (List UInt8)) (rest : Body), body = parts.map .ok ++ .error fault :: rest := by
  induction body generalizing progress with
  | nil => cases stopped
  | cons chunk rest inductionHypothesis =>
    cases chunk with
    | error other =>
      cases stopped
      exact ⟨[], rest, rfl⟩
    | ok bytes =>
      obtain ⟨parts, later, rfl⟩ := inductionHypothesis stopped
      exact ⟨bytes :: parts, later, rfl⟩

/-- The answer to a request for a body is a failure, or the body has a fault, after chunks that can
be read. -/
inductive Unreadable (source : Source) : Except Failure Body → Failure → Prop where
  | refused (failure : Failure) : Unreadable source (.error failure) failure
  | faulty (parts : List (List UInt8)) (fault : String) (rest : Body) :
      Unreadable source (.ok (parts.map .ok ++ .error fault :: rest))
        (.read source.location.bucket source.key fault)

theorem digestOfAnswer_eq_error_iff {source : Source} {answer : Except Failure Body}
    {failure : Failure} :
    digestOfAnswer source answer = .error failure ↔ Unreadable source answer failure := by
  constructor
  · intro broken
    cases answer with
    | error other =>
      obtain rfl := Except.error.inj broken
      exact .refused other
    | ok body =>
      rw [digestOfAnswer] at broken
      cases digested : body.digest with
      | ok digest =>
        rw [digested] at broken
        cases broken
      | error fault =>
        rw [digested] at broken
        obtain rfl := Except.error.inj broken
        obtain ⟨parts, rest, rfl⟩ := Body.exists_fault_of_digestFrom digested
        exact .faulty parts fault rest
  · rintro (_ | ⟨parts, fault, rest⟩)
    · rfl
    · rw [digestOfAnswer, Body.digest_append_fault]

end Storage

/-! ### Worlds whose bodies can be read -/

/-- The same world, in which every body that is asked for can be read and comes in these parts. -/
def World.reading (world : World σ) (parts : Storage.Source → List (List UInt8)) : World σ where
  answer state
    | .get source => (.ok ((parts source).map .ok), (world.answer state (.get source)).2)
    | query => world.answer state query

/-- A program goes the same way in both worlds up to the first body that it asks for, if it asks for
one. -/
theorem Program.run_reading (world : World σ) (parts : Storage.Source → List (List UInt8))
    (state : σ) (program : Program α) :
    (∀ source answer, ⟨.get source, answer⟩ ∉ (program.run world state).exchanges) ∨
      ∃ before source answer after otherAfter,
        (program.run world state).exchanges = before ++ ⟨.get source, answer⟩ :: after ∧
        (program.run (world.reading parts) state).exchanges =
          before ++ ⟨.get source, .ok ((parts source).map .ok)⟩ :: otherAfter := by
  induction program generalizing state with
  | done value => exact .inl fun _ _ => List.not_mem_nil
  | ask query next inductionHypothesis =>
    by_cases body : ∃ source, query = .get source
    · obtain ⟨source, rfl⟩ := body
      exact .inr ⟨[], source, _, _, _, rfl, rfl⟩
    · have same : (world.reading parts).answer state query = world.answer state query := by
        cases query <;> first | rfl | exact absurd ⟨_, rfl⟩ body
      obtain silent | ⟨before, source, answer, after, otherAfter, goes, otherGoes⟩ :=
        inductionHypothesis (world.answer state query).1 (world.answer state query).2
      · refine .inl fun source answer asked => ?_
        obtain first | later := List.mem_cons.mp asked
        · exact body ⟨source, (congrArg Exchange.query first).symm⟩
        · exact silent source answer later
      · refine .inr ⟨⟨query, (world.answer state query).1⟩ :: before, source, answer, after,
          otherAfter, ?_, ?_⟩
        · simp only [run, goes, List.cons_append]
        · simp only [run, same, otherGoes, List.cons_append]

namespace Audit

/-! ### Audits that ask for a body -/

/-- After the stat an audit asks for a body at most, and for that of the same source. -/
theorem Sequel.of_get {full : Bool} {source other : Storage.Source} {record result : Record}
    {before after : List Exchange} {answer : Except Storage.Failure Storage.Body}
    (sequel : Sequel full source record (before ++ ⟨.get other, answer⟩ :: after) result) :
    before = [] ∧ other = source ∧ after = [] ∧ ∃ reason, record.concern = some reason ∧
      match Storage.digestOfAnswer source answer with
      | .error failure => result = (doubted record reason).failed (.storage failure)
      | .ok digest => ∃ time, result = (doubted record reason).withDigest digest time := by
  generalize split : before ++ ⟨.get other, answer⟩ :: after = further at sequel
  cases sequel with
  | quickMatch | needsAttention | coldTierDeferred => simp at split
  | unread reason concern wanted warm given failure broken =>
    obtain ⟨rfl, rfl, same, rfl⟩ : before = [] ∧ other = source ∧ answer ≍ given ∧ after = [] := by
      cases before <;> simp_all
    obtain rfl := eq_of_heq same
    rw [broken]
    exact ⟨rfl, rfl, rfl, reason, concern, rfl⟩
  | read reason concern wanted warm given digest known time =>
    obtain ⟨rfl, rfl, same, rfl⟩ : before = [] ∧ other = source ∧ answer ≍ given ∧ after = [] := by
      cases before <;> simp_all
    obtain rfl := eq_of_heq same
    rw [known]
    exact ⟨rfl, rfl, rfl, reason, concern, time, rfl⟩

/-- An audit that asks for a body has come to know all else before, and asks for nothing after it.
Its record is that of the doubtful copy, stopped at a failure or told the digest. -/
theorem Course.of_get {full : Bool} {id : Int64} {before after : List Exchange}
    {source : Storage.Source} {answer : Except Storage.Failure Storage.Body} {record : Record}
    (course : Course full id (before ++ ⟨.get source, answer⟩ :: after) record) :
    ∃ started file resolution stat reason,
      before = [⟨.getFile id, .ok file⟩, ⟨.resolve file, resolution⟩, ⟨.stat source, .ok stat⟩] ∧
      after = [] ∧ (surveyed id started file source stat).concern = some reason ∧
      match Storage.digestOfAnswer source answer with
      | .error failure =>
        record = (doubted (surveyed id started file source stat) reason).failed (.storage failure)
      | .ok digest =>
        ∃ time, record =
          (doubted (surveyed id started file source stat) reason).withDigest digest time := by
  generalize split : before ++ ⟨.get source, answer⟩ :: after = exchanges at course
  cases course with
  | unknown | unlocated | unreached =>
    have asked : (⟨.get source, answer⟩ : Exchange) ∈ before ++ ⟨.get source, answer⟩ :: after :=
      List.mem_append_right _ List.mem_cons_self
    rw [split] at asked
    simp at asked
  | reached started file resolution copy stat found sequel =>
    -- The three dealings before the body are no requests for one.
    obtain ⟨further, rfl, rfl⟩ : ∃ further,
        before = ⟨.getFile id, .ok file⟩ :: ⟨.resolve file, resolution⟩ ::
          ⟨.stat copy, .ok stat⟩ :: further ∧
        _ = further ++ ⟨.get source, answer⟩ :: after := by
      obtain _ | ⟨first, _ | ⟨second, _ | ⟨third, further⟩⟩⟩ := before
      · simp at split
      · simp at split
      · simp at split
      · simp only [List.cons_append, List.cons.injEq] at split
        obtain ⟨rfl, rfl, rfl, rest⟩ := split
        exact ⟨further, rfl, rest.symm⟩
    obtain ⟨rfl, rfl, rfl, reason, concern, told⟩ := sequel.of_get
    exact ⟨started, file, resolution, stat, reason, rfl, rfl, concern, told⟩

theorem dealings_append_get (before after : List Exchange) (source : Storage.Source)
    (answer : Except Storage.Failure Storage.Body) :
    dealings (before ++ ⟨.get source, answer⟩ :: after) =
      dealings before ++ ⟨.get source, answer⟩ :: dealings after :=
  dealings_append before (⟨.get source, answer⟩ :: after)

/-- An audit whose body cannot be read has come as far as it comes in the same world when the body
comes whole, and has found the same before. -/
theorem timeless_of_unreadable {world : World σ} {state : σ} {full : Bool} {id : Int64}
    {source : Storage.Source} {answer : Except Storage.Failure Storage.Body}
    {failure : Storage.Failure}
    (asked : ⟨.get source, answer⟩ ∈ ((audit full id).run world state).exchanges)
    (unreadable : Storage.Unreadable source answer failure)
    (parts : Storage.Source → List (List UInt8)) :
    let record := ((audit full id).run world state).value
    let whole := ((audit full id).run (world.reading parts) state).value
    (whole.outcome = .fullFixityPassed ∨ whole.outcome = .fullFixityFailed) ∧
      record.timeless =
        { whole.timeless with
          outcome := .errored
          completedAt := none
          passed := false
          streamSha256 := ""
          error := (Failure.storage failure).message } := by
  intro record whole
  have course := course_of_run world state full id
  have otherCourse := course_of_run (world.reading parts) state full id
  obtain silent | ⟨before, first, given, after, otherAfter, goes, otherGoes⟩ :=
    Program.run_reading world parts state (audit full id)
  · exact absurd asked (silent source answer)
  · have member := mem_dealings.mpr ⟨asked, rfl⟩
    rw [goes, dealings_append_get] at course member
    rw [otherGoes, dealings_append_get] at otherCourse
    obtain ⟨started, file, resolution, stat, reason, known, ends, concern, stopped⟩ := course.of_get
    obtain ⟨otherStarted, _, _, _, otherReason, otherKnown, -, otherConcern, told⟩ :=
      otherCourse.of_get
    -- Up to the body both audits have met with the same answers.
    have met := known.symm.trans otherKnown
    obtain ⟨rfl, -, rfl⟩ : file = _ ∧ _ ∧ stat = _ := by simpa using met
    obtain rfl : reason = otherReason := Option.some.inj (concern.symm.trans otherConcern)
    rw [known, ends] at member
    obtain ⟨rfl, same⟩ : source = first ∧ answer ≍ given := by simpa using member
    obtain rfl := eq_of_heq same
    rw [Storage.digestOfAnswer_eq_error_iff.mpr unreadable] at stopped
    rw [Storage.digestOfAnswer_eq_ok_iff.mpr ⟨parts source, rfl, rfl⟩] at told
    obtain ⟨time, told⟩ := told
    have broken : record = (doubted (surveyed id started file source stat) reason).failed
      (.storage failure) := stopped
    have read : whole = (doubted (surveyed id otherStarted file source stat) reason).withDigest _
      time := told
    rw [broken, read]
    refine ⟨?_, rfl⟩
    rw [Record.outcome_withDigest]
    split
    · exact .inl rfl
    · exact .inr rfl

/-! ### What a failure leaves -/

/-- What an audit has left in its record where it stopped at a failure. A failure of the catalog
adds its wording to a new record; one of the choice comes after what the catalog says of the file,
one of the stat after the address of the copy. Where the body cannot be read, nothing is said that
only a content can tell. -/
@[mk_iff]
structure Halted (id : Int64) (exchanges : List Exchange) (record : Record) : Prop where
  errored_iff : record.outcome = .errored ↔
    (∃ failure, ⟨.getFile id, .error failure⟩ ∈ exchanges) ∨
    (∃ file resolution failure, ⟨.resolve file, resolution⟩ ∈ exchanges ∧
      resolution.source = .error failure) ∨
    (∃ source failure, ⟨.stat source, .error failure⟩ ∈ exchanges) ∨
    ∃ source answer failure, ⟨.get source, answer⟩ ∈ exchanges ∧
      Storage.Unreadable source answer failure
  unknown : ∀ failure, ⟨.getFile id, .error failure⟩ ∈ exchanges →
    record =
      { Record.initial id record.startedAt with
        error := (Failure.catalog failure).message }
  unlocated : ∀ file resolution failure, ⟨.getFile id, .ok file⟩ ∈ exchanges →
    ⟨.resolve file, resolution⟩ ∈ exchanges → resolution.source = .error failure →
    record =
      { Record.initial id record.startedAt with
        identifier := file.identifier
        createdAt := some file.createdAt
        updatedAt := some file.updatedAt
        isColdTierOnly := file.isColdTierOnly
        registered := {
          size := file.size
          md5 := (file.latestDigest Catalog.md5).getD ""
          sha256 := (file.latestDigest Catalog.sha256).getD "" }
        error := failure.message }
  unreached : ∀ file source failure, ⟨.getFile id, .ok file⟩ ∈ exchanges →
    ⟨.stat source, .error failure⟩ ∈ exchanges →
    record =
      { Record.initial id record.startedAt with
        identifier := file.identifier
        createdAt := some file.createdAt
        updatedAt := some file.updatedAt
        isColdTierOnly := file.isColdTierOnly
        registered := {
          size := file.size
          md5 := (file.latestDigest Catalog.md5).getD ""
          sha256 := (file.latestDigest Catalog.sha256).getD "" }
        storageUrl := source.location.url
        error := (Failure.storage failure).message }
  unread : ∀ source answer failure, ⟨.get source, answer⟩ ∈ exchanges →
    Storage.Unreadable source answer failure →
    record.streamSha256 = "" ∧ record.completedAt = none ∧ record.passed = false ∧
      record.needsColdTierCheck = false

/-- What is left at a failure can be read off the dealings. -/
theorem halted_dealings_iff {id : Int64} {exchanges : List Exchange} {record : Record} :
    Halted id (dealings exchanges) record ↔ Halted id exchanges record := by
  simp only [halted_iff, mem_dealings, Query.isDealing, and_true]

theorem Sequel.query_eq {full : Bool} {source : Storage.Source} {record result : Record}
    {exchanges : List Exchange} {query : Query} {answer : query.Answer}
    (sequel : Sequel full source record exchanges result) (asked : ⟨query, answer⟩ ∈ exchanges) :
    query = .get source := by
  cases sequel with
  | quickMatch | needsAttention | coldTierDeferred => cases asked
  | unread | read => exact congrArg Exchange.query (List.mem_singleton.mp asked)

/-- After the stat only a body that cannot be read stops an audit. -/
theorem Sequel.errored_iff {full : Bool} {source : Storage.Source} {record result : Record}
    {exchanges : List Exchange} (sequel : Sequel full source record exchanges result) :
    result.outcome = .errored ↔
      ∃ other answer failure, ⟨.get other, answer⟩ ∈ exchanges ∧
        Storage.Unreadable other answer failure := by
  cases sequel with
  | quickMatch time | needsAttention reason time | coldTierDeferred reason =>
    simp [Record.quicklyMatched, Record.leftForAttention, Record.deferred]
  | unread reason concern wanted warm answer failure broken =>
    exact iff_of_true rfl
      ⟨source, answer, failure, List.mem_cons_self, Storage.digestOfAnswer_eq_error_iff.mp broken⟩
  | read reason concern wanted warm answer digest known time =>
    refine iff_of_false ?_ ?_
    · rw [Record.outcome_withDigest]
      split <;> nofun
    · rintro ⟨other, given, failure, asked, unreadable⟩
      obtain ⟨rfl, same⟩ : other = source ∧ given ≍ answer := by simpa using asked
      obtain rfl := eq_of_heq same
      rw [Storage.digestOfAnswer_eq_error_iff.mpr unreadable] at known
      cases known

theorem Course.halted {full : Bool} {id : Int64} {exchanges : List Exchange} {record : Record}
    (course : Course full id exchanges record) : Halted id exchanges record := by
  -- Whatever way led to the body, the record is that of the doubtful copy.
  have unread : ∀ source answer failure, ⟨.get source, answer⟩ ∈ exchanges →
      Storage.Unreadable source answer failure →
      record.streamSha256 = "" ∧ record.completedAt = none ∧ record.passed = false ∧
        record.needsColdTierCheck = false := by
    intro source answer failure asked unreadable
    obtain ⟨before, after, rfl⟩ := List.append_of_mem asked
    obtain ⟨started, file, resolution, stat, reason, -, -, -, stopped⟩ := course.of_get
    rw [Storage.digestOfAnswer_eq_error_iff.mpr unreadable] at stopped
    obtain rfl : record = (doubted (surveyed id started file source stat) reason).failed
      (.storage failure) := stopped
    exact ⟨rfl, rfl, rfl, rfl⟩
  cases course with
  | unknown started failure =>
    refine ⟨iff_of_true rfl (.inl ⟨failure, List.mem_cons_self⟩), ?_, ?_, ?_, unread⟩
    · intro other asked
      obtain rfl : other = failure := by simpa using asked
      rfl
    · simp
    · simp
  | unlocated started file resolution failure nowhere =>
    refine ⟨iff_of_true rfl (.inr (.inl ⟨file, resolution, failure, by simp, nowhere⟩)), ?_, ?_, ?_,
      unread⟩
    · simp
    · intro other given reason known asked stops
      obtain ⟨rfl, same⟩ : other = file ∧ given ≍ resolution := by simpa using asked
      obtain rfl := eq_of_heq same
      obtain rfl : reason = failure := Except.error.inj (stops.symm.trans nowhere)
      rfl
    · simp
  | unreached started file resolution source failure found =>
    refine ⟨iff_of_true rfl (.inr (.inr (.inl ⟨source, failure, by simp⟩))), ?_, ?_, ?_, unread⟩
    · simp
    · intro other given reason known asked stops
      obtain ⟨rfl, same⟩ : other = file ∧ given ≍ resolution := by simpa using asked
      obtain rfl := eq_of_heq same
      cases found.symm.trans stops
    · intro other given reason known asked
      obtain rfl : other = file := by simpa using known
      obtain ⟨rfl, rfl⟩ : given = source ∧ reason = failure := by simpa using asked
      rfl
  | @reached started file resolution source stat found further record sequel =>
    have aside {query : Query} {answer : query.Answer} (asked : ⟨query, answer⟩ ∈ further) :
        query = .get source := sequel.query_eq asked
    refine ⟨?_, ?_, ?_, ?_, unread⟩
    · rw [sequel.errored_iff]
      constructor
      · rintro ⟨other, answer, failure, asked, unreadable⟩
        exact .inr (.inr (.inr ⟨other, answer, failure, by simp [asked], unreadable⟩))
      · rintro (⟨failure, asked⟩ | ⟨other, given, failure, asked, stops⟩ | ⟨other, failure, asked⟩ |
          ⟨other, answer, failure, asked, unreadable⟩)
        · cases aside (by simpa using asked)
        · obtain ⟨rfl, same⟩ | asked : (other = file ∧ given ≍ resolution) ∨ _ := by
            simpa using asked
          · obtain rfl := eq_of_heq same
            cases found.symm.trans stops
          · cases aside asked
        · cases aside (by simpa using asked)
        · exact ⟨other, answer, failure, by simpa using asked, unreadable⟩
    · intro failure asked
      cases aside (by simpa using asked)
    · intro other given failure known asked stops
      obtain ⟨rfl, same⟩ | asked : (other = file ∧ given ≍ resolution) ∨ _ := by simpa using asked
      · obtain rfl := eq_of_heq same
        cases found.symm.trans stops
      · cases aside asked
    · intro other given failure known asked
      cases aside (by simpa using asked)

/-- What an audit has left in its record, compared with the record that it has in the same world
when the body comes whole, in any parts. -/
structure Untouched (id : Int64) (exchanges : List Exchange) (record : Record)
    (whole : (Storage.Source → List (List UInt8)) → Record) : Prop
    extends Halted id exchanges record where
  resembles : ∀ source answer failure, ⟨.get source, answer⟩ ∈ exchanges →
    Storage.Unreadable source answer failure → ∀ parts,
    ((whole parts).outcome = .fullFixityPassed ∨ (whole parts).outcome = .fullFixityFailed) ∧
      record.timeless =
        { (whole parts).timeless with
          outcome := .errored
          completedAt := none
          passed := false
          streamSha256 := ""
          error := (Failure.storage failure).message }

/-- **What a failure leaves.** In every world an audit that stops at a failure leaves the fields of
all later answers untouched. -/
theorem untouched_audit (world : World σ) (state : σ) (full : Bool) (id : Int64) :
    Untouched id ((audit full id).run world state).exchanges
      ((audit full id).run world state).value
      fun parts => ((audit full id).run (world.reading parts) state).value where
  toHalted := halted_dealings_iff.mp (course_of_run world state full id).halted
  resembles _ _ _ asked unreadable parts := timeless_of_unreadable asked unreadable parts

/-- Answers about a file of one byte whose copy is empty by its stat and breaks off after a byte. -/
def brokenOff : Answers where
  file _ := .ok {
    id := 1
    identifier := "example.edu/bag/data/file"
    uuid := "file"
    size := 1
    storageOption := "Standard"
    checksums := [{ algorithm := Catalog.sha256, digest := Sha256.digest [], recordedAt := .epoch }]
    institutionId := 1
    intellectualObjectId := 1
    createdAt := .epoch
    updatedAt := .epoch }
  resolution _ := ⟨none, .ok ⟨⟨"bucket", "store", "https://store/bucket/file"⟩, "file"⟩⟩
  stat _ := .ok { size := 0, etag := "", metadata := .empty }
  body _ := .ok [.ok [0x61], .error "connection reset"]

/-- The copy that breaks off has been doubted and asked for, and nothing is said of its content. -/
theorem untouched_audit_brokenOff :
    let run := (audit true 1).run (brokenOff.world .epoch) ()
    let source : Storage.Source := ⟨⟨"bucket", "store", "https://store/bucket/file"⟩, "file"⟩
    ⟨.get source, .ok [.ok [0x61], .error "connection reset"]⟩ ∈ run.exchanges ∧
      run.value.outcome = .errored ∧ run.value.method = some .fullFixity ∧
      run.value.reason = Reason.metadataMismatch.text ∧ run.value.streamSha256 = "" ∧
      run.value.completedAt = none ∧ run.value.passed = false := by
  intro run source
  have untouched := untouched_audit (brokenOff.world .epoch) () true 1
  have asked : ⟨.get source, .ok [.ok [0x61], .error "connection reset"]⟩ ∈ run.exchanges :=
    List.mem_of_getElem? (i := 4) rfl
  have unreadable := @Storage.Unreadable.faulty source [[0x61]] "connection reset" []
  obtain ⟨silent, unfinished, unpassed, -⟩ := untouched.unread source _ _ asked unreadable
  have stopped : run.value.outcome = .errored :=
    untouched.errored_iff.mpr (.inr (.inr (.inr ⟨source, _, _, asked, unreadable⟩)))
  exact ⟨asked, stopped, rfl, rfl, silent, unfinished, unpassed⟩

end Audit

end Fixity
