/-
This file proves that the record of an audit is coherent: verdict, error, digest,
completion time and deferral are what the outcome calls for, the method fits the
outcome and what was asked for, and the reason for a check is the first thing that
the record itself shows to be wrong. A record is unfinished until its audit ends,
no matter how much of the file, the copy and the stat it has taken over; each way
to end it then makes it coherent.
-/

import Fixity.Proofs.Audit.Concern

namespace Fixity

/-! ### Wordings -/

theorem Catalog.Failure.message_ne_empty (failure : Catalog.Failure) : failure.message ≠ "" := by
  unfold message
  split <;> simp [String.append_eq_empty_iff, toString]

theorem Storage.Failure.message_ne_empty (failure : Storage.Failure) : failure.message ≠ "" := by
  unfold message
  split <;> simp [String.append_eq_empty_iff, toString]

/-- Every failure has a wording. -/
theorem Failure.message_ne_empty (failure : Failure) : failure.message ≠ "" := by
  cases failure with
  | catalog failure => exact failure.message_ne_empty
  | storage failure => exact failure.message_ne_empty
  | _ =>
    unfold message
    simp [String.append_eq_empty_iff, toString]

namespace Audit

theorem Reason.text_ne_empty (reason : Reason) : reason.text ≠ "" := by
  cases reason <;> simp [text]

/-! ### Coherent records -/

/-- Verdict, error, digest, completion time and deferral are what the outcome calls for. -/
structure Settled (record : Record) : Prop where
  passed : record.passed = true ↔
    record.outcome = .quickMatch ∨ record.outcome = .fullFixityPassed
  error : record.error ≠ "" ↔ record.outcome = .errored
  streamSha256 : record.streamSha256 ≠ "" ↔
    record.outcome = .fullFixityPassed ∨ record.outcome = .fullFixityFailed
  completedAt : record.completedAt.isSome = true ↔
    record.outcome = .quickMatch ∨ record.outcome = .needsAttention ∨
      record.outcome = .fullFixityPassed ∨ record.outcome = .fullFixityFailed
  needsColdTierCheck : record.needsColdTierCheck = true ↔ record.outcome = .coldTierDeferred
  isColdTierOnly : record.outcome = .coldTierDeferred → record.isColdTierOnly = true

/-- The method and what was asked for fit the outcome. -/
structure Methodical (full : Bool) (record : Record) : Prop where
  quickMethod : record.method = some .quickMatch ↔ record.outcome = .quickMatch
  noMethod : record.outcome = .needsAttention → record.method = none
  fullMethod : record.outcome = .coldTierDeferred ∨ record.outcome = .fullFixityPassed ∨
    record.outcome = .fullFixityFailed → record.method = some .fullFixity
  unwanted : record.outcome = .needsAttention → full = false
  wanted : record.method = some .fullFixity → full = true

/-- A reason is told unless the audit matched or stopped before there was one, and it is the first
thing that the record shows to be wrong. -/
structure Reasoned (record : Record) : Prop where
  reasonless : record.reason = "" ↔
    record.outcome = .quickMatch ∨ (record.outcome = .errored ∧ record.method = none)
  metadataReason : record.reason ≠ "" →
    (record.reason = "metadata mismatch" ↔ record.hasMetadataMismatch = true)
  sizeReason : record.reason ≠ "" → record.hasMetadataMismatch = false →
    (record.reason = "size mismatch" ↔ record.registered.size ≠ record.stored.size)
  etagReason : record.reason ≠ "" → record.hasMetadataMismatch = false →
    record.registered.size = record.stored.size →
    record.reason = "etag mismatch" ∧ record.canCompareEtag = true ∧
      record.stored.etag ≠ record.registered.md5

/-- The fields of a record do not contradict each other. -/
structure Coherent (full : Bool) (record : Record) : Prop
    extends Settled record, Methodical full record, Reasoned record

/-! ### Unfinished records -/

/-- The record of an audit that has not ended. -/
structure Unfinished (record : Record) : Prop where
  passed : record.passed = false
  completedAt : record.completedAt = none
  needsColdTierCheck : record.needsColdTierCheck = false
  streamSha256 : record.streamSha256 = ""
  error : record.error = ""

/-- The record of an audit that has found no reason to check anything yet. -/
structure Unconcerned (record : Record) : Prop extends Unfinished record where
  method : record.method = none
  reason : record.reason = ""

theorem unconcerned_initial (id : Int64) (started : Time.Timestamp) :
    Unconcerned (Record.initial id started) :=
  ⟨⟨rfl, rfl, rfl, rfl, rfl⟩, rfl, rfl⟩

namespace Unconcerned

variable {record : Record}

theorem withFile (unconcerned : Unconcerned record) (file : Catalog.File) :
    Unconcerned (record.withFile file) :=
  { unconcerned with }

theorem withSource (unconcerned : Unconcerned record) (source : Storage.Source) :
    Unconcerned (record.withSource source) :=
  { unconcerned with }

theorem withStat (unconcerned : Unconcerned record) (file : Catalog.File) (stat : Storage.Stat) :
    Unconcerned (record.withStat file stat) :=
  { unconcerned with }

end Unconcerned

theorem unconcerned_surveyed (id : Int64) (started : Time.Timestamp) (file : Catalog.File)
    (source : Storage.Source) (stat : Storage.Stat) :
    Unconcerned (surveyed id started file source stat) :=
  (((unconcerned_initial id started).withFile file).withSource source).withStat file stat

/-- The record of an audit that has found a reason for a check. -/
structure Concerned (record : Record) (reason : Reason) : Prop extends Unfinished record where
  concern : record.concern = some reason
  reason : record.reason = reason.text

theorem Unconcerned.withReason {record : Record} {reason : Reason}
    (unconcerned : Unconcerned record) (concern : record.concern = some reason) :
    Concerned (record.withReason reason) reason :=
  { unconcerned with concern, reason := rfl }

theorem Concerned.withFullMethod {record : Record} {reason : Reason}
    (concerned : Concerned record reason) : Concerned record.withFullMethod reason :=
  { concerned with }

/-! ### Reasons -/

/-- Without a reason there is nothing to say about it. -/
theorem reasoned_of_reasonless {record : Record} (reason : record.reason = "")
    (ending : record.outcome = .quickMatch ∨
      (record.outcome = .errored ∧ record.method = none)) :
    Reasoned record where
  reasonless := iff_of_true reason ending
  metadataReason told := absurd reason told
  sizeReason told := absurd reason told
  etagReason told := absurd reason told

/-- The wording of a concern is the reason that the record's fields call for. -/
theorem reasoned_of_concern {record : Record} {reason : Reason}
    (concern : record.concern = some reason) (told : record.reason = reason.text)
    (ending : ¬ (record.outcome = .quickMatch ∨
      (record.outcome = .errored ∧ record.method = none))) :
    Reasoned record := by
  have spec := record.concern_spec
  rw [concern] at spec
  have present : record.reason ≠ "" := by
    rw [told]
    exact reason.text_ne_empty
  cases reason with
  | metadataMismatch =>
    have clash (clean : record.hasMetadataMismatch = false) : False := by
      rw [clean] at spec
      exact Bool.false_ne_true spec
    exact {
      reasonless := iff_of_false present ending
      metadataReason := fun _ => iff_of_true told spec
      sizeReason := fun _ clean => (clash clean).elim
      etagReason := fun _ clean => (clash clean).elim }
  | sizeMismatch =>
    obtain ⟨clean, differ⟩ := spec
    exact {
      reasonless := iff_of_false present ending
      metadataReason := fun _ => by
        rw [told, clean]
        decide
      sizeReason := fun _ _ => iff_of_true told differ
      etagReason := fun _ _ same => absurd same differ }
  | etagMismatch =>
    obtain ⟨clean, same, comparable, differ⟩ := spec
    exact {
      reasonless := iff_of_false present ending
      metadataReason := fun _ => by
        rw [told, clean]
        decide
      sizeReason := fun _ _ => by
        rw [told]
        exact iff_of_false (by decide) (not_not_intro same)
      etagReason := fun _ _ _ => ⟨told, comparable, differ⟩ }

/-! ### Endings -/

/-- An audit that stops at a failure leaves everything but the failure as it was. -/
theorem Unfinished.settled_failed {record : Record} (unfinished : Unfinished record)
    (failure : Failure) : Settled (record.failed failure) := by
  refine ⟨?_, ?_, ?_, ?_, ?_, ?_⟩
  · simp [Record.failed, unfinished.passed]
  · exact iff_of_true failure.message_ne_empty rfl
  · simp [Record.failed, unfinished.streamSha256]
  · simp [Record.failed, unfinished.completedAt]
  · simp [Record.failed, unfinished.needsColdTierCheck]
  · simp [Record.failed]

theorem Unconcerned.coherent_failed {record : Record} (unconcerned : Unconcerned record)
    (full : Bool) (failure : Failure) : Coherent full (record.failed failure) where
  toSettled := unconcerned.settled_failed failure
  toMethodical := by
    constructor <;> simp [Record.failed, unconcerned.method]
  toReasoned := reasoned_of_reasonless unconcerned.reason (.inr ⟨rfl, unconcerned.method⟩)

theorem Unconcerned.coherent_quicklyMatched {record : Record} (unconcerned : Unconcerned record)
    (full : Bool) (time : Time.Timestamp) : Coherent full (record.quicklyMatched time) where
  toSettled := by
    constructor <;> simp [Record.quicklyMatched, unconcerned.error, unconcerned.streamSha256,
      unconcerned.needsColdTierCheck]
  toMethodical := by
    constructor <;> simp [Record.quicklyMatched]
  toReasoned := reasoned_of_reasonless unconcerned.reason (.inl rfl)

variable {record : Record} {reason : Reason}

theorem Concerned.coherent_leftForAttention (concerned : Concerned record reason)
    (method : record.method = none) (time : Time.Timestamp) :
    Coherent false (record.leftForAttention time) where
  toSettled := by
    constructor <;> simp [Record.leftForAttention, concerned.error, concerned.streamSha256,
      concerned.needsColdTierCheck]
  toMethodical := by
    constructor <;> simp [Record.leftForAttention, method]
  toReasoned := reasoned_of_concern concerned.concern concerned.reason (by
    simp [Record.leftForAttention])

theorem Concerned.coherent_failed (concerned : Concerned record reason)
    (method : record.method = some .fullFixity) (failure : Failure) :
    Coherent true (record.failed failure) where
  toSettled := concerned.settled_failed failure
  toMethodical := by
    constructor <;> simp [Record.failed, method]
  toReasoned := reasoned_of_concern concerned.concern concerned.reason (by
    simp [Record.failed, method])

theorem Concerned.coherent_deferred (concerned : Concerned record reason)
    (method : record.method = some .fullFixity) (cold : record.isColdTierOnly = true) :
    Coherent true record.deferred where
  toSettled := by
    constructor <;> simp [Record.deferred, concerned.passed, concerned.error,
      concerned.streamSha256, concerned.completedAt, cold]
  toMethodical := by
    constructor <;> simp [Record.deferred, method]
  toReasoned := reasoned_of_concern concerned.concern concerned.reason (by
    simp [Record.deferred])

/-- A digest passes the audit or fails it, and nothing else depends on which. -/
theorem Concerned.coherent_withDigest (concerned : Concerned record reason)
    (method : record.method = some .fullFixity) {digest : String} (told : digest ≠ "")
    (time : Time.Timestamp) : Coherent true (record.withDigest digest time) := by
  have kept : (record.withDigest digest time).method = some .fullFixity := method
  have quiet : (record.withDigest digest time).error = "" := concerned.error
  have present : (record.withDigest digest time).streamSha256 ≠ "" := told
  have done : (record.withDigest digest time).completedAt = some time := rfl
  have warm : (record.withDigest digest time).needsColdTierCheck = false :=
    concerned.needsColdTierCheck
  have verdict := record.passed_withDigest_iff digest time
  have ending := record.outcome_withDigest digest time
  by_cases same : record.registered.sha256 = digest
  · rw [if_pos same] at ending
    rw [iff_true_right same] at verdict
    exact {
      toSettled := by
        constructor <;> simp [verdict, ending, quiet, present, done, warm]
      toMethodical := by
        constructor <;> simp [ending, kept]
      toReasoned := reasoned_of_concern concerned.concern concerned.reason (by simp [ending]) }
  · rw [if_neg same] at ending
    rw [iff_false_right same, Bool.not_eq_true] at verdict
    exact {
      toSettled := by
        constructor <;> simp [verdict, ending, quiet, present, done, warm]
      toMethodical := by
        constructor <;> simp [ending, kept]
      toReasoned := reasoned_of_concern concerned.concern concerned.reason (by simp [ending]) }

/-! ### Audits -/

theorem Sequel.coherent {full : Bool} {source : Storage.Source} {record result : Record}
    {exchanges : List Exchange} (sequel : Sequel full source record exchanges result)
    (unconcerned : Unconcerned record) : Coherent full result := by
  cases sequel with
  | quickMatch time calm => exact unconcerned.coherent_quicklyMatched full time
  | needsAttention reason time concern quick =>
    rw [quick]
    exact (unconcerned.withReason concern).coherent_leftForAttention unconcerned.method time
  | coldTierDeferred reason concern wanted cold =>
    rw [wanted]
    exact (unconcerned.withReason concern).withFullMethod.coherent_deferred rfl cold
  | unread reason concern wanted warm answer failure broken =>
    rw [wanted]
    exact (unconcerned.withReason concern).withFullMethod.coherent_failed rfl (.storage failure)
  | read reason concern wanted warm answer digest known time =>
    obtain ⟨parts, answered, told⟩ := Storage.digestOfAnswer_eq_ok_iff.mp known
    rw [wanted, told]
    exact (unconcerned.withReason concern).withFullMethod.coherent_withDigest rfl
      (Sha256.digest_ne_empty parts.flatten) time

theorem Course.coherent {full : Bool} {id : Int64} {record : Record} {exchanges : List Exchange}
    (course : Course full id exchanges record) : Coherent full record := by
  cases course with
  | unknown started failure =>
    exact (unconcerned_initial id started).coherent_failed full (.catalog failure)
  | unlocated started file resolution failure nowhere =>
    exact ((unconcerned_initial id started).withFile file).coherent_failed full failure
  | unreached started file resolution source failure found =>
    exact (((unconcerned_initial id started).withFile file).withSource source).coherent_failed full
      (.storage failure)
  | reached started file resolution source stat found sequel =>
    exact sequel.coherent (unconcerned_surveyed id started file source stat)

/-- The record of every audit in every world is coherent. -/
theorem coherent_audit (world : World σ) (state : σ) (full : Bool) (id : Int64) :
    Coherent full ((audit full id).run world state).value :=
  (course_of_run world state full id).coherent

end Audit

end Fixity
