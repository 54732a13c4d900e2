/-
This file lists the courses that an audit can take: which dealings it has, with
which answers, and the record that each ends with. The list is complete, so what
holds of the record at the end of every course holds of every audit in every world.
Before the copy's stat is known an audit can only stop; after it the courses depend
on the concern that the record raises, on what was asked for, and on the body.
-/

import Fixity.Audit.Pass
import Fixity.Proofs.Copies

namespace Fixity.Audit

open Program

/-! ### Courses -/

/-- The record of an audit that knows the file, its copy, and the copy's stat. -/
def surveyed (id : Int64) (started : Time.Timestamp) (file : Catalog.File)
    (source : Storage.Source) (stat : Storage.Stat) : Record :=
  (((Record.initial id started).withFile file).withSource source).withStat file stat

/-- The record of an audit that is to check the content, for a reason. -/
def doubted (record : Record) (reason : Reason) : Record :=
  (record.withReason reason).withFullMethod

/-- The further dealings of an audit whose record knows the copy's stat, and the record at its
end. -/
inductive Sequel (full : Bool) (source : Storage.Source) (record : Record) :
    List Exchange → Record → Prop where
  | quickMatch (time : Time.Timestamp) (calm : record.concern = none) :
      Sequel full source record [] (record.quicklyMatched time)
  | needsAttention (reason : Reason) (time : Time.Timestamp)
      (concern : record.concern = some reason) (quick : full = false) :
      Sequel full source record [] ((record.withReason reason).leftForAttention time)
  | coldTierDeferred (reason : Reason) (concern : record.concern = some reason)
      (wanted : full = true) (cold : record.isColdTierOnly = true) :
      Sequel full source record [] (doubted record reason).deferred
  | unread (reason : Reason) (concern : record.concern = some reason) (wanted : full = true)
      (warm : record.isColdTierOnly = false) (answer : Except Storage.Failure Storage.Body)
      (failure : Storage.Failure)
      (broken : Storage.digestOfAnswer source answer = .error failure) :
      Sequel full source record [⟨.get source, answer⟩]
        ((doubted record reason).failed (.storage failure))
  | read (reason : Reason) (concern : record.concern = some reason) (wanted : full = true)
      (warm : record.isColdTierOnly = false) (answer : Except Storage.Failure Storage.Body)
      (digest : String) (known : Storage.digestOfAnswer source answer = .ok digest)
      (time : Time.Timestamp) :
      Sequel full source record [⟨.get source, answer⟩]
        ((doubted record reason).withDigest digest time)

/-- The dealings of an audit, and the record at its end. -/
inductive Course (full : Bool) (id : Int64) : List Exchange → Record → Prop where
  | unknown (started : Time.Timestamp) (failure : Catalog.Failure) :
      Course full id [⟨.getFile id, .error failure⟩]
        ((Record.initial id started).failed (.catalog failure))
  | unlocated (started : Time.Timestamp) (file : Catalog.File)
      (resolution : Storage.Resolution) (failure : Failure)
      (nowhere : resolution.source = .error failure) :
      Course full id [⟨.getFile id, .ok file⟩, ⟨.resolve file, resolution⟩]
        (((Record.initial id started).withFile file).failed failure)
  | unreached (started : Time.Timestamp) (file : Catalog.File)
      (resolution : Storage.Resolution) (source : Storage.Source) (failure : Storage.Failure)
      (found : resolution.source = .ok source) :
      Course full id
        [⟨.getFile id, .ok file⟩, ⟨.resolve file, resolution⟩, ⟨.stat source, .error failure⟩]
        ((((Record.initial id started).withFile file).withSource source).failed
          (.storage failure))
  | reached (started : Time.Timestamp) (file : Catalog.File)
      (resolution : Storage.Resolution) (source : Storage.Source) (stat : Storage.Stat)
      (found : resolution.source = .ok source) {further : List Exchange} {record : Record}
      (sequel : Sequel full source (surveyed id started file source stat) further record) :
      Course full id
        (⟨.getFile id, .ok file⟩ :: ⟨.resolve file, resolution⟩ :: ⟨.stat source, .ok stat⟩ ::
          further)
        record

/-! ### Every audit takes a course -/

theorem stop_yields {record result : Record} {failure : Failure} {exchanges : List Exchange}
    (yields : (stop record failure).Yields exchanges result) :
    dealings exchanges = [] ∧ result = record.failed failure := by
  obtain ⟨rest, ended, same⟩ := log_yields yields
  rw [same]
  exact pure_yields ended

/-- Reading the content stops at a failure or tells the digest. -/
theorem readContent_yields {file : Catalog.File} {source : Storage.Source}
    {record result : Record} {exchanges : List Exchange}
    (yields : (readContent file source record).Yields exchanges result) :
    ∃ answer, dealings exchanges = [⟨.get source, answer⟩] ∧
      match Storage.digestOfAnswer source answer with
      | .error failure => result = record.failed (.storage failure)
      | .ok digest => ∃ time, result = record.withDigest digest time := by
  obtain ⟨first, measured, rest, reading, told, rfl⟩ := yields_bind_iff.mp yields
  obtain ⟨answer, asked, rfl⟩ := digestOf_yields reading
  refine ⟨answer, ?_⟩
  rw [dealings_append, asked]
  cases known : Storage.digestOfAnswer source answer with
  | error failure =>
    rw [known] at told
    obtain ⟨quiet, rfl⟩ := stop_yields told
    rw [quiet]
    exact ⟨rfl, rfl⟩
  | ok digest =>
    rw [known] at told
    obtain ⟨time, later, compared, same⟩ := now_yields told
    rw [same]
    -- A mismatch is only logged.
    dsimp only at compared
    split at compared
    · obtain ⟨last, ended, same⟩ := log_yields compared
      rw [same, (pure_yields ended).1]
      exact ⟨rfl, time, (pure_yields ended).2⟩
    · rw [(pure_yields compared).1]
      exact ⟨rfl, time, (pure_yields compared).2⟩

/-- Checking the content is deferred where the content lies in a cold tier. -/
theorem checkContent_yields {file : Catalog.File} {source : Storage.Source}
    {record result : Record} {reason : Reason} {exchanges : List Exchange}
    (concern : record.concern = some reason)
    (yields : (checkContent file source (record.withReason reason)).Yields exchanges result) :
    Sequel true source record (dealings exchanges) result := by
  rw [checkContent] at yields
  cases cold : record.isColdTierOnly with
  | true =>
    rw [if_pos (show ((record.withReason reason).withFullMethod).isColdTierOnly = true from cold)]
      at yields
    obtain ⟨rest, ended, same⟩ := log_yields yields
    rw [same, (pure_yields ended).1, (pure_yields ended).2]
    exact .coldTierDeferred reason concern rfl cold
  | false =>
    rw [if_neg (by
      show ¬ record.isColdTierOnly = true
      rw [cold]
      exact Bool.false_ne_true)] at yields
    obtain ⟨answer, asked, told⟩ := readContent_yields yields
    rw [asked]
    cases known : Storage.digestOfAnswer source answer with
    | error failure =>
      rw [known] at told
      rw [told]
      exact .unread reason concern rfl cold answer failure known
    | ok digest =>
      rw [known] at told
      obtain ⟨time, rfl⟩ := told
      exact .read reason concern rfl cold answer digest known time

theorem judge_yields {full : Bool} {file : Catalog.File} {source : Storage.Source}
    {record result : Record} {exchanges : List Exchange}
    (yields : (judge full file source record).Yields exchanges result) :
    Sequel full source record (dealings exchanges) result := by
  rw [judge] at yields
  cases concern : record.concern with
  | none =>
    rw [concern] at yields
    obtain ⟨time, rest, ended, same⟩ := now_yields yields
    rw [same, (pure_yields ended).1, (pure_yields ended).2]
    exact .quickMatch time concern
  | some reason =>
    rw [concern] at yields
    cases full with
    | true => exact checkContent_yields concern yields
    | false =>
      obtain ⟨time, rest, ended, same⟩ := now_yields yields
      rw [same, (pure_yields ended).1, (pure_yields ended).2]
      exact .needsAttention reason time concern rfl

/-- Every way through an audit is one of its courses. -/
theorem course_of_yields {full : Bool} {id : Int64} {record : Record} {exchanges : List Exchange}
    (yields : (audit full id).Yields exchanges record) :
    Course full id (dealings exchanges) record := by
  obtain ⟨started, rest, yields, same⟩ := now_yields yields
  rw [same]
  obtain ⟨answer, rest, yields, same⟩ := dealing_yields rfl yields
  rw [same]
  cases answer with
  | error failure =>
    rw [(stop_yields yields).1, (stop_yields yields).2]
    exact .unknown started failure
  | ok file =>
    obtain ⟨first, found, rest, located, yields, rfl⟩ := yields_bind_iff.mp yields
    obtain ⟨resolution, same, rfl⟩ := locate_yields located
    rw [dealings_append, same]
    cases found : resolution.source with
    | error failure =>
      rw [found] at yields
      rw [(stop_yields yields).1, (stop_yields yields).2]
      exact .unlocated started file resolution failure found
    | ok source =>
      rw [found] at yields
      obtain ⟨answer, rest, yields, same⟩ := dealing_yields rfl yields
      rw [same]
      cases answer with
      | error failure =>
        rw [(stop_yields yields).1, (stop_yields yields).2]
        exact .unreached started file resolution source failure found
      | ok stat => exact .reached started file resolution source stat found (judge_yields yields)

/-- Every audit in every world takes one of the courses. -/
theorem course_of_run (world : World σ) (state : σ) (full : Bool) (id : Int64) :
    Course full id (dealings ((audit full id).run world state).exchanges)
      ((audit full id).run world state).value :=
  course_of_yields (yields_run world state (audit full id))

end Fixity.Audit
