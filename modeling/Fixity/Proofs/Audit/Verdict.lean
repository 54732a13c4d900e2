/-
This file proves when an audit passes a file. It passes exactly when the file, its
copy and the copy's stat are known, and either everything agrees at a quick look or,
where a full check was wanted and the content can be streamed, the whole body
arrives and has the newest SHA-256 digest that is registered. The answers are taken
as they come, failures included, and every audit in every world meets with some. A
file without a registered digest cannot pass by its content, since no content has
an empty digest.
-/

import Fixity.Proofs.Audit.Concern
import Fixity.Proofs.Checksums
import Fixity.Proofs.Text.Cutting

namespace Fixity

namespace Catalog.File

theorem isColdTierOnly_eq_true_iff (file : File) :
    file.isColdTierOnly = true ↔ "Glacier".toList <+: file.storageOption.toList :=
  Text.isSome_dropBeginning?_iff

end Catalog.File

namespace Answers

/-- The file is known, the copy that is chosen is this one, and its stat is known. -/
structure Reach (answers : Answers) (id : Int64) (file : Catalog.File) (source : Storage.Source)
    (stat : Storage.Stat) : Prop where
  known : answers.file id = .ok file
  chosen : (answers.resolution file).source = .ok source
  reported : answers.stat source = .ok stat

/-- The body of a copy arrives whole, and the newest SHA-256 digest that is registered for the file
is the digest of its bytes. -/
def ContentMatch (answers : Answers) (file : Catalog.File) (source : Storage.Source) : Prop :=
  ∃ (parts : List (List UInt8)) (checksum : Catalog.Checksum),
    answers.body source = .ok (parts.map .ok) ∧
    file.latestChecksum Catalog.sha256 = some checksum ∧
    checksum.digest = Sha256.digest parts.flatten

end Answers

namespace Audit

/-- The digest that a record keeps is that of a content only if one is registered. -/
theorem registered_eq_digest_iff {file : Catalog.File} {bytes : List UInt8} :
    (file.latestDigest Catalog.sha256).getD "" = Sha256.digest bytes ↔
      ∃ checksum, file.latestChecksum Catalog.sha256 = some checksum ∧
        checksum.digest = Sha256.digest bytes := by
  rw [← Catalog.File.latestDigest_eq_some_iff]
  cases file.latestDigest Catalog.sha256 with
  | none =>
    constructor
    · exact fun empty => absurd empty.symm (Sha256.digest_ne_empty bytes)
    · rintro ⟨⟩
  | some digest => rw [Option.getD_some, Option.some.injEq]

/-- After the stat, an audit passes exactly at a quick match or, past it, at a match of the
content. -/
theorem passed_iff_of_sequel {answers : Answers} {full : Bool} {id : Int64}
    {started : Time.Timestamp} {file : Catalog.File} {source : Storage.Source}
    {stat : Storage.Stat} {exchanges : List Exchange} {record : Record}
    (sequel : Sequel full source (surveyed id started file source stat) exchanges record)
    (explain : answers.Explain exchanges) :
    record.passed = true ↔
      QuickMatch file stat ∨
        (¬ QuickMatch file stat ∧ full = true ∧
          ¬ "Glacier".toList <+: file.storageOption.toList ∧ answers.ContentMatch file source) := by
  rw [← concern_surveyed_eq_none_iff id started file source stat,
    ← Catalog.File.isColdTierOnly_eq_true_iff]
  cases sequel with
  | quickMatch time calm => exact ⟨fun _ => .inl calm, fun _ => rfl⟩
  | needsAttention reason time concern quick =>
    rw [concern, quick]
    constructor
    · rintro ⟨⟩
    · rintro (⟨⟨⟩⟩ | ⟨_, ⟨⟩, _⟩)
  | coldTierDeferred reason concern wanted cold =>
    rw [concern]
    constructor
    · rintro ⟨⟩
    · rintro (⟨⟨⟩⟩ | ⟨_, _, warm, _⟩)
      exact absurd cold warm
  | unread reason concern wanted warm answer failure broken =>
    obtain ⟨rfl, -⟩ := (answers.explain_cons _ _).mp explain
    rw [concern]
    constructor
    · rintro ⟨⟩
    · rintro (⟨⟨⟩⟩ | ⟨_, _, _, parts, checksum, whole, _⟩)
      rw [Storage.digestOfAnswer_eq_ok_iff.mpr ⟨parts, whole, rfl⟩] at broken
      cases broken
  | read reason concern wanted warm answer digest known time =>
    obtain ⟨rfl, -⟩ := (answers.explain_cons _ _).mp explain
    obtain ⟨parts, whole, rfl⟩ := Storage.digestOfAnswer_eq_ok_iff.mp known
    have passed : ((doubted (surveyed id started file source stat) reason).withDigest
        (Sha256.digest parts.flatten) time).passed = true ↔
        (file.latestDigest Catalog.sha256).getD "" = Sha256.digest parts.flatten :=
      Record.passed_withDigest_iff _ _ time
    rw [passed, registered_eq_digest_iff, concern]
    constructor
    · rintro ⟨checksum, latest, same⟩
      refine .inr ⟨Option.some_ne_none reason, wanted, ?_, parts, checksum, whole, latest, same⟩
      exact fun cold => Bool.false_ne_true (warm.symm.trans cold)
    · rintro (⟨⟨⟩⟩ | ⟨_, _, _, others, checksum, again, latest, same⟩)
      have agree : Sha256.digest others.flatten = Sha256.digest parts.flatten :=
        Except.ok.inj
          ((Storage.digestOfAnswer_eq_ok_iff.mpr ⟨others, again, rfl⟩).symm.trans known)
      exact ⟨checksum, latest, same.trans agree⟩

/-- An audit that the answers let reach the copy's stat asks for the file, the choice and the stat,
and goes on from there. -/
theorem exists_sequel_of_reach {answers : Answers} {full : Bool} {id : Int64}
    {exchanges : List Exchange} {record : Record} {file : Catalog.File} {source : Storage.Source}
    {stat : Storage.Stat} (course : Course full id exchanges record)
    (explain : answers.Explain exchanges) (reach : answers.Reach id file source stat) :
    ∃ started further,
      exchanges = ⟨.getFile id, .ok file⟩ :: ⟨.resolve file, answers.resolution file⟩ ::
        ⟨.stat source, .ok stat⟩ :: further ∧
      Sequel full source (surveyed id started file source stat) further record ∧
      answers.Explain further := by
  cases course with
  | unknown started failure =>
    obtain ⟨unknown, -⟩ := (answers.explain_cons _ _).mp explain
    cases unknown.trans reach.known
  | unlocated started other resolution failure nowhere =>
    simp only [Answers.explain_cons] at explain
    obtain ⟨known, rfl, -⟩ := explain
    obtain rfl := Except.ok.inj (known.trans reach.known)
    cases nowhere.symm.trans reach.chosen
  | unreached started other resolution copy failure found =>
    simp only [Answers.explain_cons] at explain
    obtain ⟨known, rfl, silent, -⟩ := explain
    obtain rfl := Except.ok.inj (known.trans reach.known)
    obtain rfl := Except.ok.inj (found.symm.trans reach.chosen)
    cases silent.trans reach.reported
  | reached started other resolution copy report found sequel =>
    simp only [Answers.explain_cons] at explain
    obtain ⟨known, rfl, reported, body⟩ := explain
    obtain rfl := Except.ok.inj (known.trans reach.known)
    obtain rfl := Except.ok.inj (found.symm.trans reach.chosen)
    obtain rfl := Except.ok.inj (reported.trans reach.reported)
    exact ⟨started, _, rfl, sequel, body⟩

theorem passed_iff_of_course {answers : Answers} {full : Bool} {id : Int64}
    {exchanges : List Exchange} {record : Record} (course : Course full id exchanges record)
    (explain : answers.Explain exchanges) :
    record.passed = true ↔
      ∃ file source stat, answers.Reach id file source stat ∧
        (QuickMatch file stat ∨
          (¬ QuickMatch file stat ∧ full = true ∧
            ¬ "Glacier".toList <+: file.storageOption.toList ∧
            answers.ContentMatch file source)) := by
  constructor
  · intro passed
    cases course with
    | unknown | unlocated | unreached => cases passed
    | reached started file resolution source stat found sequel =>
      simp only [Answers.explain_cons] at explain
      obtain ⟨known, rfl, reported, body⟩ := explain
      exact ⟨file, source, stat, ⟨known.symm, found, reported.symm⟩,
        (passed_iff_of_sequel sequel body).mp passed⟩
  · rintro ⟨file, source, stat, reach, verdict⟩
    obtain ⟨started, further, -, sequel, body⟩ := exists_sequel_of_reach course explain reach
    exact (passed_iff_of_sequel sequel body).mpr verdict

/-- Past a quick match, a full audit of a content that arrives whole ends with the verdict on it. -/
theorem outcome_of_course {answers : Answers} {id : Int64} {exchanges : List Exchange}
    {record : Record} {file : Catalog.File} {source : Storage.Source} {stat : Storage.Stat}
    {parts : List (List UInt8)} (course : Course true id exchanges record)
    (explain : answers.Explain exchanges) (reach : answers.Reach id file source stat)
    (doubt : ¬ QuickMatch file stat) (warm : file.isColdTierOnly = false)
    (whole : answers.body source = .ok (parts.map .ok)) :
    record.outcome =
      if (file.latestDigest Catalog.sha256).getD "" = Sha256.digest parts.flatten
      then .fullFixityPassed else .fullFixityFailed := by
  have known : Storage.digestOfAnswer source (answers.body source) =
      .ok (Sha256.digest parts.flatten) :=
    Storage.digestOfAnswer_eq_ok_iff.mpr ⟨parts, whole, rfl⟩
  obtain ⟨started, further, -, sequel, body⟩ := exists_sequel_of_reach course explain reach
  cases sequel with
  | quickMatch time calm => exact absurd ((concern_surveyed_eq_none_iff ..).mp calm) doubt
  | needsAttention reason time concern quick => cases quick
  | coldTierDeferred reason concern wanted cold => cases cold.symm.trans warm
  | unread reason concern wanted streamed answer failure broken =>
    obtain ⟨rfl, -⟩ := (answers.explain_cons _ _).mp body
    cases broken.symm.trans known
  | read reason concern wanted streamed answer digest told time =>
    obtain ⟨rfl, -⟩ := (answers.explain_cons _ _).mp body
    obtain rfl := Except.ok.inj (told.symm.trans known)
    exact Record.outcome_withDigest _ _ time

/-! ### Every audit meets with answers -/

/-- After the stat an audit asks for the body of the copy at most. -/
theorem exists_body_of_sequel {full : Bool} {source : Storage.Source} {record result : Record}
    {exchanges : List Exchange} (sequel : Sequel full source record exchanges result) :
    ∃ body : Except Storage.Failure Storage.Body,
      ∀ answers : Answers, answers.body source = body → answers.Explain exchanges := by
  cases sequel with
  | quickMatch | needsAttention | coldTierDeferred =>
    exact ⟨.error (.unknownBucket ""), fun answers _ => answers.explain_nil⟩
  | unread _ _ _ _ answer | read _ _ _ _ answer =>
    refine ⟨answer, fun answers given => ?_⟩
    exact (answers.explain_cons _ _).mpr ⟨given.symm, answers.explain_nil⟩

/-- The dealings of an audit ask each query once, so some answers explain them. -/
theorem exists_explain_of_course {full : Bool} {id : Int64} {exchanges : List Exchange}
    {record : Record} (course : Course full id exchanges record) :
    ∃ answers : Answers, answers.Explain exchanges := by
  -- What is not asked may have any answer.
  let silence : Storage.Failure := .unknownBucket ""
  let nowhere : Storage.Resolution := ⟨none, .error (.storage silence)⟩
  cases course with
  | unknown started failure =>
    refine ⟨⟨fun _ => .error failure, fun _ => nowhere, fun _ => .error silence,
      fun _ => .error silence⟩, ?_⟩
    simp only [Answers.explain_cons, Answers.explain_nil, Answers.Give, and_self]
  | unlocated started file resolution failure nowhere =>
    refine ⟨⟨fun _ => .ok file, fun _ => resolution, fun _ => .error silence,
      fun _ => .error silence⟩, ?_⟩
    simp only [Answers.explain_cons, Answers.explain_nil, Answers.Give, and_self]
  | unreached started file resolution source failure found =>
    refine ⟨⟨fun _ => .ok file, fun _ => resolution, fun _ => .error failure,
      fun _ => .error silence⟩, ?_⟩
    simp only [Answers.explain_cons, Answers.explain_nil, Answers.Give, and_self]
  | reached started file resolution source stat found sequel =>
    obtain ⟨body, explain⟩ := exists_body_of_sequel sequel
    refine ⟨⟨fun _ => .ok file, fun _ => resolution, fun _ => .ok stat, fun _ => body⟩, ?_⟩
    simp only [Answers.explain_cons, Answers.Give, true_and]
    exact explain _ rfl

/-! ### The verdict -/

/-- An audit that passes a file by its content knows a registered SHA-256 digest of it. -/
theorem exists_registered_of_fullFixityPassed {answers : Answers} {full : Bool} {id : Int64}
    {exchanges : List Exchange} {record : Record} (course : Course full id exchanges record)
    (explain : answers.Explain exchanges) (outcome : record.outcome = .fullFixityPassed) :
    ∃ file, answers.file id = .ok file ∧
      ∃ checksum ∈ file.checksums, checksum.algorithm = Catalog.sha256 := by
  cases course with
  | unknown | unlocated | unreached => cases outcome
  | reached started file resolution source stat found sequel =>
    cases sequel with
    | quickMatch | needsAttention | coldTierDeferred | unread => cases outcome
    | read reason concern wanted warm answer digest known time =>
      obtain ⟨parts, whole, rfl⟩ := Storage.digestOfAnswer_eq_ok_iff.mp known
      have same : (file.latestDigest Catalog.sha256).getD "" = Sha256.digest parts.flatten := by
        rw [Record.outcome_withDigest] at outcome
        split at outcome
        · assumption
        · cases outcome
      obtain ⟨checksum, latest, -⟩ := registered_eq_digest_iff.mp same
      refine ⟨file, ?_, checksum, Catalog.File.mem_of_latestChecksum latest⟩
      exact ((answers.explain_cons _ _).mp explain).1.symm

/-- **When an audit passes.** Every audit in every world meets with answers of the catalog, the
choice of a copy and the stores, and whatever they are it passes exactly when they let it reach the
copy's stat and either the copy matches at a quick look, or a full check is wanted, the content can
be streamed, and it arrives whole with the registered digest. -/
theorem passed_audit_iff (world : World σ) (state : σ) (full : Bool) (id : Int64) :
    let run := (audit full id).run world state
    (∃ answers : Answers, answers.Explain run.exchanges) ∧
      ∀ answers : Answers, answers.Explain run.exchanges →
        (run.value.passed = true ↔
          ∃ file source stat, answers.Reach id file source stat ∧
            (QuickMatch file stat ∨
              (¬ QuickMatch file stat ∧ full = true ∧
                ¬ "Glacier".toList <+: file.storageOption.toList ∧
                answers.ContentMatch file source))) ∧
        (run.value.outcome = .fullFixityPassed →
          ∃ file, answers.file id = .ok file ∧
            ∃ checksum ∈ file.checksums, checksum.algorithm = Catalog.sha256) := by
  intro run
  have course := course_of_run world state full id
  constructor
  · obtain ⟨answers, explain⟩ := exists_explain_of_course course
    exact ⟨answers, (answers.explain_dealings_iff _).mp explain⟩
  · intro answers explain
    have explain := (answers.explain_dealings_iff _).mpr explain
    exact ⟨passed_iff_of_course course explain,
      exists_registered_of_fullFixityPassed course explain⟩

end Audit

end Fixity
