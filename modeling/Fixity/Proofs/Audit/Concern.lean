/-
This file says what the concern of a record means. A record raises no concern
exactly when the stored metadata, the size and, where it can be compared, the tag
agree with what the catalog registered; over a record that knows the copy's stat
this is a condition on the file and the stat alone. Otherwise the concern is the
first thing that disagrees, in the order metadata, size, tag.
-/

import Fixity.Proofs.Audit.Course

namespace Fixity.Audit

namespace Record

/-! ### Comparisons -/

theorem sizeMatches_eq_true_iff (record : Record) :
    record.sizeMatches = true ↔ record.registered.size = record.stored.size := by
  rw [sizeMatches, beq_iff_eq]

theorem canCompareEtag_eq_true_iff (record : Record) :
    record.canCompareEtag = true ↔
      30 < record.stored.etag.utf8ByteSize ∧ 30 < record.registered.md5.utf8ByteSize ∧
        '-' ∉ record.stored.etag.toList := by
  show _ ↔ shortDigest < _ ∧ shortDigest < _ ∧ _
  simp only [canCompareEtag, Bool.and_eq_true, decide_eq_true_eq, Bool.not_eq_true',
    List.contains_eq_mem, decide_eq_false_iff_not, and_assoc]

/-- A check is needed where the sizes differ, or where a tag that can be compared differs. -/
theorem needsFixityCheck_eq_true_iff (record : Record) :
    record.needsFixityCheck = true ↔
      record.registered.size ≠ record.stored.size ∨
        (record.canCompareEtag = true ∧ record.stored.etag ≠ record.registered.md5) := by
  rw [needsFixityCheck, etagMatches, Bool.or_eq_true, Bool.not_eq_true', ← Bool.not_eq_true,
    sizeMatches_eq_true_iff]
  cases record.canCompareEtag <;> simp

/-! ### Concerns -/

/-- A concern is the first thing that a quick look finds wrong. -/
theorem concern_spec (record : Record) :
    match record.concern with
    | none => record.hasMetadataMismatch = false ∧ record.needsFixityCheck = false
    | some .metadataMismatch => record.hasMetadataMismatch = true
    | some .sizeMismatch =>
      record.hasMetadataMismatch = false ∧ record.registered.size ≠ record.stored.size
    | some .etagMismatch =>
      record.hasMetadataMismatch = false ∧ record.registered.size = record.stored.size ∧
        record.canCompareEtag = true ∧ record.stored.etag ≠ record.registered.md5 := by
  have needs := record.needsFixityCheck_eq_true_iff
  have size := record.sizeMatches_eq_true_iff
  rw [concern]
  cases metadata : record.hasMetadataMismatch with
  | true => exact rfl
  | false =>
    cases needed : record.needsFixityCheck with
    | false => exact ⟨rfl, rfl⟩
    | true =>
      rw [needed] at needs
      cases same : record.sizeMatches with
      | false =>
        rw [same] at size
        exact ⟨rfl, fun equal => Bool.false_ne_true (size.mpr equal)⟩
      | true =>
        have equal := size.mp same
        exact ⟨rfl, equal, (needs.mp rfl).resolve_left fun differ => differ equal⟩

theorem concern_eq_none_iff (record : Record) :
    record.concern = none ↔
      record.hasMetadataMismatch = false ∧ record.needsFixityCheck = false := by
  constructor
  · intro calm
    have spec := record.concern_spec
    rwa [calm] at spec
  · rintro ⟨metadata, needed⟩
    rw [concern, metadata, needed]
    rfl

/-! ### Digests -/

theorem passed_withDigest_iff (record : Record) (digest : String) (time : Time.Timestamp) :
    (record.withDigest digest time).passed = true ↔ record.registered.sha256 = digest :=
  beq_iff_eq

theorem outcome_withDigest (record : Record) (digest : String) (time : Time.Timestamp) :
    (record.withDigest digest time).outcome =
      if record.registered.sha256 = digest then .fullFixityPassed else .fullFixityFailed := by
  rw [withDigest]
  simp only [beq_iff_eq]

end Record

/-! ### Quick matches -/

/-- What the catalog registers of a file is found again in the stat of its copy: the metadata, the
size, and the tag where both it and the registered digest are long enough to compare and the tag is
of an upload in one part. -/
structure QuickMatch (file : Catalog.File) (stat : Storage.Stat) : Prop where
  institution : stat.metadata.get .institution = file.institution
  bag : stat.metadata.get .bag = file.bag.getD ""
  path : ∃ path, file.pathInBag = some path ∧
    (stat.metadata.pathInBag = path ∨ stat.metadata.pathInBag = Storage.escapePath path)
  md5 : stat.metadata.get .md5 = (file.latestDigest Catalog.md5).getD ""
  sha256 : stat.metadata.get .sha256 = (file.latestDigest Catalog.sha256).getD ""
  size : file.size = stat.size
  tag : ¬ (30 < stat.etag.utf8ByteSize ∧
    30 < ((file.latestDigest Catalog.md5).getD "").utf8ByteSize ∧
    '-' ∉ stat.etag.toList ∧ stat.etag ≠ (file.latestDigest Catalog.md5).getD "")

theorem pathMismatch_eq_false_iff (stored : String) (file : Catalog.File) :
    Record.pathMismatch stored file = false ↔
      ∃ path, file.pathInBag = some path ∧ (stored = path ∨ stored = Storage.escapePath path) := by
  rw [Record.pathMismatch]
  cases file.pathInBag with
  | none => simp only [Bool.true_eq_false, reduceCtorEq, false_and, exists_false]
  | some path =>
    simp only [Bool.and_eq_false_iff, bne_eq_false_iff_eq, Option.some.injEq, exists_eq_left']

/-- The stored metadata of a copy agrees with the catalog in all five respects. -/
theorem hasMetadataMismatch_surveyed_eq_false_iff (id : Int64) (started : Time.Timestamp)
    (file : Catalog.File) (source : Storage.Source) (stat : Storage.Stat) :
    (surveyed id started file source stat).hasMetadataMismatch = false ↔
      stat.metadata.get .institution = file.institution ∧
      stat.metadata.get .bag = file.bag.getD "" ∧
      (∃ path, file.pathInBag = some path ∧
        (stat.metadata.pathInBag = path ∨ stat.metadata.pathInBag = Storage.escapePath path)) ∧
      stat.metadata.get .md5 = (file.latestDigest Catalog.md5).getD "" ∧
      stat.metadata.get .sha256 = (file.latestDigest Catalog.sha256).getD "" := by
  rw [← pathMismatch_eq_false_iff]
  simp only [Record.hasMetadataMismatch, surveyed, Record.withStat, Record.mismatchOf,
    Record.storedOf, Record.withSource, Record.withFile, Bool.or_eq_false_iff, bne_eq_false_iff_eq,
    and_assoc]

/-- A record that knows the copy's stat raises no concern exactly at a quick match. -/
theorem concern_surveyed_eq_none_iff (id : Int64) (started : Time.Timestamp)
    (file : Catalog.File) (source : Storage.Source) (stat : Storage.Stat) :
    (surveyed id started file source stat).concern = none ↔ QuickMatch file stat := by
  have needs := (surveyed id started file source stat).needsFixityCheck_eq_true_iff
  rw [Record.canCompareEtag_eq_true_iff] at needs
  have calm : (surveyed id started file source stat).needsFixityCheck = false ↔
      file.size = stat.size ∧
        ¬ (30 < stat.etag.utf8ByteSize ∧
          30 < ((file.latestDigest Catalog.md5).getD "").utf8ByteSize ∧
          '-' ∉ stat.etag.toList ∧ stat.etag ≠ (file.latestDigest Catalog.md5).getD "") := by
    rw [← Bool.not_eq_true, needs, not_or, Decidable.not_not, and_assoc, and_assoc]
    rfl
  rw [Record.concern_eq_none_iff, hasMetadataMismatch_surveyed_eq_false_iff, calm]
  constructor
  · rintro ⟨⟨institution, bag, path, md5, sha256⟩, size, tag⟩
    exact ⟨institution, bag, path, md5, sha256, size, tag⟩
  · rintro ⟨institution, bag, path, md5, sha256, size, tag⟩
    exact ⟨⟨institution, bag, path, md5, sha256⟩, size, tag⟩

end Fixity.Audit
