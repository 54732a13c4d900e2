/-
This file says what the verdict of an audit that passes a file rests on. A pass by
content rests on a registered SHA-256 digest. A quick match need not rest on any:
a digest that is not registered and one that the metadata does not hold are both
empty, and a tag is only compared with a registered MD5 digest. Without a
registered digest a file passes exactly in this way, by its size and by the
metadata that name it, and nothing of it is read.
-/

import Fixity.Proofs.Audit.Verdict

namespace Fixity

namespace Catalog.File

/-- The catalog registered a digest for the file by which its content can be checked. -/
def HasDigest (file : File) : Prop :=
  ∃ checksum ∈ file.checksums, checksum.algorithm = md5 ∨ checksum.algorithm = sha256

theorem hasDigest_of_latestChecksum {file : File} {algorithm : String} {checksum : Checksum}
    (latest : file.latestChecksum algorithm = some checksum)
    (known : algorithm = md5 ∨ algorithm = sha256) : file.HasDigest := by
  obtain ⟨registered, same⟩ := mem_of_latestChecksum latest
  rw [← same] at known
  exact ⟨checksum, registered, known⟩

/-- Without a registered digest, the digests that an audit compares with are empty. -/
theorem latestDigest_of_not_hasDigest {file : File} {algorithm : String}
    (unregistered : ¬ file.HasDigest) (known : algorithm = md5 ∨ algorithm = sha256) :
    file.latestDigest algorithm = none := by
  rw [latestDigest, Option.map_eq_none_iff, Option.eq_none_iff_forall_ne_some]
  intro checksum latest
  exact unregistered (hasDigest_of_latestChecksum latest known)

end Catalog.File

namespace Audit

/-- The catalog registers of a file what the stat of its copy shows again, without any digest on
either side. -/
structure BareMatch (file : Catalog.File) (stat : Storage.Stat) : Prop
    extends QuickMatch file stat where
  noMd5 : stat.metadata.get .md5 = ""
  noSha256 : stat.metadata.get .sha256 = ""

theorem QuickMatch.bareMatch {file : Catalog.File} {stat : Storage.Stat}
    (calm : QuickMatch file stat) (unregistered : ¬ file.HasDigest) : BareMatch file stat where
  toQuickMatch := calm
  noMd5 := by
    rw [calm.md5, Catalog.File.latestDigest_of_not_hasDigest unregistered (.inl rfl)]
    rfl
  noSha256 := by
    rw [calm.sha256, Catalog.File.latestDigest_of_not_hasDigest unregistered (.inr rfl)]
    rfl

/-- What the verdict of an audit with these exchanges rests on: a registered digest, or a quick
match in which no digest took part. -/
def Founded (id : Int64) (exchanges : List Exchange) (record : Record) : Prop :=
  ∃ file : Catalog.File, ⟨.getFile id, .ok file⟩ ∈ exchanges ∧
    (file.HasDigest ∨
      (record.outcome = .quickMatch ∧
        (∃ (source : Storage.Source) (stat : Storage.Stat),
          ⟨.stat source, .ok stat⟩ ∈ exchanges ∧ BareMatch file stat) ∧
        ∀ exchange ∈ exchanges, ∀ source, exchange.query ≠ .get source))

theorem founded_of_course {full : Bool} {id : Int64} {exchanges : List Exchange} {record : Record}
    (course : Course full id exchanges record) (passed : record.passed = true) :
    Founded id exchanges record := by
  cases course with
  | unknown | unlocated | unreached => cases passed
  | reached started file resolution source stat found sequel =>
    refine ⟨file, List.mem_cons_self, ?_⟩
    cases sequel with
    | needsAttention | coldTierDeferred | unread => cases passed
    | quickMatch time calm =>
      refine or_iff_not_imp_left.mpr fun unregistered => ⟨rfl, ⟨source, stat, ?_, ?_⟩, ?_⟩
      · simp only [List.mem_cons, true_or, or_true]
      · exact ((concern_surveyed_eq_none_iff ..).mp calm).bareMatch unregistered
      · simp only [List.forall_mem_cons, ne_eq, reduceCtorEq, not_false_eq_true, implies_true,
          List.not_mem_nil, false_implies, and_self]
    | read reason concern wanted warm answer digest known time =>
      obtain ⟨parts, whole, rfl⟩ := Storage.digestOfAnswer_eq_ok_iff.mp known
      have same := (Record.passed_withDigest_iff _ _ time).mp passed
      obtain ⟨checksum, latest, -⟩ := registered_eq_digest_iff.mp same
      exact .inl (Catalog.File.hasDigest_of_latestChecksum latest (.inr rfl))

/-- **What a pass rests on.** If an audit passes a file, a digest of the file is registered, or it
matched at a quick look in which no digest took part and nothing was read. -/
theorem founded_of_passed (world : World σ) (state : σ) (full : Bool) (id : Int64)
    (passed : ((audit full id).run world state).value.passed = true) :
    Founded id ((audit full id).run world state).exchanges
      ((audit full id).run world state).value := by
  obtain ⟨file, known, founded⟩ := founded_of_course (course_of_run world state full id) passed
  refine ⟨file, (mem_dealings.mp known).1, founded.imp_right ?_⟩
  rintro ⟨outcome, ⟨source, stat, reported, bare⟩, unread⟩
  refine ⟨outcome, ⟨source, stat, (mem_dealings.mp reported).1, bare⟩, ?_⟩
  intro exchange member source asked
  exact unread exchange (mem_dealings.mpr ⟨member, by rw [asked]; rfl⟩) source asked

end Audit

/-- Answers about a file for which no digest is registered, and whose copy has none either. -/
def Answers.unregistered : Answers where
  file _ := .ok {
    id := 1
    identifier := "example.edu/bag/data/file"
    uuid := "file"
    size := 1
    storageOption := "Standard"
    institutionId := 1
    intellectualObjectId := 1
    createdAt := .epoch
    updatedAt := .epoch }
  resolution _ := ⟨none, .ok ⟨⟨"bucket", "store", "https://store/bucket/file"⟩, "file"⟩⟩
  stat _ := .ok {
    size := 1
    etag := ""
    metadata := ((Storage.Metadata.empty.set .institution "example.edu").set .bag
      "example.edu/bag").set .bagPath "data/file" }
  body _ := .error (.unknownBucket "bucket")

namespace Audit

/-- The pass of the file without a digest rests on a quick match. -/
theorem founded_unregistered :
    let run := (audit true 1).run (Answers.unregistered.world .epoch) ()
    run.value.passed = true ∧ Founded 1 run.exchanges run.value := by
  intro run
  have passed : run.value.passed = true := by decide +kernel
  exact ⟨passed, founded_of_passed _ () true 1 passed⟩

/-- The file without a digest passes, even where a full check is wanted. -/
theorem passed_unregistered :
    ((audit true 1).run (Answers.unregistered.world .epoch) ()).value.passed = true ∧
      ∃ file, Answers.unregistered.file 1 = .ok file ∧ ¬ file.HasDigest := by
  refine ⟨by decide +kernel, _, rfl, ?_⟩
  rintro ⟨checksum, ⟨⟩, -⟩

end Audit

end Fixity
