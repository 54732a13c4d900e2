/-
This file says what a quick match knows of the object that it matched. The metadata
of the object names the file: its institution, its bag, and its path in the bag, as
the identifier spells them or, for the path, as one segment. Values that are absent
count as empty, and parts of an identifier may be empty too; but the name of a bag
holds the slash between its two parts, so it is never empty, and an object without
one is never matched.
-/

import Fixity.Proofs.Audit.Concern
import Fixity.Proofs.Identifiers

namespace Fixity

namespace Audit

/-! ### Objects that name their file -/

/-- The metadata of an object names the file with this identifier, which has all three parts. -/
def Named (identifier : String) (metadata : Storage.Metadata) : Prop :=
  ∃ institution name path, Catalog.Parts identifier institution name path ∧
    metadata.get .institution = institution ∧
    metadata.get .bag = institution ++ "/" ++ name ∧
    metadata.get .bag ≠ "" ∧
    (metadata.pathInBag = path ∨ metadata.pathInBag = Storage.escapePath path)

theorem QuickMatch.named {file : Catalog.File} {stat : Storage.Stat}
    (calm : QuickMatch file stat) : Named file.identifier stat.metadata := by
  obtain ⟨path, known, same⟩ := calm.path
  obtain ⟨institution, name, parts⟩ := Catalog.File.exists_parts_of_pathInBag known
  have bag : stat.metadata.get .bag = institution ++ "/" ++ name := by
    rw [calm.bag, Catalog.File.bag_of_parts parts, Option.getD_some]
  refine ⟨institution, name, path, parts, ?_, bag, ?_, same⟩
  · rw [calm.institution, Catalog.File.institution_of_parts parts]
  · intro empty
    rw [bag, String.append_eq_empty_iff, String.append_eq_empty_iff] at empty
    exact absurd empty.1.2 (by decide)

/-- Without an entry for the bag an object names no file. -/
theorem not_named_of_find? {identifier : String} {metadata : Storage.Metadata}
    (absent : metadata.find? Storage.MetaKey.bag.name = none) : ¬ Named identifier metadata := by
  rintro ⟨_, _, _, -, -, -, present, -⟩
  refine present ?_
  rw [Storage.Metadata.get, absent, Option.getD_none]

/-! ### Quick matches -/

/-- An audit that ends with a quick match saw the stat of one object, which matches the file. -/
theorem exists_quickMatch_of_course {full : Bool} {id : Int64} {exchanges : List Exchange}
    {record : Record} (course : Course full id exchanges record)
    (matched : record.outcome = .quickMatch) :
    ∃ file source stat, ⟨.getFile id, .ok file⟩ ∈ exchanges ∧
      ⟨.stat source, .ok stat⟩ ∈ exchanges ∧
      (∀ other report, ⟨.stat other, .ok report⟩ ∈ exchanges → report = stat) ∧
      record.stored = Record.storedOf stat ∧ QuickMatch file stat := by
  cases course with
  | unknown | unlocated | unreached => cases matched
  | reached started file resolution source stat found sequel =>
    cases sequel with
    | needsAttention | coldTierDeferred | unread => cases matched
    | read reason concern wanted warm answer digest known time =>
      rw [Record.outcome_withDigest] at matched
      split at matched <;> cases matched
    | quickMatch time calm =>
      refine ⟨file, source, stat, by simp, by simp, fun other report seen => ?_, rfl,
        (concern_surveyed_eq_none_iff ..).mp calm⟩
      obtain ⟨-, same⟩ : other = source ∧ report = stat := by simpa using seen
      exact same

/-- **What a quick match rests on.** If an audit ends with a quick match, the metadata that it took
over from the object name the file. An object without an entry for the bag is never matched. -/
theorem named_audit (world : World σ) (state : σ) (full : Bool) (id : Int64) :
    let run := (audit full id).run world state
    (run.value.outcome = .quickMatch →
      ∃ file source stat, ⟨.getFile id, .ok file⟩ ∈ run.exchanges ∧
        ⟨.stat source, .ok stat⟩ ∈ run.exchanges ∧ run.value.stored = Record.storedOf stat ∧
        Named file.identifier stat.metadata) ∧
    ∀ source stat, ⟨.stat source, .ok stat⟩ ∈ run.exchanges →
      stat.metadata.find? Storage.MetaKey.bag.name = none → run.value.outcome ≠ .quickMatch := by
  intro run
  have course := course_of_run world state full id
  constructor
  · intro matched
    obtain ⟨file, source, stat, known, reported, -, stored, calm⟩ :=
      exists_quickMatch_of_course course matched
    exact ⟨file, source, stat, (mem_dealings.mp known).1, (mem_dealings.mp reported).1, stored,
      calm.named⟩
  · intro source stat reported absent matched
    obtain ⟨file, _, other, -, -, only, -, calm⟩ := exists_quickMatch_of_course course matched
    obtain rfl := only source stat (mem_dealings.mpr ⟨reported, rfl⟩)
    exact not_named_of_find? absent calm.named

end Audit

/-- Answers about a file whose institution and whose bag's name are empty. Its copy has one slash
between them as the name of the bag. -/
def Answers.nameless : Answers where
  file _ := .ok {
    id := 1
    identifier := "//x"
    uuid := "file"
    size := 1
    storageOption := "Standard"
    institutionId := 1
    intellectualObjectId := 1
    createdAt := .epoch
    updatedAt := .epoch }
  resolution _ := ⟨none, .ok ⟨⟨"bucket", "store", "https://store/bucket/file"⟩, "file"⟩⟩
  stat _ := .ok {
    size := 1
    etag := ""
    metadata := (Storage.Metadata.empty.set .bag "/").set .bagPathEncoded "x" }
  body _ := .error (.unknownBucket "bucket")

namespace Audit

/-- The copy of the file with empty names is matched, and its metadata name the file. -/
theorem named_audit_nameless :
    let run := (audit false 1).run (Answers.nameless.world .epoch) ()
    run.value.outcome = .quickMatch ∧
      ∃ file source stat, ⟨.getFile 1, .ok file⟩ ∈ run.exchanges ∧
        ⟨.stat source, .ok stat⟩ ∈ run.exchanges ∧ run.value.stored = Record.storedOf stat ∧
        Named file.identifier stat.metadata := by
  intro run
  have matched : run.value.outcome = .quickMatch := by decide +kernel
  exact ⟨matched, (named_audit _ () false 1).1 matched⟩

end Audit

end Fixity
