/-
This file says how far an audit tells the files of a bag apart by their paths. The
pipeline writes the path of a file into the metadata of its object plain and spelled
as one segment, or in the second way alone; the audit looks at one value, and no
longer knows which of the two it is. It accepts both the path that it expects and the
spelling of that path. So the object of a file is always accepted, and that of another
file is refused unless one of the two paths happens to be the spelling of the other.
-/

import Fixity.Proofs.Audit.Concern
import Fixity.Proofs.Identifiers
import Fixity.Proofs.Storage.Segments

namespace Fixity

/-! ### What the pipeline writes -/

namespace Storage.Metadata

/-- The path is written plain and spelled as one segment. -/
structure HoldsPath (metadata : Metadata) (path : String) : Prop where
  plain : metadata.find? MetaKey.bagPath.name = some path
  encoded : metadata.find? MetaKey.bagPathEncoded.name = some (escapePath path)

/-- The path is written spelled as one segment alone. -/
structure HoldsSpelling (metadata : Metadata) (path : String) : Prop where
  plain : metadata.find? MetaKey.bagPath.name = none
  encoded : metadata.find? MetaKey.bagPathEncoded.name = some (escapePath path)

variable {metadata : Metadata} {path : String}

theorem HoldsPath.pathInBag (holds : metadata.HoldsPath path) : metadata.pathInBag = path := by
  have plain : metadata.get .bagPath = path := by rw [get, holds.plain, Option.getD_some]
  have encoded : metadata.get .bagPathEncoded = escapePath path := by
    rw [get, holds.encoded, Option.getD_some]
  rw [Metadata.pathInBag, plain, encoded]
  split
  · rfl
  -- An empty path is its own spelling.
  · next empty =>
    rw [Decidable.not_not.mp empty]
    rfl

theorem HoldsSpelling.pathInBag (holds : metadata.HoldsSpelling path) :
    metadata.pathInBag = escapePath path := by
  have plain : metadata.get .bagPath = "" := by rw [get, holds.plain, Option.getD_none]
  rw [Metadata.pathInBag, plain, if_neg (not_not_intro rfl), get, holds.encoded, Option.getD_some]

end Storage.Metadata

namespace Audit

/-! ### What the audit compares -/

/-- The mismatches in a record are those between the stat of the copy and the file. -/
theorem mismatch_of_course {full : Bool} {id : Int64} {exchanges : List Exchange} {record : Record}
    {file : Catalog.File} {source : Storage.Source} {stat : Storage.Stat}
    (course : Course full id exchanges record) (fetched : ⟨.getFile id, .ok file⟩ ∈ exchanges)
    (reported : ⟨.stat source, .ok stat⟩ ∈ exchanges) :
    record.mismatch = Record.mismatchOf record.registered (Record.storedOf stat) file := by
  cases course with
  | unknown | unlocated | unreached => simp at reported
  | reached started known resolution copy seen found sequel =>
    cases sequel
    all_goals
      obtain rfl : file = known := by simpa using fetched
      obtain ⟨-, rfl⟩ : source = copy ∧ stat = seen := by simpa using reported
      rfl

/-- The path is accepted when the value that the audit looks at is the expected path or its
spelling. -/
theorem path_of_course {full : Bool} {id : Int64} {exchanges : List Exchange} {record : Record}
    {file : Catalog.File} {source : Storage.Source} {stat : Storage.Stat} {expected : String}
    (course : Course full id exchanges record) (fetched : ⟨.getFile id, .ok file⟩ ∈ exchanges)
    (reported : ⟨.stat source, .ok stat⟩ ∈ exchanges) (known : file.pathInBag = some expected) :
    record.mismatch.path = false ↔
      stat.metadata.pathInBag = expected ∨
        stat.metadata.pathInBag = Storage.escapePath expected := by
  rw [mismatch_of_course course fetched reported]
  show Record.pathMismatch stat.metadata.pathInBag file = false ↔ _
  rw [pathMismatch_eq_false_iff, known]
  simp only [Option.some.injEq, exists_eq_left']

/-! ### Paths that are told apart -/

/-- **How far paths are told apart.** An object whose metadata hold the one path is accepted for the
other exactly if they are the same, or, where the path was written plain too, if it is the spelling
of the other, and, where its spelling alone was written, if the other is that spelling. -/
theorem mismatch_path_eq_false_iff (world : World σ) (state : σ) (full : Bool) (id : Int64)
    {file : Catalog.File} {source : Storage.Source} {stat : Storage.Stat} {other : String}
    (fetched : ⟨.getFile id, .ok file⟩ ∈ ((audit full id).run world state).exchanges)
    (reported : ⟨.stat source, .ok stat⟩ ∈ ((audit full id).run world state).exchanges)
    (known : file.pathInBag = some other) (path : String) :
    (stat.metadata.HoldsPath path →
      (((audit full id).run world state).value.mismatch.path = false ↔
        path = other ∨ path = Storage.escapePath other)) ∧
    (stat.metadata.HoldsSpelling path →
      (((audit full id).run world state).value.mismatch.path = false ↔
        path = other ∨ other = Storage.escapePath path)) := by
  have accepted := path_of_course (course_of_run world state full id)
    (mem_dealings.mpr ⟨fetched, rfl⟩) (mem_dealings.mpr ⟨reported, rfl⟩) known
  constructor
  · intro holds
    rw [accepted, holds.pathInBag]
  · intro holds
    rw [accepted, holds.pathInBag, Storage.escapePath_injective.eq_iff, or_comm]
    exact or_congr_right eq_comm

end Audit

/-! ### Objects as the pipeline writes them -/

namespace Storage.Metadata

/-- The metadata that the pipeline writes for a path. -/
def ofPath (path : String) : Metadata :=
  (empty.set .bagPath path).set .bagPathEncoded (escapePath path)

/-- The metadata that the pipeline writes for a path that cannot stand in a header. -/
def ofSpelling (path : String) : Metadata :=
  empty.set .bagPathEncoded (escapePath path)

theorem holdsPath_ofPath (path : String) : (ofPath path).HoldsPath path :=
  ⟨rfl, rfl⟩

theorem holdsSpelling_ofSpelling (path : String) : (ofSpelling path).HoldsSpelling path :=
  ⟨rfl, rfl⟩

end Storage.Metadata

/-- A file with this path in its bag. -/
def Catalog.File.atPath (path : String) : Catalog.File where
  id := 1
  identifier := "example.edu" ++ "/" ++ "bag" ++ "/" ++ path
  uuid := "file"
  size := 1
  storageOption := "Standard"
  institutionId := 1
  intellectualObjectId := 1
  createdAt := .epoch
  updatedAt := .epoch

theorem Catalog.File.pathInBag_atPath (path : String) : (atPath path).pathInBag = some path :=
  pathInBag_of_parts ⟨rfl, by decide, by decide⟩

/-- Answers about the file with this path, whose copy has these metadata. -/
def Answers.atPath (path : String) (metadata : Storage.Metadata) : Answers where
  file _ := .ok (.atPath path)
  resolution _ := ⟨none, .ok ⟨⟨"bucket", "store", "https://store/bucket/file"⟩, "file"⟩⟩
  stat _ := .ok { size := 1, etag := "", metadata }
  body _ := .error (.unknownBucket "bucket")

namespace Audit

/-- The audit of the file with this path, whose copy has these metadata. -/
def runAtPath (path : String) (metadata : Storage.Metadata) : Run Unit Record :=
  (audit false 1).run ((Answers.atPath path metadata).world .epoch) ()

theorem mem_exchanges_runAtPath (path : String) (metadata : Storage.Metadata) :
    ⟨.getFile 1, .ok (.atPath path)⟩ ∈ (runAtPath path metadata).exchanges ∧
      ∃ source stat, ⟨.stat source, .ok stat⟩ ∈ (runAtPath path metadata).exchanges ∧
        stat.metadata = metadata := by
  refine ⟨.tail _ (.head _), ⟨⟨"bucket", "store", "https://store/bucket/file"⟩, "file"⟩,
    { size := 1, etag := "", metadata }, .tail _ (.tail _ (.tail _ (.head _))), rfl⟩

/-- The object of one file is looked at for another one. -/
theorem mismatch_path_eq_false_iff_letters :
    (Storage.Metadata.ofPath "a c").HoldsPath "a c" ∧
      (Catalog.File.atPath "a b").pathInBag = some "a b" ∧
      ((runAtPath "a b" (.ofPath "a c")).value.mismatch.path = false ↔
        "a c" = "a b" ∨ "a c" = Storage.escapePath "a b") := by
  have holds := Storage.Metadata.holdsPath_ofPath "a c"
  have known := Catalog.File.pathInBag_atPath "a b"
  obtain ⟨fetched, source, stat, reported, same⟩ := mem_exchanges_runAtPath "a b" (.ofPath "a c")
  exact ⟨holds, known,
    (mismatch_path_eq_false_iff _ () false 1 fetched reported known "a c").1 (same ▸ holds)⟩

/-- A name that is the spelling of another one is taken for it, and the other way round where the
spelling alone is written. -/
theorem mismatch_path_percent_eq_false :
    ("a%20b" ≠ "a b" ∧ (Catalog.File.atPath "a b").pathInBag = some "a b" ∧
        (Storage.Metadata.ofPath "a%20b").HoldsPath "a%20b" ∧
        (runAtPath "a b" (.ofPath "a%20b")).value.mismatch.path = false) ∧
      "a b" ≠ "a%20b" ∧ (Catalog.File.atPath "a%20b").pathInBag = some "a%20b" ∧
        (Storage.Metadata.ofSpelling "a b").HoldsSpelling "a b" ∧
        (runAtPath "a%20b" (.ofSpelling "a b")).value.mismatch.path = false := by
  refine ⟨⟨by decide, Catalog.File.pathInBag_atPath _, Storage.Metadata.holdsPath_ofPath _, ?_⟩,
    by decide, Catalog.File.pathInBag_atPath _, Storage.Metadata.holdsSpelling_ofSpelling _, ?_⟩
  · decide +kernel
  · decide +kernel

end Audit

end Fixity
