/-
This file proves that decoding undoes encoding, for each document of the catalog and
of the stores. A format writes values as JSON and reads them back. The writer may have
choices: metadata are listed in some order, and each time in another one. Where what a
format writes is plain and is read as it was written, whichever way that was, every
value survives the text, so that a text and its normal form, the text of the value
that it holds, always hold the same value.
-/

import Fixity.Premis.Event
import Fixity.Proofs.Json.Records
import Fixity.Proofs.Uuid
import Fixity.Storage.Bucket
import Fixity.Storage.Object

namespace Fixity

open Json

/-! ### Formats -/

/-- A format of documents: how values are written, by what the writer chooses, and how they are
read. -/
structure Format (Choice α : Type) where
  toJson : Choice → α → Json
  ofJson? : Json → Option α

namespace Format

variable {Choice α : Type}

/-- A format that leaves its writer no choice. -/
def fixed (toJson : α → Json) (ofJson? : Json → Option α) : Format Unit α :=
  ⟨fun _ => toJson, ofJson?⟩

/-- The text of a value. -/
def encode (format : Format Choice α) (choice : Choice) (value : α) : String :=
  (format.toJson choice value).print

/-- The value that a text holds. -/
def decode? (format : Format Choice α) (text : String) : Option α := do
  format.ofJson? (← Json.ofString? text)

/-- The normal form of a text: the text of the value that it holds. -/
def normalize? (format : Format Choice α) (choice : Choice) (text : String) : Option String :=
  (format.decode? text).map (format.encode choice)

/-- Decoding undoes encoding. So a text that is accepted, in whichever of its spellings, holds the
value that its normal form holds, and normalizing twice is normalizing once: of two choices the
later one decides, and with the same choice the normal form stays as it is. -/
structure RoundTrips (format : Format Choice α) : Prop where
  decode_encode : ∀ choice value, format.decode? (format.encode choice value) = some value
  decode_normalize : ∀ choice text,
    format.normalize? choice text >>= format.decode? = format.decode? text
  normalize_normalize : ∀ first second text,
    format.normalize? first text >>= format.normalize? second = format.normalize? second text

/-- What a format writes is plain, and is read as it was written. -/
structure Lawful (format : Format Choice α) : Prop where
  plain : ∀ choice value, Plain (format.toJson choice value)
  read : ∀ choice value, format.ofJson? (format.toJson choice value) = some value

theorem Lawful.roundTrips {format : Format Choice α} (lawful : format.Lawful) :
    format.RoundTrips := by
  have survives (choice : Choice) (value : α) :
      format.decode? (format.encode choice value) = some value := by
    rw [decode?, encode, ofString?_print (lawful.plain choice value), Option.bind_eq_bind,
      Option.bind_some, lawful.read]
  refine ⟨survives, fun choice text => ?_, fun first second text => ?_⟩
  · cases held : format.decode? text with
    | none => rw [normalize?, held]; rfl
    | some value =>
      rw [normalize?, held]
      exact survives choice value
  · cases held : format.decode? text with
    | none => rw [normalize?, normalize?, held]; rfl
    | some value =>
      have again : format.normalize? second (format.encode first value) =
          some (format.encode second value) := by
        rw [normalize?, survives, Option.map_some]
      rw [normalize?, normalize?, held]
      exact again

/-- Lists of values, item by item. -/
def list (format : Format Choice α) : Format Choice (List α) where
  toJson choice values := .array (values.map (format.toJson choice))
  ofJson? := list? format.ofJson?

theorem Lawful.list {format : Format Choice α} (lawful : format.Lawful) : format.list.Lawful where
  plain choice values := .array fun item member => by
    obtain ⟨value, -, rfl⟩ := List.mem_map.mp member
    exact lawful.plain choice value
  read choice := list?_map (lawful.read choice)

end Format

/-! ### The catalog -/

namespace Catalog

theorem ChecksumSource.ofJson?_toJson (source : ChecksumSource) :
    ChecksumSource.ofJson? source.toJson = some source := by
  cases source <;> rfl

theorem Checksum.ofJson?_toJson (checksum : Checksum) :
    Checksum.ofJson? checksum.toJson = some checksum := by
  have held : slots ["algorithm", "digest", "datetime", "source"] checksum.toJson =
      some [some (.text checksum.algorithm), some (.text checksum.digest),
        some (.timestamp checksum.recordedAt), some checksum.source.toJson] :=
    slots_record rfl (by decide)
  unfold Checksum.ofJson?
  rw [held, Option.bind_eq_bind, Option.bind_some]
  simp only [required_some, text?_text, timestamp?_timestamp, withDefault_some,
    ChecksumSource.ofJson?_toJson]
  rfl

theorem lawful_checksum : Format.Lawful (.fixed Checksum.toJson Checksum.ofJson?) where
  plain _ checksum := .record <| by
    simp only [List.forall_mem_cons, List.not_mem_nil, false_implies, implies_true, and_true]
    exact ⟨.text _, .text _, .text _, .text _⟩
  read _ := Checksum.ofJson?_toJson

theorem CopyRecord.ofJson?_toJson (copy : CopyRecord) :
    CopyRecord.ofJson? copy.toJson = some copy := by
  have held : slots ["url"] copy.toJson = some [some (.text copy.url)] :=
    slots_record rfl (by decide)
  unfold CopyRecord.ofJson?
  rw [held, Option.bind_eq_bind, Option.bind_some]
  simp only [required_some, text?_text]
  rfl

theorem lawful_copyRecord : Format.Lawful (.fixed CopyRecord.toJson CopyRecord.ofJson?) where
  plain _ _ := .record (List.forall_mem_singleton.mpr (.text _))
  read _ := CopyRecord.ofJson?_toJson

theorem lawful_file : Format.Lawful (.fixed File.toJson File.ofJson?) where
  plain _ file := .record <| by
    simp only [List.forall_mem_cons, List.not_mem_nil, false_implies, implies_true, and_true]
    exact ⟨.integer _, .text _, .text _, .integer _, .text _, lawful_checksum.list.plain () _,
      lawful_copyRecord.list.plain () _, plain_timestampOrNull _, .integer _, .integer _, .text _,
      .text _⟩
  read _ file := by
    have held : slots File.fieldNames file.toJson =
        some [some (.int64 file.id), some (.text file.identifier), some (.text file.uuid),
          some (.int64 file.size), some (.text file.storageOption),
          some (.array (file.checksums.map Checksum.toJson)),
          some (.array (file.copies.map CopyRecord.toJson)),
          some (.timestampOrNull file.lastFixityCheck), some (.int64 file.institutionId),
          some (.int64 file.intellectualObjectId), some (.timestamp file.createdAt),
          some (.timestamp file.updatedAt)] :=
      slots_record rfl (by decide)
    show File.ofJson? file.toJson = some file
    unfold File.ofJson?
    rw [held, Option.bind_eq_bind, Option.bind_some]
    simp only [required_some, int64?_int64, text?_text, withDefault_some,
      list?_map Checksum.ofJson?_toJson, list?_map CopyRecord.ofJson?_toJson,
      nullable_timestampOrNull, timestamp?_timestamp]
    rfl

end Catalog

/-! ### The stores -/

namespace Storage

theorem lawful_bucket : Format.Lawful (.fixed Bucket.toJson Bucket.ofJson?) where
  plain _ bucket := .record <| by
    simp only [List.forall_mem_cons, List.not_mem_nil, false_implies, implies_true, and_true]
    exact ⟨.text _, .text _, .text _, .text _, .text _, .text _, .text _, .integer _⟩
  read _ bucket := by
    have held : slots Bucket.fieldNames bucket.toJson =
        some [some (.text bucket.name), some (.text bucket.provider), some (.text bucket.host),
          some (.text bucket.region), some (.text bucket.storageClass),
          some (.text bucket.optionName), some (.text bucket.description),
          some (.integer bucket.restorePriority.toNat)] :=
      slots_record rfl (by decide)
    show Bucket.ofJson? bucket.toJson = some bucket
    unfold Bucket.ofJson?
    rw [held, Option.bind_eq_bind, Option.bind_some]
    simp only [required_some, text?_text, withDefault_some, uint32?_toNat]
    rfl

/-- Members that are texts are put one after the other. -/
theorem Metadata.ofMembers?_texts (metadata : Metadata) (entries : List (String × String)) :
    Metadata.ofMembers? metadata (named (entries.map fun (key, value) => (key, .text value))) =
      some ⟨metadata.values.insertMany entries⟩ := by
  induction entries generalizing metadata with
  | nil => rfl
  | cons entry rest inductionHypothesis =>
    obtain ⟨key, value⟩ := entry
    rw [Std.ExtTreeMap.insertMany_cons]
    exact inductionHypothesis (metadata.put key value)

/-- The entries of a map, in whichever order, make up the map. -/
theorem insertMany_perm {values : Std.ExtTreeMap String String} {entries : List (String × String)}
    (complete : entries.Perm values.toList) :
    (∅ : Std.ExtTreeMap String String).insertMany entries = values := by
  have distinct : entries.Pairwise fun entry other => ¬ compare entry.1 other.1 = .eq :=
    (complete.pairwise_iff fun apart same => apart (Std.OrientedCmp.eq_symm same)).mpr
      values.distinct_keys_toList
  rw [← Std.ExtTreeMap.ofList_eq_insertMany_empty]
  refine Std.ExtTreeMap.ext_getElem? fun key => ?_
  cases held : values[key]? with
  | some value =>
    have listed : (key, value) ∈ entries :=
      complete.mem_iff.mpr (Std.ExtTreeMap.mem_toList_iff_getElem?_eq_some.mpr held)
    exact Std.ExtTreeMap.getElem?_ofList_of_mem Std.ReflCmp.compare_self distinct listed
  | none =>
    refine Std.ExtTreeMap.getElem?_ofList_of_contains_eq_false ?_
    rw [← Bool.not_eq_true, List.contains_iff_mem]
    intro listed
    obtain ⟨⟨_, value⟩, member, rfl⟩ := List.mem_map.mp listed
    have found := Std.ExtTreeMap.mem_toList_iff_getElem?_eq_some.mp (complete.mem_iff.mp member)
    cases held.symm.trans found

theorem Metadata.ofJson?_toJsonIn (order : Metadata.Order) (metadata : Metadata) :
    Metadata.ofJson? (metadata.toJsonIn order) = some metadata := by
  have entries := Metadata.ofMembers?_texts .empty (order.entries metadata)
  rw [show Metadata.empty.values = ∅ from rfl, insertMany_perm (order.complete metadata)] at entries
  exact entries

theorem lawful_metadata : Format.Lawful ⟨Metadata.toJsonIn, Metadata.ofJson?⟩ where
  plain order metadata := .record fun member within => by
    obtain ⟨entry, -, rfl⟩ := List.mem_map.mp within
    exact .text _
  read := Metadata.ofJson?_toJsonIn

theorem lawful_stat : Format.Lawful ⟨Stat.toJsonIn, Stat.ofJson?⟩ where
  plain order stat := .record <| by
    simp only [List.forall_mem_cons, List.not_mem_nil, false_implies, implies_true, and_true]
    exact ⟨.integer _, .text _, lawful_metadata.plain order _⟩
  read order stat := by
    have held : slots ["size", "etag", "metadata"] (stat.toJsonIn order) =
        some [some (.int64 stat.size), some (.text stat.etag),
          some (stat.metadata.toJsonIn order)] :=
      slots_record rfl (by decide)
    show Stat.ofJson? (stat.toJsonIn order) = some stat
    unfold Stat.ofJson?
    rw [held, Option.bind_eq_bind, Option.bind_some]
    simp only [required_some, int64?_int64, text?_text, Metadata.ofJson?_toJsonIn]
    rfl

end Storage

/-! ### Events -/

namespace Premis

theorem EventOutcome.ofJson?_name (outcome : EventOutcome) :
    EventOutcome.ofJson? (.text outcome.name) = some outcome := by
  cases outcome <;> rfl

theorem uuid?_text (id : Uuid) : Event.uuid? (.text id.text) = some id := by
  rw [Event.uuid?, text?_text, Option.bind_eq_bind, Option.bind_some, Uuid.ofString?_text]

theorem lawful_event : Format.Lawful (.fixed Event.toJson Event.ofJson?) where
  plain _ event := .record <| by
    simp only [List.forall_mem_cons, List.not_mem_nil, false_implies, implies_true, and_true]
    exact ⟨.text _, .text _, .text _, .text _, .text _, .text _, .text _, .text _, .text _,
      .integer _, .text _, .integer _, .integer _, .text _⟩
  read _ event := by
    have held : slots Event.fieldNames event.toJson =
        some [some (.text event.identifier.text), some (.text event.eventType),
          some (.timestamp event.dateTime), some (.text event.detail),
          some (.text event.outcome.name), some (.text event.outcomeDetail),
          some (.text event.outcomeInformation), some (.text event.object),
          some (.text event.agent), some (.int64 event.fileId), some (.text event.fileIdentifier),
          some (.int64 event.institutionId), some (.int64 event.intellectualObjectId),
          some (.text event.intellectualObjectIdentifier)] :=
      slots_record rfl (by decide)
    show Event.ofJson? event.toJson = some event
    unfold Event.ofJson?
    rw [held, Option.bind_eq_bind, Option.bind_some]
    simp only [required_some, uuid?_text, text?_text, timestamp?_timestamp,
      EventOutcome.ofJson?_name, int64?_int64]
    rfl

end Premis

/-! ### All documents -/

/-- **Documents round-trip.** In each format of the catalog and of the stores decoding undoes
encoding, in whichever order the entries of metadata are written. -/
theorem roundTrips_documents :
    Format.RoundTrips (.fixed Catalog.File.toJson Catalog.File.ofJson?) ∧
    Format.RoundTrips (.fixed Catalog.Checksum.toJson Catalog.Checksum.ofJson?) ∧
    Format.RoundTrips (.fixed Catalog.CopyRecord.toJson Catalog.CopyRecord.ofJson?) ∧
    Format.RoundTrips (.fixed Storage.Bucket.toJson Storage.Bucket.ofJson?) ∧
    Format.RoundTrips (.fixed Storage.Bucket.listToJson Storage.Bucket.listOfJson?) ∧
    Format.RoundTrips ⟨Storage.Metadata.toJsonIn, Storage.Metadata.ofJson?⟩ ∧
    Format.RoundTrips ⟨Storage.Stat.toJsonIn, Storage.Stat.ofJson?⟩ ∧
    Format.RoundTrips (.fixed Premis.Event.toJson Premis.Event.ofJson?) :=
  ⟨Catalog.lawful_file.roundTrips, Catalog.lawful_checksum.roundTrips,
    Catalog.lawful_copyRecord.roundTrips, Storage.lawful_bucket.roundTrips,
    Storage.lawful_bucket.list.roundTrips, Storage.lawful_metadata.roundTrips,
    Storage.lawful_stat.roundTrips, Premis.lawful_event.roundTrips⟩

/-- The order of the keys from the last to the first. -/
def Storage.Metadata.Order.backwards : Storage.Metadata.Order where
  entries metadata := metadata.values.toList.reverse
  complete _ := List.reverse_perm _

/-- A checksum in an array that ends before its source, and one with a field that no checksum has,
both with a moment in a spelling of its own, hold the value of their common normal form. Metadata
that repeat a key hold its last value, and each of two orders gives them another normal form. -/
theorem roundTrips_documents_spellings :
    let checksums := Format.fixed Catalog.Checksum.toJson Catalog.Checksum.ofJson?
    let metadata : Format Storage.Metadata.Order Storage.Metadata :=
      ⟨Storage.Metadata.toJsonIn, Storage.Metadata.ofJson?⟩
    let short := "[\"md5\", \"0a\", \"2024-1-2 3:4:5.60 +0000\"]"
    let wide := "\x7b\"digest\":\"0a\",\"note\":[null],\"algorithm\":\"md5\"," ++
      "\"datetime\":\"2024-01-02T04:04:05.6+01:00\",\"source\":\"registry\"\x7d"
    let normal := "\x7b\"algorithm\":\"md5\",\"digest\":\"0a\"," ++
      "\"datetime\":\"2024-01-02T03:04:05.600Z\",\"source\":\"registry\"\x7d"
    let repeating := "\x7b\"b\":\"1\",\"a\":\"2\",\"b\":\"3\"\x7d"
    let ascending := "\x7b\"a\":\"2\",\"b\":\"3\"\x7d"
    let descending := "\x7b\"b\":\"3\",\"a\":\"2\"\x7d"
    (checksums.normalize? () short = some normal ∧ checksums.normalize? () wide = some normal ∧
      (checksums.decode? normal).isSome = true ∧
      checksums.decode? short = checksums.decode? normal ∧
      checksums.decode? wide = checksums.decode? normal ∧
      checksums.normalize? () normal = some normal) ∧
    (metadata.normalize? .byKey repeating = some ascending ∧
      metadata.normalize? .backwards repeating = some descending ∧
      metadata.decode? ascending = metadata.decode? repeating ∧
      metadata.decode? descending = metadata.decode? repeating ∧
      metadata.normalize? .backwards ascending = some descending) := by
  intro checksums metadata short wide normal repeating ascending descending
  obtain ⟨-, ofChecksums, -, -, -, ofMetadata, -⟩ := roundTrips_documents
  have shortNormal : checksums.normalize? () short = some normal := by decide +kernel
  have wideNormal : checksums.normalize? () wide = some normal := by decide +kernel
  have held : (checksums.decode? normal).isSome = true := by decide +kernel
  have inOrder : metadata.normalize? .byKey repeating = some ascending := by decide +kernel
  have backwards : metadata.normalize? .backwards repeating = some descending := by
    decide +kernel
  have shortHeld := ofChecksums.decode_normalize () short
  have wideHeld := ofChecksums.decode_normalize () wide
  have settled := ofChecksums.normalize_normalize () () short
  have inOrderHeld := ofMetadata.decode_normalize .byKey repeating
  have backwardsHeld := ofMetadata.decode_normalize .backwards repeating
  have turned := ofMetadata.normalize_normalize .byKey .backwards repeating
  rw [shortNormal] at shortHeld settled
  rw [wideNormal] at wideHeld
  rw [inOrder] at inOrderHeld turned
  rw [backwards] at backwardsHeld turned
  exact ⟨⟨shortNormal, wideNormal, held, shortHeld.symm, wideHeld.symm, settled⟩,
    inOrder, backwards, inOrderHeld, backwardsHeld, turned⟩

end Fixity
