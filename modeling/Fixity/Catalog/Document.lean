/-
This file gives the JSON documents of the catalog: digests, copies and files.
-/

import Fixity.Catalog.File
import Fixity.Json.Decoder

namespace Fixity.Catalog

open Json

/-! ### Digests -/

namespace ChecksumSource

/-- The name of a source. -/
def name : ChecksumSource → String
  | ingest => "ingest"
  | registry => "registry"

/-- The source of a name. -/
def ofName? : String → Option ChecksumSource
  | "ingest" => some ingest
  | "registry" => some registry
  | _ => none

/-- A source is written by its name. -/
def toJson (source : ChecksumSource) : Json :=
  .text source.name

/-- A source is read from its name, which may also be the one member of an object, with null as
its value. -/
def ofJson? : Json → Option ChecksumSource
  | .string (some name) => ofName? name
  | .object [(some name, .null)] => ofName? name
  | _ => none

end ChecksumSource

namespace Checksum

def toJson (checksum : Checksum) : Json :=
  .record [
    ("algorithm", .text checksum.algorithm),
    ("digest", .text checksum.digest),
    ("datetime", .timestamp checksum.recordedAt),
    ("source", checksum.source.toJson)]

def ofJson? (value : Json) : Option Checksum := do
  let [algorithm, digest, datetime, source] ←
    slots ["algorithm", "digest", "datetime", "source"] value | none
  return {
    algorithm := ← required text? algorithm
    digest := ← required text? digest
    recordedAt := ← required timestamp? datetime
    source := ← withDefault .registry ChecksumSource.ofJson? source }

end Checksum

/-! ### Copies -/

namespace CopyRecord

def toJson (copy : CopyRecord) : Json :=
  .record [("url", .text copy.url)]

def ofJson? (value : Json) : Option CopyRecord := do
  let [url] ← slots ["url"] value | none
  return { url := ← required text? url }

end CopyRecord

/-! ### Files -/

namespace File

/-- The names of the fields, in order. -/
def fieldNames : List String :=
  ["id", "identifier", "uuid", "size", "storage_option", "checksums", "storage_records",
   "last_fixity_check", "institution_id", "intellectual_object_id", "created_at", "updated_at"]

def toJson (file : File) : Json :=
  .record [
    ("id", .int64 file.id),
    ("identifier", .text file.identifier),
    ("uuid", .text file.uuid),
    ("size", .int64 file.size),
    ("storage_option", .text file.storageOption),
    ("checksums", .array (file.checksums.map Checksum.toJson)),
    ("storage_records", .array (file.copies.map CopyRecord.toJson)),
    ("last_fixity_check", .timestampOrNull file.lastFixityCheck),
    ("institution_id", .int64 file.institutionId),
    ("intellectual_object_id", .int64 file.intellectualObjectId),
    ("created_at", .timestamp file.createdAt),
    ("updated_at", .timestamp file.updatedAt)]

def ofJson? (value : Json) : Option File := do
  let [id, identifier, uuid, size, option, checksums, copies, lastCheck, institution, bag,
    created, updated] ← slots fieldNames value | none
  return {
    id := ← required int64? id
    identifier := ← required text? identifier
    uuid := ← required text? uuid
    size := ← required int64? size
    storageOption := ← required text? option
    checksums := ← withDefault [] (list? Checksum.ofJson?) checksums
    copies := ← withDefault [] (list? CopyRecord.ofJson?) copies
    lastFixityCheck := ← withDefault none (nullable timestamp?) lastCheck
    institutionId := ← required int64? institution
    intellectualObjectId := ← required int64? bag
    createdAt := ← required timestamp? created
    updatedAt := ← required timestamp? updated }

end File

end Fixity.Catalog
