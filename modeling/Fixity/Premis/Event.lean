/-
This file defines the provenance events that are written back to the catalog, and
the event of a fixity check: it succeeds when the registered digest and the one
just computed are the same text.
-/

import Fixity.Catalog.Document
import Fixity.Uuid

namespace Fixity.Premis

open Json

/-! ### Events -/

/-- The outcome of the action that an event records. -/
inductive EventOutcome where
  | success
  | failed
deriving Repr, DecidableEq

/-- A record of an action taken against a preserved file. -/
structure Event where
  identifier : Uuid
  eventType : String
  dateTime : Time.Timestamp
  detail : String
  outcome : EventOutcome
  outcomeDetail : String
  outcomeInformation : String
  object : String
  agent : String
  fileId : Int64
  fileIdentifier : String
  institutionId : Int64
  intellectualObjectId : Int64
  intellectualObjectIdentifier : String
deriving DecidableEq

/-- The event of a fixity check of a file read from an address. -/
def Event.fixityCheck (identifier : Uuid) (time : Time.Timestamp) (file : Catalog.File)
    (url expected actual : String) : Event :=
  { identifier
    eventType := "fixity check"
    dateTime := time
    detail := "Fixity check against registered hash"
    outcome := if expected = actual then .success else .failed
    outcomeDetail := Catalog.sha256 ++ ":" ++ actual
    outcomeInformation :=
      if expected = actual then s!"Fixity matches at {url}: {actual}"
      else s!"Fixity did not match at {url}. Expected {expected}, got {actual}"
    object := "Rust sha2 crate (SHA-256)"
    agent := "https://docs.rs/sha2"
    fileId := file.id
    fileIdentifier := file.identifier
    institutionId := file.institutionId
    intellectualObjectId := file.intellectualObjectId
    intellectualObjectIdentifier := file.bag.getD "" }

/-! ### Documents -/

namespace EventOutcome

/-- The name of an outcome. -/
def name : EventOutcome → String
  | success => "Success"
  | failed => "Failed"

/-- The outcome of a name. -/
def ofName? : String → Option EventOutcome
  | "Success" => some success
  | "Failed" => some failed
  | _ => none

/-- An outcome is read from its name, which may also be the one member of an object, with null as
its value. -/
def ofJson? : Json → Option EventOutcome
  | .string (some name) => ofName? name
  | .object [(some name, .null)] => ofName? name
  | _ => none

end EventOutcome

namespace Event

/-- The names of the fields, in order. -/
def fieldNames : List String :=
  ["identifier", "event_type", "date_time", "detail", "outcome", "outcome_detail",
   "outcome_information", "object", "agent", "generic_file_id", "generic_file_identifier",
   "institution_id", "intellectual_object_id", "intellectual_object_identifier"]

def toJson (event : Event) : Json :=
  .record [
    ("identifier", .text event.identifier.text),
    ("event_type", .text event.eventType),
    ("date_time", .timestamp event.dateTime),
    ("detail", .text event.detail),
    ("outcome", .text event.outcome.name),
    ("outcome_detail", .text event.outcomeDetail),
    ("outcome_information", .text event.outcomeInformation),
    ("object", .text event.object),
    ("agent", .text event.agent),
    ("generic_file_id", .int64 event.fileId),
    ("generic_file_identifier", .text event.fileIdentifier),
    ("institution_id", .int64 event.institutionId),
    ("intellectual_object_id", .int64 event.intellectualObjectId),
    ("intellectual_object_identifier", .text event.intellectualObjectIdentifier)]

/-- An identifier is written as text. -/
def uuid? (value : Json) : Option Uuid := do
  Uuid.ofString? (← text? value)

def ofJson? (value : Json) : Option Event := do
  let [identifier, eventType, dateTime, detail, outcome, outcomeDetail, outcomeInformation, tool,
    agent, fileId, fileIdentifier, institutionId, intellectualObjectId,
    intellectualObjectIdentifier] ← slots fieldNames value | none
  return {
    identifier := ← required uuid? identifier
    eventType := ← required text? eventType
    dateTime := ← required timestamp? dateTime
    detail := ← required text? detail
    outcome := ← required EventOutcome.ofJson? outcome
    outcomeDetail := ← required text? outcomeDetail
    outcomeInformation := ← required text? outcomeInformation
    object := ← required text? tool
    agent := ← required text? agent
    fileId := ← required int64? fileId
    fileIdentifier := ← required text? fileIdentifier
    institutionId := ← required int64? institutionId
    intellectualObjectId := ← required int64? intellectualObjectId
    intellectualObjectIdentifier := ← required text? intellectualObjectIdentifier }

end Event

end Fixity.Premis
