/-
This file writes audit records as a table of comma-separated values. A field is
quoted when it holds a comma, a quote or a line break, and a quote inside it is
written twice.
-/

import Fixity.Audit.Record

namespace Fixity.Audit

/-! ### Comma-separated values -/

namespace Csv

/-- A character that a field can only hold between quotes. -/
def isSpecial (c : Char) : Bool :=
  c == ',' || c == '"' || c == '\n' || c == '\r'

/-- The characters of a quoted field. -/
def doubled : List Char → List Char
  | [] => []
  | '"' :: rest => '"' :: '"' :: doubled rest
  | c :: rest => c :: doubled rest

/-- A field as it is written. -/
def field (text : List Char) : List Char :=
  if text.any isSpecial then '"' :: doubled text ++ ['"'] else text

/-- A line of fields, without its line end. -/
def line (fields : List String) : String :=
  String.ofList (List.intercalate [','] (fields.map fun text => field text.toList))

end Csv

/-! ### Rows -/

/-- The headings of the columns. -/
def headings : List String :=
  ["GenericFileID", "CheckPassed", "Method", "ReasonForCheck", "RegistrySize", "StoreSize",
   "IsColdTierOnly", "NeedsColdTierFixityCheck", "StoreEtag", "RegistryMd5", "StoreMetaMd5",
   "RegistrySha256", "StoreMetaSha256", "StreamSha256", "MismatchedMetaInstitution",
   "MismatchedMetaBagName", "MismatchedMetaPath", "MismatchedMetaMd5", "MismatchedMetaSha256",
   "GenericFileCreatedAt", "GenericFileUpdatedAt", "StoreMetaPathInBag", "StoreMetaBagName",
   "StoreMetaInstitution", "StorageUrl", "CheckStartedAt", "CheckCompletedAt",
   "GenericFileIdentifier", "Error"]

/-- A truth value in a cell. -/
def flagText (flag : Bool) : String :=
  if flag then "true" else "false"

/-- A point in time in a cell, to the second; empty where there is none. -/
def timeText (time : Option Time.Timestamp) : String :=
  (time.map Time.Timestamp.textToSeconds).getD ""

namespace Record

/-- The cells of a record, one per heading. -/
def cells (record : Record) : List String :=
  [Text.writeInt64 record.fileId,
   flagText record.passed,
   (record.method.map Method.name).getD "",
   record.reason,
   Text.writeInt64 record.registered.size,
   Text.writeInt64 record.stored.size,
   flagText record.isColdTierOnly,
   flagText record.needsColdTierCheck,
   record.stored.etag,
   record.registered.md5,
   record.stored.md5,
   record.registered.sha256,
   record.stored.sha256,
   record.streamSha256,
   flagText record.mismatch.institution,
   flagText record.mismatch.bag,
   flagText record.mismatch.path,
   flagText record.mismatch.md5,
   flagText record.mismatch.sha256,
   timeText record.createdAt,
   timeText record.updatedAt,
   record.stored.path,
   record.stored.bag,
   record.stored.institution,
   record.storageUrl,
   timeText record.startedAt,
   timeText record.completedAt,
   record.identifier,
   record.error]

/-- The row of a record, without its line end. -/
def row (record : Record) : String :=
  Csv.line record.cells

/-- A row has a cell for each heading. -/
theorem length_cells (record : Record) : record.cells.length = headings.length := by
  simp only [cells, headings, List.length_cons, List.length_nil]

end Record

end Fixity.Audit
