/-
This file defines the record of an audit: what the catalog registered, what the
store reports, where the two disagree, and how the audit ended. It is built up in
stages, one per answer from the outside, and each stage touches its own fields.
-/

import Fixity.Storage.Bucket
import Fixity.Storage.Object
import Fixity.Storage.Selection

namespace Fixity.Audit

/-! ### Outcomes and methods -/

/-- How an audit ended. -/
inductive Outcome where
  | errored
  | quickMatch
  | needsAttention
  | coldTierDeferred
  | fullFixityPassed
  | fullFixityFailed
deriving Repr, DecidableEq

/-- The name of an outcome in documents. -/
def Outcome.name : Outcome → String
  | errored => "errored"
  | quickMatch => "quick_match"
  | needsAttention => "needs_attention"
  | coldTierDeferred => "cold_tier_deferred"
  | fullFixityPassed => "full_fixity_passed"
  | fullFixityFailed => "full_fixity_failed"

/-- The outcome of a name. -/
def Outcome.ofName? : String → Option Outcome
  | "errored" => some errored
  | "quick_match" => some quickMatch
  | "needs_attention" => some needsAttention
  | "cold_tier_deferred" => some coldTierDeferred
  | "full_fixity_passed" => some fullFixityPassed
  | "full_fixity_failed" => some fullFixityFailed
  | _ => none

/-- How a file was checked: by size and tag alone, or by its content. -/
inductive Method where
  | quickMatch
  | fullFixity
deriving Repr, DecidableEq

/-- The name of a method. -/
def Method.name : Method → String
  | quickMatch => "Quick Match"
  | fullFixity => "Full Fixity"

/-- What a quick look can find wrong, the first find being the one that is told. -/
inductive Reason where
  | metadataMismatch
  | sizeMismatch
  | etagMismatch
deriving Repr, DecidableEq

/-- The wording of a reason. -/
def Reason.text : Reason → String
  | metadataMismatch => "metadata mismatch"
  | sizeMismatch => "size mismatch"
  | etagMismatch => "etag mismatch"

/-! ### Records -/

/-- What the catalog registered for a file; a digest it does not have is empty. -/
structure Registered where
  size : Int64 := 0
  md5 : String := ""
  sha256 : String := ""
deriving Repr, DecidableEq

/-- What the store reports of an object. -/
structure Stored where
  size : Int64 := 0
  etag : String := ""
  md5 : String := ""
  sha256 : String := ""
  institution : String := ""
  bag : String := ""
  path : String := ""
deriving Repr, DecidableEq

/-- Where the stored metadata disagrees with the catalog. -/
structure Mismatch where
  institution : Bool := false
  bag : Bool := false
  path : Bool := false
  md5 : Bool := false
  sha256 : Bool := false
deriving Repr, DecidableEq

/-- The record of the audit of one file. -/
structure Record where
  outcome : Outcome := .errored
  fileId : Int64
  identifier : String := ""
  createdAt : Option Time.Timestamp := none
  updatedAt : Option Time.Timestamp := none
  startedAt : Time.Timestamp
  completedAt : Option Time.Timestamp := none
  passed : Bool := false
  method : Option Method := none
  reason : String := ""
  isColdTierOnly : Bool := false
  needsColdTierCheck : Bool := false
  registered : Registered := {}
  stored : Stored := {}
  streamSha256 : String := ""
  storageUrl : String := ""
  mismatch : Mismatch := {}
  error : String := ""
deriving DecidableEq

namespace Record

/-! ### Comparisons -/

/-- The registered size is the stored one. -/
def sizeMatches (record : Record) : Bool :=
  record.registered.size == record.stored.size

/-- An MD5 digest has more bytes than this in hexadecimal digits. -/
def shortDigest : Nat := 30

/-- The store's tag can be compared with the registered MD5 digest: both are long enough, and the
tag has no hyphen, which would mark an upload in several parts. -/
def canCompareEtag (record : Record) : Bool :=
  shortDigest < record.stored.etag.utf8ByteSize && shortDigest < record.registered.md5.utf8ByteSize &&
    !record.stored.etag.toList.contains '-'

/-- The tag can be compared and is the registered digest. -/
def etagMatches (record : Record) : Bool :=
  record.canCompareEtag && record.stored.etag == record.registered.md5

/-- Size and tag leave a doubt. -/
def needsFixityCheck (record : Record) : Bool :=
  !record.sizeMatches || (record.canCompareEtag && !record.etagMatches)

/-- Some of the stored metadata disagrees with the catalog. -/
def hasMetadataMismatch (record : Record) : Bool :=
  record.mismatch.institution || record.mismatch.bag || record.mismatch.path ||
    record.mismatch.md5 || record.mismatch.sha256

/-- What a quick look finds wrong, if anything. -/
def concern (record : Record) : Option Reason :=
  if record.hasMetadataMismatch then some .metadataMismatch
  else if !record.needsFixityCheck then none
  else if !record.sizeMatches then some .sizeMismatch
  else some .etagMismatch

/-! ### Stages -/

/-- The record before anything is known. -/
def initial (id : Int64) (time : Time.Timestamp) : Record :=
  { fileId := id, startedAt := time }

/-- Takes over what the catalog says. -/
def withFile (record : Record) (file : Catalog.File) : Record :=
  { record with
    identifier := file.identifier
    createdAt := some file.createdAt
    updatedAt := some file.updatedAt
    isColdTierOnly := file.isColdTierOnly
    registered := {
      size := file.size
      md5 := (file.latestDigest Catalog.md5).getD ""
      sha256 := (file.latestDigest Catalog.sha256).getD "" } }

/-- Takes over where the copy lies. -/
def withSource (record : Record) (source : Storage.Source) : Record :=
  { record with storageUrl := source.location.url }

/-- What the store's stat says. -/
def storedOf (stat : Storage.Stat) : Stored :=
  { size := stat.size
    etag := stat.etag
    md5 := stat.metadata.get .md5
    sha256 := stat.metadata.get .sha256
    institution := stat.metadata.get .institution
    bag := stat.metadata.get .bag
    path := stat.metadata.pathInBag }

/-- The stored path is neither the path in the bag nor its escaped form; a file without a path in
a bag always counts as mismatched. -/
def pathMismatch (stored : String) (file : Catalog.File) : Bool :=
  match file.pathInBag with
  | some path => stored != path && stored != Storage.escapePath path
  | none => true

/-- Where stored metadata disagrees with a file and its registered digests. -/
def mismatchOf (registered : Registered) (stored : Stored) (file : Catalog.File) : Mismatch :=
  { institution := stored.institution != file.institution
    bag := stored.bag != file.bag.getD ""
    path := pathMismatch stored.path file
    md5 := stored.md5 != registered.md5
    sha256 := stored.sha256 != registered.sha256 }

/-- Takes over what the store says, and marks where it disagrees with the catalog. -/
def withStat (record : Record) (file : Catalog.File) (stat : Storage.Stat) : Record :=
  { record with
    stored := storedOf stat
    mismatch := mismatchOf record.registered (storedOf stat) file }

/-- The audit stopped at a failure. -/
def failed (record : Record) (failure : Failure) : Record :=
  { record with outcome := .errored, error := failure.message }

/-- Nothing is wrong at a quick look. -/
def quicklyMatched (record : Record) (time : Time.Timestamp) : Record :=
  { record with
    outcome := .quickMatch, passed := true, method := some .quickMatch, completedAt := some time }

/-- Something is wrong at a quick look. -/
def withReason (record : Record) (reason : Reason) : Record :=
  { record with reason := reason.text }

/-- Something is wrong, and no full check was wanted. -/
def leftForAttention (record : Record) (time : Time.Timestamp) : Record :=
  { record with outcome := .needsAttention, passed := false, completedAt := some time }

/-- The content is to be checked. -/
def withFullMethod (record : Record) : Record :=
  { record with method := some .fullFixity }

/-- The content lies where it cannot be streamed. -/
def deferred (record : Record) : Record :=
  { record with outcome := .coldTierDeferred, needsColdTierCheck := true }

/-- The content has this digest. -/
def withDigest (record : Record) (digest : String) (time : Time.Timestamp) : Record :=
  let passed := record.registered.sha256 == digest
  { record with
    outcome := if passed then .fullFixityPassed else .fullFixityFailed
    passed
    streamSha256 := digest
    completedAt := some time }

/-! ### Documents -/

def toJson (record : Record) : Json :=
  .record [
    ("outcome", .text record.outcome.name),
    ("generic_file_id", .int64 record.fileId),
    ("generic_file_identifier", .text record.identifier),
    ("generic_file_created_at", .timestampOrNull record.createdAt),
    ("generic_file_updated_at", .timestampOrNull record.updatedAt),
    ("check_started_at", .timestamp record.startedAt),
    ("check_completed_at", .timestampOrNull record.completedAt),
    ("check_passed", .bool record.passed),
    ("method", .textOrNull (record.method.map Method.name)),
    ("reason_for_check", .text record.reason),
    ("is_cold_tier_only", .bool record.isColdTierOnly),
    ("needs_cold_tier_fixity_check", .bool record.needsColdTierCheck),
    ("registry_size", .int64 record.registered.size),
    ("registry_md5", .text record.registered.md5),
    ("registry_sha256", .text record.registered.sha256),
    ("store_size", .int64 record.stored.size),
    ("store_etag", .text record.stored.etag),
    ("store_meta_md5", .text record.stored.md5),
    ("store_meta_sha256", .text record.stored.sha256),
    ("store_meta_institution", .text record.stored.institution),
    ("store_meta_bag_name", .text record.stored.bag),
    ("store_meta_path_in_bag", .text record.stored.path),
    ("stream_sha256", .text record.streamSha256),
    ("storage_url", .text record.storageUrl),
    ("mismatched_meta_institution", .bool record.mismatch.institution),
    ("mismatched_meta_bag_name", .bool record.mismatch.bag),
    ("mismatched_meta_path", .bool record.mismatch.path),
    ("mismatched_meta_md5", .bool record.mismatch.md5),
    ("mismatched_meta_sha256", .bool record.mismatch.sha256),
    ("error", .text record.error)]

end Record

end Fixity.Audit
