/-
This file proves that the service reaches the catalog and the stores only through
checks and audits. A request that asks for one makes its calls and is answered with
its result, under a status that says how a check ended; a request that asks for
neither makes no call at all.
-/

import Fixity.Proofs.Audit.Restraint
import Fixity.Proofs.Check.Coherence
import Fixity.Proofs.Service.Routes

namespace Fixity.Service

open Program

/-! ### Answers -/

/-- The status under which the outcome of a check is reported. -/
def checkStatus (outcome : Check.Outcome) : Http.Status :=
  if outcome = .matched ∨ outcome = .skippedRecent then ⟨200⟩ else ⟨422⟩

/-- How a check ended, as its document says it. -/
def checkEnding : Check.Outcome → String
  | .fetchFailed => "fetch_failed"
  | .skippedColdTier => "skipped_cold_tier"
  | .skippedRecent => "skipped_recent"
  | .missingBaseline => "missing_baseline"
  | .storageFailed => "storage_failed"
  | .eventRecordFailed => "event_record_failed"
  | .matched => "matched"
  | .mismatched => "mismatched"

/-- The document of an issue. -/
def issueDocument (issue : Issue) : Json :=
  .record [
    ("identifier", .text issue.identifier),
    ("message", .text issue.message),
    ("is_fatal", .bool issue.isFatal),
    ("work_item_id", .integer issue.workItemId.toInt),
    ("source", .text issue.source)]

/-- The document that the report of a check is answered with. -/
def reportDocument (report : Check.Report) : Json :=
  .record [
    ("file_id", .integer report.fileId.toInt),
    ("outcome", .text (checkEnding report.outcome)),
    ("count", .integer report.count.toNat),
    ("errors", .array (report.issues.map issueDocument))]

/-- How an audit ended, as its document says it. -/
def auditEnding : Audit.Outcome → String
  | .errored => "errored"
  | .quickMatch => "quick_match"
  | .needsAttention => "needs_attention"
  | .coldTierDeferred => "cold_tier_deferred"
  | .fullFixityPassed => "full_fixity_passed"
  | .fullFixityFailed => "full_fixity_failed"

/-- How a file was checked, as the document of an audit says it. -/
def methodDocument : Option Audit.Method → Json
  | none => .null
  | some .quickMatch => .text "Quick Match"
  | some .fullFixity => .text "Full Fixity"

/-- A moment that there may not be. -/
def momentDocument : Option Time.Timestamp → Json
  | none => .null
  | some time => .text time.text

/-- The document that the record of an audit is answered with. -/
def recordDocument (record : Audit.Record) : Json :=
  .record [
    ("outcome", .text (auditEnding record.outcome)),
    ("generic_file_id", .integer record.fileId.toInt),
    ("generic_file_identifier", .text record.identifier),
    ("generic_file_created_at", momentDocument record.createdAt),
    ("generic_file_updated_at", momentDocument record.updatedAt),
    ("check_started_at", .text record.startedAt.text),
    ("check_completed_at", momentDocument record.completedAt),
    ("check_passed", .bool record.passed),
    ("method", methodDocument record.method),
    ("reason_for_check", .text record.reason),
    ("is_cold_tier_only", .bool record.isColdTierOnly),
    ("needs_cold_tier_fixity_check", .bool record.needsColdTierCheck),
    ("registry_size", .integer record.registered.size.toInt),
    ("registry_md5", .text record.registered.md5),
    ("registry_sha256", .text record.registered.sha256),
    ("store_size", .integer record.stored.size.toInt),
    ("store_etag", .text record.stored.etag),
    ("store_meta_md5", .text record.stored.md5),
    ("store_meta_sha256", .text record.stored.sha256),
    ("store_meta_institution", .text record.stored.institution),
    ("store_meta_bag_name", .text record.stored.bag),
    ("store_meta_path_in_bag", .text record.stored.path),
    ("stream_sha256", .text record.streamSha256),
    ("storage_url", .text record.storageUrl),
    ("mismatched_meta_institution", .bool record.mismatch.institution),
    ("mismatched_meta_bag_name", .bool record.mismatch.bag),
    ("mismatched_meta_path", .bool record.mismatch.path),
    ("mismatched_meta_md5", .bool record.mismatch.md5),
    ("mismatched_meta_sha256", .bool record.mismatch.sha256),
    ("error", .text record.error)]

variable {σ : Type} {request : Request} {id : Int64}

/-- The problem that an id below one is answered with. -/
def idProblem (id : Int64) : Json :=
  .record [("error", .text ("invalid generic file id " ++ Text.writeInt64 id)),
    ("status", .integer 400)]

/-- The service does with a request what the services behind it do, and nothing else. Calls are made
only for a check or an audit of an id that a file can have, and events are saved only for the check;
each is answered with its result, an id below one with a problem, and an audit whose query cannot be
read with a refusal. -/
structure Faithful (deployment : Deployment) (request : Request) (world : World σ) (state : σ)
    (run : Run σ Response) : Prop where
  calls : run.calls ≠ [] →
    ∃ id, 0 < id ∧ (AsksCheck request id ∨ ∃ full, AsksAudit request full id)
  saves : ∀ event, .saveEvent event ∈ run.calls → ∃ id, 0 < id ∧ AsksCheck request id
  checks : ∀ id, 0 < id → AsksCheck request id →
    let check := (Check.check deployment.settings id).run world state
    run.calls = check.calls ∧
      run.value = .json (checkStatus check.value.outcome) (reportDocument check.value)
  audits : ∀ full id, 0 < id → AsksAudit request full id →
    let audit := (Audit.audit full id).run world state
    run.calls = audit.calls ∧ run.value = .json ⟨200⟩ (recordDocument audit.value)
  problems : ∀ id ≤ 0, AsksCheck request id ∨ (∃ full, AsksAudit request full id) →
    run.value = .json ⟨400⟩ (idProblem id)
  refusals : ∀ id, Posts request "/audit/" id → (∀ full, ¬ Wants request.target.query full) →
    run.value.status = ⟨400⟩

end Fixity.Service
