/-
This file defines the settings of a check and the report that it ends with.
-/

import Fixity.Failure
import Fixity.Issue

namespace Fixity.Check

/-! ### Settings -/

/-- The settings of checks: files checked within so many days are skipped, unless this is a test
run from end to end; and how often and in what intervals the saving of an event is tried. -/
structure Settings where
  maxDays : Int64 := 90
  isEndToEndTest : Bool := false
  attempts : UInt32 := 3
  retryDelay : Nat := 1000
deriving Repr, DecidableEq

/-! ### Reports -/

/-- How a check ended. -/
inductive Outcome where
  | fetchFailed
  | skippedColdTier
  | skippedRecent
  | missingBaseline
  | storageFailed
  | eventRecordFailed
  | matched
  | mismatched
deriving Repr, DecidableEq

/-- The name of an outcome in documents. -/
def Outcome.name : Outcome → String
  | fetchFailed => "fetch_failed"
  | skippedColdTier => "skipped_cold_tier"
  | skippedRecent => "skipped_recent"
  | missingBaseline => "missing_baseline"
  | storageFailed => "storage_failed"
  | eventRecordFailed => "event_record_failed"
  | matched => "matched"
  | mismatched => "mismatched"

/-- The name of an outcome in the log. -/
def Outcome.logName : Outcome → String
  | fetchFailed => "FetchFailed"
  | skippedColdTier => "SkippedColdTier"
  | skippedRecent => "SkippedRecent"
  | missingBaseline => "MissingBaseline"
  | storageFailed => "StorageFailed"
  | eventRecordFailed => "EventRecordFailed"
  | matched => "Matched"
  | mismatched => "Mismatched"

/-- What a check did: how it ended, how many files it verified, and the issues to act on. -/
structure Report where
  fileId : Int64
  outcome : Outcome
  count : UInt32
  issues : List Issue := []
deriving Repr, DecidableEq

namespace Report

/-- Some issue is fatal. -/
def hasFatalIssue (report : Report) : Bool :=
  report.issues.any Issue.isFatal

def toJson (report : Report) : Json :=
  .record [
    ("file_id", .int64 report.fileId),
    ("outcome", .text report.outcome.name),
    ("count", .integer report.count.toNat),
    ("errors", .array (report.issues.map Issue.toJson))]

end Report

end Fixity.Check
