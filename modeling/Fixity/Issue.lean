/-
This file defines the issues that a check hands back to the queue that asked for
it.
-/

import Fixity.Json.Decoder

namespace Fixity

/-- An issue raised while one file was processed. A fatal issue comes back on every retry. The
source names the place that raised it. -/
structure Issue where
  identifier : String
  message : String
  isFatal : Bool
  workItemId : Int64 := 0
  source : String
deriving Repr, DecidableEq

namespace Issue

/-- A fatal issue that belongs to no work item. -/
def fatal (source identifier message : String) : Issue :=
  { identifier, message, isFatal := true, source }

/-- The wording of an issue. -/
def text (issue : Issue) : String :=
  "(workitem " ++ Text.writeInt64 issue.workItemId ++ ") (message: " ++ issue.message ++
    ") (severity: " ++ (if issue.isFatal then "fatal" else "non-fatal") ++
    ") (identifier: " ++ issue.identifier ++ ") (source: " ++ issue.source ++ ")"

def toJson (issue : Issue) : Json :=
  .record [
    ("identifier", .text issue.identifier),
    ("message", .text issue.message),
    ("is_fatal", .bool issue.isFatal),
    ("work_item_id", .int64 issue.workItemId),
    ("source", .text issue.source)]

end Issue

end Fixity
