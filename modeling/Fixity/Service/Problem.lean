/-
This file defines the problems that the service answers with instead of a result.
-/

import Fixity.Http.Status
import Fixity.Json.Value

namespace Fixity.Service

/-- A problem with its status and its wording. -/
structure Problem where
  status : Http.Status
  message : String
deriving Repr, DecidableEq

namespace Problem

/-- The request itself is at fault. -/
def badRequest (message : String) : Problem :=
  ⟨.badRequest, message⟩

/-- The body of the answer. -/
def toJson (problem : Problem) : Json :=
  .record [("error", .text problem.message), ("status", .integer problem.status.code)]

end Problem

end Fixity.Service
