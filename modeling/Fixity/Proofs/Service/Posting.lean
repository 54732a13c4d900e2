/-
This file proves what the service does with a request for the check of a file: it is
answered with the report of the check of the id that its path spells, after one entry
in the log.
-/

import Fixity.Proofs.Service.Routes

namespace Fixity.Service

open Program

/-- A request for the check of a file, the path of which spells an id that a file can have. -/
structure CheckRequest where
  request : Request
  segment : List Char
  id : Int64
  method : request.method = .post
  path : request.target.path = "/fixity/".toList ++ segment
  whole : '/' ∉ segment
  spelled : readId segment = .ok id
  positive : 0 < id

instance : Inhabited CheckRequest where
  default := {
    request := { method := .post, target := { path := "/fixity/7".toList, query := [] } }
    segment := "7".toList
    id := 7
    method := rfl
    path := rfl
    whole := by decide
    spelled := rfl
    positive := by decide }

theorem CheckRequest.asksCheck (posted : CheckRequest) : AsksCheck posted.request posted.id :=
  ⟨posted.method, posted.segment, posted.path, posted.whole, readId_eq_ok_iff.mp posted.spelled⟩

/-- The request is answered with the report of the check. -/
theorem CheckRequest.respond_eq (posted : CheckRequest) (deployment : Deployment) :
    respond deployment posted.request = do
      let report ← Check.check deployment.settings posted.id
      logReport report
      return .json (if report.hasFatalIssue then .unprocessable else .ok) report.toJson := by
  rw [posted.asksCheck.respond_eq deployment]
  exact if_neg (Int64.not_le.mpr posted.positive)

end Fixity.Service
