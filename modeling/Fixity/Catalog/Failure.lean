/-
This file lists how a call to the catalog can fail.
-/

import Fixity.Http.Fault
import Fixity.Http.Status

namespace Fixity.Catalog

/-- A failed call to the catalog: the subject is not there, the catalog answered with a status
that reports no success, or the exchange itself failed. -/
inductive Failure where
  | notFound (subject : String)
  | status (endpoint : String) (code : Http.Status) (body : String)
  | exchange (endpoint : String) (fault : Http.Fault)
deriving Repr, DecidableEq

namespace Failure

/-- The wording of a failure. -/
def message : Failure → String
  | notFound subject => s!"{subject} not found in registry"
  | status endpoint code body => "registry " ++ endpoint ++ " returned " ++ code.text ++ ": " ++ body
  | exchange endpoint fault => "HTTP error calling registry " ++ endpoint ++ ": " ++ fault.message

/-- The catalog's gateway reported that it could not reach the catalog. -/
def isBadGateway : Failure → Bool
  | status _ code _ => code = .badGateway
  | _ => false

end Failure

end Fixity.Catalog
