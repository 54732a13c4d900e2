/-
This file lists everything that can stop a fixity check before its verdict, and
the verdict of a mismatch itself.
-/

import Fixity.Catalog.Failure
import Fixity.Storage.Failure

namespace Fixity

/-- Why a fixity check has no positive verdict. -/
inductive Failure where
  | noStorageLocation (identifier reason : String)
  | missingClient (provider : String)
  | missingBaseline (identifier : String)
  | catalog (failure : Catalog.Failure)
  | storage (failure : Storage.Failure)
  | integrity (identifier url expected actual : String)
deriving Repr, DecidableEq

/-- The wording of a failure. -/
def Failure.message : Failure → String
  | noStorageLocation identifier reason =>
    s!"Could not find restoration source for {identifier}: {reason}"
  | missingClient provider => s!"Cannot find object store client for provider {provider}"
  | missingBaseline identifier => s!"Registry returned no sha256 checksum for file {identifier}"
  | catalog failure => failure.message
  | storage failure => failure.message
  | integrity identifier url expected actual =>
    s!"Fixity mismatch for {identifier} in {url}. Expected {expected}, got {actual}."

end Fixity
