/-
This file lists how a call to an object store can fail.
-/

namespace Fixity.Storage

/-- A failed call to an object store. -/
inductive Failure where
  | objectNotFound (bucket key : String)
  | unknownBucket (bucket : String)
  | stat (bucket key reason : String)
  | get (bucket key reason : String)
  | read (bucket key reason : String)
deriving Repr, DecidableEq

/-- The wording of a failure. -/
def Failure.message : Failure → String
  | objectNotFound bucket key => s!"object `{key}` not found in bucket `{bucket}`"
  | unknownBucket bucket => s!"bucket `{bucket}` is not served by this client"
  | stat bucket key reason => s!"Could not stat file at {bucket}/{key}: {reason}"
  | get bucket key reason => s!"Error getting {key} from bucket {bucket}: {reason}"
  | read bucket key reason =>
    s!"Error streaming file {bucket}/{key} through hash function: {reason}"

end Fixity.Storage
