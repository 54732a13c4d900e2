/-
This file defines the probes of the service. It is alive as long as it answers; it
is ready when it has buckets and can stream the objects of at least one of them.
-/

import Fixity.Service.Response
import Fixity.Storage.Bucket

namespace Fixity.Service

/-! ### Readiness -/

/-- The fault of one aspect of readiness, if it has one. -/
abbrev Aspect := Option String

/-- There are buckets. -/
def bucketsAspect (buckets : List Storage.Bucket) : Aspect :=
  if buckets.isEmpty then some "no preservation buckets configured" else none

/-- The objects of some bucket can be streamed. -/
def readableAspect (buckets : List Storage.Bucket) : Aspect :=
  if buckets.any fun bucket => !bucket.isColdTier then none else some "no directly readable bucket"

/-- The service is ready. -/
def isReady (buckets : List Storage.Bucket) : Bool :=
  (bucketsAspect buckets).isNone && (readableAspect buckets).isNone

/-- An aspect as a JSON value. -/
def aspectToJson (aspect : Aspect) : Json :=
  .record [("ok", .bool aspect.isNone), ("error", .textOrNull aspect)]

/-! ### Responses -/

/-- The response to the probe for life. -/
def liveness : Response :=
  .json .ok (.record [("status", .text "ok")])

/-- The response to the probe for readiness. -/
def readiness (buckets : List Storage.Bucket) : Response :=
  .json (if isReady buckets then .ok else .unavailable) <| .record [
    ("status", .text (if isReady buckets then "ok" else "error")),
    ("checks", .record [
      ("buckets", aspectToJson (bucketsAspect buckets)),
      ("readable_bucket", aspectToJson (readableAspect buckets))])]

end Fixity.Service
