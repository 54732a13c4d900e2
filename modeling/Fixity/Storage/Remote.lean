/-
This file defines object stores behind their HTTP interface. A store has an
endpoint for each of its buckets; an object lies at the endpoint, the name of the
bucket and its key. One store is built per provider, with all of its buckets.
-/

import Fixity.Http.Client
import Fixity.Storage.Failure
import Fixity.Storage.Object
import Fixity.Storage.Selection

namespace Fixity.Storage

/-! ### Stores -/

/-- A store that is reached over HTTP: the endpoint of each of its buckets, the latest first. -/
structure Remote where
  endpoints : List (String × String) := []
deriving Repr, DecidableEq, Inhabited

namespace Remote

/-- Adds the endpoint of a bucket, in place of the one it has. -/
def withBucket (store : Remote) (bucket endpoint : String) : Remote :=
  ⟨(bucket, endpoint) :: store.endpoints⟩

/-- The address of an object. -/
def objectUrl (store : Remote) (bucket key : String) : Except Failure String :=
  match store.endpoints.lookup bucket with
  | some endpoint => .ok (Text.dropTrailingString '/' endpoint ++ "/" ++ bucket ++ "/" ++ key)
  | none => .error (.unknownBucket bucket)

/-! ### Requests -/

/-- The fields that every request carries: any type of content is taken. -/
def fields : Http.Fields :=
  [.ofText "accept" "*/*"]

/-- The request for the stat of an object. -/
def statRequest (url : String) : Http.Request :=
  { method := "HEAD", url, fields }

/-- The request for the content of an object. -/
def getRequest (url : String) : Http.Request :=
  { method := "GET", url, fields }

/-! ### Answers -/

/-- The reply of an answer that reports success; `failure` takes the reason of any other, except
that the object is missing. -/
def succeeded (bucket key : String) (failure : String → Failure) (answer : Http.Answer) :
    Except Failure Http.Reply :=
  match answer with
  | .error fault => .error (failure fault.message)
  | .ok reply =>
    if reply.status.isSuccess then .ok reply
    else if reply.status = .notFound then .error (.objectNotFound bucket key)
    else .error (failure ("unexpected status " ++ reply.status.text))

/-- The size that the fields of a reply give. -/
def sizeOf? (fields : Http.Fields) : Option Int64 := do
  match Text.readInt64 (← fields.text? "content-length").toList with
  | .ok size => return size
  | .error _ => none

/-- The tag that the fields of a reply give, without the quotes around it. -/
def etagOf (fields : Http.Fields) : String :=
  ((fields.text? "etag").map (Text.dropAroundString '"')).getD ""

/-- Takes the metadata of one field, if it is a field of metadata and readable. -/
def takeField (metadata : Metadata) (field : Http.Field) : Metadata :=
  match Text.dropBeginning? userMetadataMark.toList field.name.toList, field.text? with
  | some _, some value => metadata.insert field.name value
  | _, _ => metadata

/-- The metadata that the fields of a reply give. -/
def metadataOf (fields : Http.Fields) : Metadata :=
  fields.foldl takeField .empty

/-- What the answer to the request for a stat means. -/
def readStat (bucket key : String) (answer : Http.Answer) : Except Failure Stat := do
  let reply ← succeeded bucket key (.stat bucket key) answer
  match sizeOf? reply.fields with
  | some size => return ⟨size, etagOf reply.fields, metadataOf reply.fields⟩
  | none => .error (.stat bucket key "missing or invalid Content-Length")

/-- The chunks of a body; one that is cut short ends with a fault. -/
def bodyOf (reply : Http.Reply) : Body :=
  if reply.complete then [.ok reply.body]
  else [.ok reply.body, .error Http.Fault.undecodable.message]

/-- What the answer to the request for a content means. -/
def readBody (bucket key : String) (answer : Http.Answer) : Except Failure Body := do
  let reply ← succeeded bucket key (.get bucket key) answer
  return bodyOf reply

/-! ### Calls -/

/-- Asks a store for the stat of an object. -/
def stat (network : Http.Network σ) (state : σ) (store : Remote) (bucket key : String) :
    Except Failure Stat × σ :=
  match store.objectUrl bucket key with
  | .error failure => (.error failure, state)
  | .ok url =>
    let (answer, state) := network.send state (statRequest url)
    (readStat bucket key answer, state)

/-- Asks a store for the content of an object. -/
def get (network : Http.Network σ) (state : σ) (store : Remote) (bucket key : String) :
    Except Failure Body × σ :=
  match store.objectUrl bucket key with
  | .error failure => (.error failure, state)
  | .ok url =>
    let (answer, state) := network.send state (getRequest url)
    (readBody bucket key answer, state)

/-! ### One store per provider -/

/-- The endpoint of a configured bucket. -/
def endpointOf (bucket : Bucket) : String :=
  "https://" ++ bucket.hostWithRegion

/-- Adds a bucket to the store of its provider, which is begun where there is none. -/
def addBucket (stores : List (String × Remote)) (bucket : Bucket) : List (String × Remote) :=
  let store := (stores.lookup bucket.provider).getD {}
  (bucket.provider, store.withBucket bucket.name (endpointOf bucket)) ::
    stores.filter fun (provider, _) => provider != bucket.provider

/-- The resolver of some buckets, with a store for each provider. -/
def resolver (buckets : List Bucket) : Resolver Remote :=
  { buckets, clients := buckets.foldl addBucket [] }

end Remote

end Fixity.Storage
