/-
This file chooses the copy of a file that is read. Every copy is paired with every
bucket that hosts its address, copies first and buckets second; of all pairs the
first with the least restore priority wins. Its provider must have a client.
-/

import Fixity.Failure
import Fixity.Storage.Bucket

namespace Fixity.Storage

/-! ### Chosen copies -/

/-- Where a chosen copy lies. -/
structure Location where
  bucket : String
  provider : String
  url : String
deriving Repr, DecidableEq

/-- A chosen copy: its location and the key of its object in the bucket. -/
structure Source where
  location : Location
  key : String
deriving Repr, DecidableEq

/-- A location as a JSON value. -/
def Location.toJson (location : Location) : Json :=
  .record [
    ("bucket", .text location.bucket),
    ("provider", .text location.provider),
    ("url", .text location.url)]

/-- What choosing a copy gives: the name of the bucket that was preferred, if any hosts a copy,
and the source, which may still lack a client. -/
structure Resolution where
  preferred : Option String
  source : Except Fixity.Failure Source

/-! ### Choosing -/

/-- The configured buckets and the clients by provider. -/
structure Resolver (Client : Type) where
  buckets : List Bucket
  clients : List (String × Client)

namespace Resolver

/-- The pairs of a copy and a bucket that hosts its address. -/
def hosted (buckets : List Bucket) (file : Catalog.File) : List (Catalog.CopyRecord × Bucket) :=
  file.copies.flatMap fun copy =>
    (buckets.filter fun bucket => bucket.hostsUrl copy.url).map fun bucket => (copy, bucket)

/-- Keeps the preferred one of two pairs; of two with one priority, the first. -/
def prefer (best : Option (Catalog.CopyRecord × Bucket)) (next : Catalog.CopyRecord × Bucket) :
    Option (Catalog.CopyRecord × Bucket) :=
  match best with
  | none => some next
  | some best => if next.2.restorePriority < best.2.restorePriority then some next else some best

/-- The preferred pair of a copy and its bucket. -/
def best (buckets : List Bucket) (file : Catalog.File) : Option (Catalog.CopyRecord × Bucket) :=
  (hosted buckets file).foldl prefer none

/-- The client of a provider. -/
def client? (resolver : Resolver Client) (provider : String) : Option Client :=
  resolver.clients.lookup provider

/-- What is said where no bucket hosts a copy. -/
def noLocation (buckets : List Bucket) (file : Catalog.File) : Fixity.Failure :=
  .noStorageLocation file.identifier <|
    String.ofList (Text.writeNat file.copies.length) ++ " storage records, " ++
      String.ofList (Text.writeNat buckets.length) ++ " preservation buckets"

/-- The chosen copy of a file, with the client that reads it. -/
def resolve (resolver : Resolver Client) (file : Catalog.File) :
    Except Fixity.Failure (Source × Client) :=
  match best resolver.buckets file with
  | none => .error (noLocation resolver.buckets file)
  | some (copy, bucket) =>
    match resolver.client? bucket.provider with
    | none => .error (.missingClient bucket.provider)
    | some client =>
      .ok (⟨⟨bucket.name, bucket.provider, copy.url⟩, file.uuid⟩, client)

/-- The chosen copy of a file, with the name of the bucket that was preferred. -/
def resolution (resolver : Resolver Client) (file : Catalog.File) : Resolution :=
  { preferred := (best resolver.buckets file).map fun (_, bucket) => bucket.name
    source := (resolver.resolve file).map Prod.fst }

end Resolver

end Fixity.Storage
