/-
This file defines stored objects as a client sees them: what a stat reports, and
a body that arrives in chunks, each of which may fail to be read.
-/

import Fixity.Digest.Sha256
import Fixity.Storage.Metadata

namespace Fixity.Storage

/-! ### Stats -/

/-- What a store reports of an object without its content. -/
structure Stat where
  size : Int64
  etag : String
  metadata : Metadata
deriving DecidableEq

namespace Stat

/-- A stat as a JSON object, whose metadata are listed in an order. -/
def toJsonIn (order : Metadata.Order) (stat : Stat) : Json :=
  .record [
    ("size", .int64 stat.size),
    ("etag", .text stat.etag),
    ("metadata", stat.metadata.toJsonIn order)]

/-- A stat as a JSON object. -/
def toJson (stat : Stat) : Json :=
  stat.toJsonIn .byKey

def ofJson? (value : Json) : Option Stat := do
  let [size, etag, metadata] ← Json.slots ["size", "etag", "metadata"] value | none
  return {
    size := ← Json.required Json.int64? size
    etag := ← Json.required Json.text? etag
    metadata := ← Json.required Metadata.ofJson? metadata }

end Stat

/-! ### Bodies -/

/-- A part of a body, or the wording of the fault that stopped the reading. -/
abbrev Chunk := Except String (List UInt8)

/-- A body as it arrives. -/
abbrev Body := List Chunk

namespace Body

/-- Feeds the chunks to a digest up to the first fault. -/
def digestFrom (progress : Sha256.Progress) : Body → Except String String
  | [] => .ok progress.finish
  | .ok bytes :: rest => digestFrom (progress.feed bytes) rest
  | .error fault :: _ => .error fault

/-- The digest of a body, or the first fault. -/
def digest (body : Body) : Except String String :=
  digestFrom {} body

/-- The bytes of a body, or the first fault. -/
def content (body : Body) : Except String (List UInt8) :=
  body.foldr (fun chunk rest => do return (← chunk) ++ (← rest)) (.ok [])

end Body

end Fixity.Storage
