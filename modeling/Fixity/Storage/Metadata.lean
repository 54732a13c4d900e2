/-
This file defines the user metadata of a stored object: values under keys that
are kept in lower case and without the prefix that headers carry. The last value
written under a key counts, and the keys are in no order.
-/

import Fixity.Json.Decoder
import Fixity.Text.Ascii
import Std.Data.ExtTreeMap

namespace Fixity.Storage

/-! ### Keys -/

/-- What headers put before the key of user metadata. -/
def userMetadataMark : String := "x-amz-meta-"

/-- The keys that the ingest pipeline writes. -/
inductive MetaKey where
  | md5
  | sha256
  | institution
  | bag
  | bagPath
  | bagPathEncoded
deriving Repr, DecidableEq

/-- The spelling of a key. -/
def MetaKey.name : MetaKey → String
  | md5 => "md5"
  | sha256 => "sha256"
  | institution => "institution"
  | bag => "bag"
  | bagPath => "bagpath"
  | bagPathEncoded => "bagpath-encoded"

/-- A key in lower case, without one leading mark of headers. -/
def normalizeKey (key : String) : String :=
  let lowered := Text.lowerAscii key.toList
  String.ofList ((Text.dropBeginning? userMetadataMark.toList lowered).getD lowered)

/-! ### Metadata -/

/-- User metadata: values under keys, which are in no order. -/
structure Metadata where
  values : Std.ExtTreeMap String String := ∅
deriving DecidableEq

namespace Metadata

/-- No values at all. -/
def empty : Metadata := {}

instance : Inhabited Metadata := ⟨empty⟩

/-- Puts a value under a key as it stands, in place of the one it has. -/
def put (metadata : Metadata) (key value : String) : Metadata :=
  ⟨metadata.values.insert key value⟩

/-- Takes a value under a key in any letter case, with or without the mark of headers. -/
def insert (metadata : Metadata) (key value : String) : Metadata :=
  metadata.put (normalizeKey key) value

/-- Takes a value under one of the pipeline's keys. -/
def set (metadata : Metadata) (key : MetaKey) (value : String) : Metadata :=
  metadata.insert key.name value

/-- The value under a key as it stands. -/
def find? (metadata : Metadata) (key : String) : Option String :=
  metadata.values[key]?

/-- The value under one of the pipeline's keys; empty where there is none. -/
def get (metadata : Metadata) (key : MetaKey) : String :=
  (metadata.find? key.name).getD ""

/-- The path of the file in its bag: the plain value, or the encoded one where that is empty. -/
def pathInBag (metadata : Metadata) : String :=
  if metadata.get .bagPath ≠ "" then metadata.get .bagPath else metadata.get .bagPathEncoded

/-! ### Documents -/

/-- An order to list entries in. Metadata have none of their own, so that a document may list the
entries in any, but lists each of them once. -/
structure Order where
  entries : Metadata → List (String × String)
  complete : ∀ metadata, (entries metadata).Perm metadata.values.toList

/-- The order of the keys. -/
def Order.byKey : Order where
  entries metadata := metadata.values.toList
  complete _ := .refl _

/-- Metadata as a JSON object with its members in an order. -/
def toJsonIn (order : Order) (metadata : Metadata) : Json :=
  .record ((order.entries metadata).map fun (key, value) => (key, .text value))

/-- Metadata as a JSON object. -/
def toJson (metadata : Metadata) : Json :=
  metadata.toJsonIn .byKey

/-- Puts the members of an object one after the other. -/
def ofMembers? (metadata : Metadata) : List (Option String × Json) → Option Metadata
  | [] => some metadata
  | (some key, .string (some value)) :: rest => ofMembers? (metadata.put key value) rest
  | _ => none

/-- Metadata from a JSON object of texts. -/
def ofJson? : Json → Option Metadata
  | .object members => ofMembers? empty members
  | _ => none

end Metadata

end Fixity.Storage
