/-
This file defines the buckets that hold copies of files: the host they are reached
at, which addresses point into them, and how a path is spelled as one segment.
-/

import Fixity.Catalog.File
import Fixity.Json.Decoder
import Fixity.Text.Lowercase
import Fixity.Text.Percent

namespace Fixity.Storage

/-! ### Paths as segments -/

/-- The bytes that stand in a path segment as they are: ASCII letters and digits and ten
marks. -/
def isSegmentByte (b : UInt8) : Bool :=
  (0x30 ≤ b && b ≤ 0x39) || (0x41 ≤ b && b ≤ 0x5A) || (0x61 ≤ b && b ≤ 0x7A) ||
    b == 0x2D || b == 0x5F || b == 0x2E || b == 0x7E || b == 0x24 || b == 0x26 || b == 0x2B ||
    b == 0x3A || b == 0x3D || b == 0x40

/-- A path spelled as one segment of an address. -/
def escapePath (path : String) : String :=
  String.ofList (Text.Percent.encode isSegmentByte path.toList)

/-! ### Buckets -/

/-- A configured bucket. A lower priority number is preferred when a copy is chosen. -/
structure Bucket where
  name : String
  provider : String
  host : String
  region : String
  storageClass : String := ""
  optionName : String := ""
  description : String := ""
  restorePriority : UInt32
deriving Repr, DecidableEq

/-- A letter, a digit or an underscore of ASCII. -/
def isWordChar (c : Char) : Bool :=
  c.isAlphanum || c == '_'

/-- A label names a region when it is an area of two characters, a zone and one digit, between
hyphens. -/
def isRegionLabel (label : List Char) : Bool :=
  match Text.splitAll '-' label with
  | [area, zone, number] =>
    area.length == 2 && area.all isWordChar && !zone.isEmpty && zone.all isWordChar &&
      number.length == 1 && number.all Char.isDigit
  | _ => false

/-- What hosts of the object service begin with. -/
def serviceLabel : List Char := "s3.".toList

/-- The label after the service label of a host names a region. -/
def hasRegion (host : List Char) : Bool :=
  match Text.dropBeginning? serviceLabel host with
  | none => false
  | some rest =>
    match Text.splitFirst? '.' rest with
    | none => false
    | some (label, _) => isRegionLabel label

namespace Bucket

/-- The host in lower case, with the region put in where it names none. -/
def hostWithRegion (bucket : Bucket) : String :=
  let host := Text.lower bucket.host.toList
  if hasRegion host then String.ofList host
  else
    let bare := (Text.dropBeginning? serviceLabel host).getD host
    "s3." ++ bucket.region ++ "." ++ String.ofList bare

/-- The objects of the bucket cannot be streamed. -/
def isColdTier (bucket : Bucket) : Bool :=
  Catalog.isColdTierOption bucket.optionName

/-- The address under which the bucket's objects lie at a host. -/
def baseAt (bucket : Bucket) (host : String) : String :=
  "https://" ++ host ++ "/" ++ bucket.name ++ "/"

/-- An address points into the bucket, under the host with its region or under the host as it is
configured. -/
def hostsUrl (bucket : Bucket) (url : String) : Bool :=
  (Text.dropBeginning? (bucket.baseAt bucket.hostWithRegion).toList url.toList).isSome ||
    (Text.dropBeginning? (bucket.baseAt bucket.host).toList url.toList).isSome

/-! ### Documents -/

/-- The names of the fields, in order. -/
def fieldNames : List String :=
  ["bucket", "provider", "host", "region", "storage_class", "option_name", "description",
   "restore_priority"]

def toJson (bucket : Bucket) : Json :=
  .record [
    ("bucket", .text bucket.name),
    ("provider", .text bucket.provider),
    ("host", .text bucket.host),
    ("region", .text bucket.region),
    ("storage_class", .text bucket.storageClass),
    ("option_name", .text bucket.optionName),
    ("description", .text bucket.description),
    ("restore_priority", .integer bucket.restorePriority.toNat)]

def ofJson? (value : Json) : Option Bucket := do
  let [name, provider, host, region, storageClass, optionName, description, priority] ←
    Json.slots fieldNames value | none
  return {
    name := ← Json.required Json.text? name
    provider := ← Json.required Json.text? provider
    host := ← Json.required Json.text? host
    region := ← Json.required Json.text? region
    storageClass := ← Json.withDefault "" Json.text? storageClass
    optionName := ← Json.withDefault "" Json.text? optionName
    description := ← Json.withDefault "" Json.text? description
    restorePriority := ← Json.required Json.uint32? priority }

/-- A list of buckets. -/
def listOfJson? : Json → Option (List Bucket) :=
  Json.list? ofJson?

def listToJson (buckets : List Bucket) : Json :=
  .array (buckets.map toJson)

end Bucket

end Fixity.Storage
