/-
This file defines what the catalog knows about a preserved file: its identifier,
its size, the digests recorded for it over time, and where its copies are.
-/

import Fixity.Text.Ascii
import Fixity.Time.Timestamp

namespace Fixity.Catalog

/-! ### Digests and copies -/

/-- Who recorded a digest: the ingest pipeline or the catalog itself. -/
inductive ChecksumSource where
  | ingest
  | registry
deriving Repr, DecidableEq

/-- A digest recorded for a file at a point in time. -/
structure Checksum where
  algorithm : String
  digest : String
  recordedAt : Time.Timestamp
  source : ChecksumSource := .registry
deriving DecidableEq

/-- One physical copy of a file, by its address. -/
structure CopyRecord where
  url : String
deriving Repr, DecidableEq

/-- The algorithm name of MD5 digests. -/
def md5 : String := "md5"

/-- The algorithm name of SHA-256 digests. -/
def sha256 : String := "sha256"

/-! ### Files -/

/-- A preserved file as the catalog describes it. -/
structure File where
  id : Int64
  identifier : String
  uuid : String
  size : Int64
  storageOption : String
  checksums : List Checksum := []
  copies : List CopyRecord := []
  lastFixityCheck : Option Time.Timestamp := none
  institutionId : Int64
  intellectualObjectId : Int64
  createdAt : Time.Timestamp
  updatedAt : Time.Timestamp
deriving DecidableEq

/-- A storage option is cold when its name begins with that of the archive tier; its objects
cannot be streamed. -/
def isColdTierOption (option : String) : Bool :=
  (Text.dropBeginning? "Glacier".toList option.toList).isSome

/-- The later of two digests; of two recorded at one time, the second. -/
def laterChecksum (best : Option Checksum) (next : Checksum) : Option Checksum :=
  match best with
  | none => some next
  | some best => if best.recordedAt ≤ next.recordedAt then some next else some best

namespace File

/-- The newest digest of an algorithm. Among several of one time the last of the list counts. -/
def latestChecksum (file : File) (algorithm : String) : Option Checksum :=
  (file.checksums.filter fun checksum => checksum.algorithm == algorithm).foldl laterChecksum none

/-- The digest text of the newest digest of an algorithm. -/
def latestDigest (file : File) (algorithm : String) : Option String :=
  (file.latestChecksum algorithm).map Checksum.digest

/-- All copies of the file lie in a tier that cannot be streamed. -/
def isColdTierOnly (file : File) : Bool :=
  isColdTierOption file.storageOption

/-! ### The parts of an identifier -/

/-- The segments of the identifier between its slashes. -/
def segments (file : File) : List (List Char) :=
  Text.splitAll '/' file.identifier.toList

/-- Segments with a slash between each two. -/
def joinSegments (segments : List (List Char)) : String :=
  String.ofList (List.intercalate ['/'] segments)

/-- The institution: the identifier up to its first slash. -/
def institution (file : File) : String :=
  match Text.splitFirst? '/' file.identifier.toList with
  | some (before, _) => String.ofList before
  | none => file.identifier

/-- The bag of the file: the first two segments, if there are two. -/
def bag (file : File) : Option String :=
  if 1 < file.segments.length then some (joinSegments (file.segments.take 2)) else none

/-- The path of the file in its bag: the segments from the third on, if there are any. -/
def pathInBag (file : File) : Option String :=
  if 2 < file.segments.length then some (joinSegments (file.segments.drop 2)) else none

end File

end Fixity.Catalog
