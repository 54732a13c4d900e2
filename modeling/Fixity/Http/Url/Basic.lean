/-
This file defines addresses and writes them. A part that is written holds escapes
for what it cannot hold as it is.
-/

import Fixity.Http.Host

namespace Fixity.Http

/-! ### Addresses -/

/-- The path of an address: segments after slashes, or a text without structure. -/
inductive UrlPath where
  | segments (list : List String)
  | unstructured (text : String)
deriving Repr, DecidableEq

/-- Credentials in an address. A password that is given is not empty. -/
structure Credentials where
  name : String
  password : Option String
deriving Repr, DecidableEq

/-- An address. Two slashes come before an authority, which may be without a host. A port is given
where it is not the usual one. -/
structure Url where
  scheme : String
  hasAuthority : Bool
  credentials : Option Credentials := none
  host : Option Host := none
  port : Option Nat := none
  path : UrlPath
  query : Option String := none
  fragment : Option String := none
deriving Repr, DecidableEq

namespace Url

/-! ### Schemes -/

/-- The usual port of a scheme whose addresses name a host. -/
def usualPort? (scheme : String) : Option Nat :=
  match scheme with
  | "http" | "ws" => some 80
  | "https" | "wss" => some 443
  | "ftp" => some 21
  | _ => none

/-- The scheme is one whose addresses are read by the rules of the web. -/
def isSpecial (scheme : String) : Bool :=
  scheme == "file" || (usualPort? scheme).isSome

/-- The port in use: the one given or the usual one. -/
def effectivePort? (url : Url) : Option Nat :=
  url.port.or (usualPort? url.scheme)

/-! ### Escapes -/

/-- The byte is one of the given characters. -/
def isAmong (chars : String) (b : UInt8) : Bool :=
  chars.toList.contains (Char.ofNat b.toNat)

/-- A byte that a fragment holds as it is. -/
def isFragmentByte (b : UInt8) : Bool :=
  Host.isPlainByte b && !isAmong " \"<>`" b

/-- A byte that a segment of a path holds as it is. -/
def isPathByte (b : UInt8) : Bool :=
  isFragmentByte b && !isAmong "#?\x7b\x7d" b

/-- A byte that credentials hold as it is. -/
def isCredentialByte (b : UInt8) : Bool :=
  isPathByte b && !isAmong "/:;=@[\\]^|" b

/-- A byte that a query holds as it is. -/
def isQueryByte (special : Bool) (b : UInt8) : Bool :=
  Host.isPlainByte b && !isAmong " \"#<>" b && !(special && b == 0x27)

/-- A text with escapes for the bytes that are not kept. -/
def escape (keep : UInt8 → Bool) (text : List Char) : String :=
  String.ofList (Text.Percent.encode keep text)

/-! ### Writing -/

/-- The text of a path. -/
def pathText (url : Url) : String :=
  match url.path with
  | .segments list => String.join (list.map fun segment => "/" ++ segment)
  | .unstructured text => text

/-- A part with the mark before it, where the part is given. -/
def marked (mark : String) : Option String → String
  | some part => mark ++ part
  | none => ""

/-- Path and query, as a request names them. -/
def target (url : Url) : String :=
  url.pathText ++ marked "?" url.query

/-- The text of a host and a port, where these are given. -/
def hostText (url : Url) : String :=
  (url.host.map Host.text).getD "" ++
    marked ":" (url.port.map fun port => String.ofList (Text.writeNat port))

/-- The text between the scheme and the path. A path of its own that begins with two slashes is
kept apart from an authority by a dot segment. -/
def placeText (url : Url) : String :=
  if url.hasAuthority then
    let login := match url.credentials with
      | some credentials => credentials.name ++ marked ":" credentials.password ++ "@"
      | none => ""
    "//" ++ login ++ url.hostText
  else
    match url.path with
    | .segments ("" :: _ :: _) => "/."
    | _ => ""

/-- The text of an address. -/
def text (url : Url) : String :=
  url.scheme ++ ":" ++ url.placeText ++ url.target ++ marked "#" url.fragment

end Url

end Fixity.Http
