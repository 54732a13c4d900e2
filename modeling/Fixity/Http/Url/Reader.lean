/-
This file reads addresses. Blanks around an address and line breaks in it are
dropped, the scheme and the host are in lower case, the usual port of a scheme is
left out, dot segments are resolved, and what a part cannot hold is escaped.
-/

import Fixity.Http.Url.Authority

namespace Fixity.Http.Url

/-! ### Schemes -/

/-- A character of a scheme after the first. -/
def isSchemeChar (c : Char) : Bool :=
  c.isAlphanum || c == '+' || c == '-' || c == '.'

/-- The scheme of an address, in lower case, and what follows its colon. -/
def scheme? (text : List Char) : Option (String × List Char) :=
  match Text.splitFirst? ':' text with
  | some (c :: rest, after) =>
    if c.isAlpha && rest.all isSchemeChar then some (String.ofList (Text.lowerAscii (c :: rest)), after)
    else none
  | _ => none

/-! ### Local files -/

/-- A text without the slash that it may begin with. -/
def afterSlash (text : List Char) : List Char :=
  if text.head?.any (isSlash true) then text.drop 1 else text

/-- The address of a local file on a host. A path that begins with a drive is on no host. -/
def fileOnHost (host : Host) (beyond : List Char) : Url :=
  let segments := segmentsOf true true (afterSlash beyond)
  let onDrive := segments.head?.any isDrive
  { scheme := "file", hasAuthority := true, path := localPathOf segments,
    host := if onDrive then none else some host }

/-- The address of a local file on no host. -/
def fileHere (text : List Char) : Url :=
  { scheme := "file", hasAuthority := true, path := localPathOf (segmentsOf true true text) }

/-- The address of a local file. A drive in the place of the host belongs to the path, and the
local host is no host. -/
def file? (text : List Char) : Option Url :=
  match text with
  | a :: b :: rest =>
    if isSlash true a && isSlash true b then
      let name := rest.takeWhile fun c => !endsAuthority true c
      let beyond := rest.drop name.length
      if isDrive name then some (fileHere rest)
      else if name.isEmpty then some (fileHere beyond)
      else
        (Host.ofName? name).map fun host =>
          if host = .name "localhost" then fileHere beyond else fileOnHost host beyond
    else if isSlash true a then some (fileHere (b :: rest))
    else some (fileHere text)
  | text => some (fileHere (text.dropWhile (isSlash true)))

/-! ### Whole addresses -/

/-- An address with an authority, which begins the text. -/
def withAuthority? (scheme : String) (text : List Char) : Option Url := do
  let (url, beyond) ← takeAuthority? scheme text
  return { url with path := pathAfterAuthority (isSpecial scheme) beyond }

/-- An address from its scheme and the text after it, without the query and the fragment. -/
def place? (scheme : String) (text : List Char) : Option Url :=
  if scheme = "file" then file? text
  else if isSpecial scheme then withAuthority? scheme (text.dropWhile (isSlash true))
  else
    match text with
    | '/' :: '/' :: rest => withAuthority? scheme rest
    | '/' :: rest =>
      some { scheme, hasAuthority := false, path := pathOf (segmentsOf false false rest) }
    | text =>
      let path := text.takeWhile fun c => !endsPath c
      some { scheme, hasAuthority := false, path := .unstructured (escape Host.isPlainByte path) }

/-- The query and the fragment of an address, from the text after its scheme. -/
def queryAndFragment (text : List Char) : Option (List Char) × Option (List Char) :=
  let (sent, fragment) := match Text.splitFirst? '#' text with
    | some (sent, fragment) => (sent, some fragment)
    | none => (text, none)
  ((Text.splitFirst? '?' sent).map Prod.snd, fragment)

/-- A control or a space. -/
def isEdge (c : Char) : Bool :=
  c.toNat ≤ 0x20

/-- An address without the controls and spaces around it and without tabs and line breaks. -/
def clean (text : List Char) : List Char :=
  (((text.dropWhile isEdge).reverse.dropWhile isEdge).reverse).filter fun c =>
    c != '\t' && c != '\n' && c != '\r'

/-- Reads an address. -/
def ofString? (text : String) : Option Url := do
  let (scheme, rest) ← scheme? (clean text.toList)
  let url ← place? scheme rest
  let (query, fragment) := queryAndFragment rest
  return { url with
    query := query.map (escape (isQueryByte (isSpecial scheme)))
    fragment := fragment.map (escape isFragmentByte) }

end Fixity.Http.Url
