/-
This file reads the paths of addresses. Dot segments are resolved; a segment that
names a drive is never left by one. In the address of a local file a drive at the
beginning has a colon after its letter, and empty segments there are dropped.
-/

import Fixity.Http.Url.Basic

namespace Fixity.Http.Url

/-! ### Segments -/

/-- A character that ends a segment. -/
def isSlash (special : Bool) (c : Char) : Bool :=
  c == '/' || (special && c == '\\')

/-- A character that ends a path. -/
def endsPath (c : Char) : Bool :=
  c == '?' || c == '#'

/-- Cuts a text at its slashes. -/
def splitSlashes (special : Bool) (text : List Char) : List (List Char) :=
  Text.splitAll '/' (text.map fun c => if isSlash special c then '/' else c)

/-- A text with its escaped dots as dots, for the comparison with dot segments. -/
def plainDots : List Char → List Char
  | '%' :: '2' :: 'e' :: rest | '%' :: '2' :: 'E' :: rest => '.' :: plainDots rest
  | c :: rest => c :: plainDots rest
  | [] => []

/-! ### Drives -/

/-- The letter of a drive and its mark. -/
def isDriveMark (letter mark : Char) : Bool :=
  letter.isAlpha && (mark == ':' || mark == '|')

/-- The text names a drive. -/
def isDrive : List Char → Bool
  | [letter, mark] => isDriveMark letter mark
  | _ => false

/-- The segment begins with the name of a drive. -/
def beginsWithDrive : List Char → Bool
  | letter :: mark :: '\\' :: _ => isDriveMark letter mark
  | segment => isDrive segment

/-- A drive with a colon after its letter. -/
def withColon : List Char → List Char
  | letter :: _ :: rest => letter :: ':' :: rest
  | segment => segment

/-! ### Dot segments -/

/-- The segments, given in reverse, without the last, unless that is a drive. -/
def leave : List (List Char) → List (List Char)
  | [] => []
  | last :: before => if beginsWithDrive last then last :: before else before

/-- Resolves segments onto those before them, which are given in reverse. A dot segment at the end
leaves an empty one. In a local path a drive that comes first is written with a colon. -/
def resolveDots (isLocal : Bool) (before : List (List Char)) :
    List (List Char) → List (List Char)
  | [] => before.reverse
  | segment :: rest =>
    let keep := fun before => if rest.isEmpty then [] :: before else before
    if plainDots segment = ['.', '.'] then resolveDots isLocal (keep (leave before)) rest
    else if plainDots segment = ['.'] then resolveDots isLocal (keep before) rest
    else if isLocal && before.isEmpty && isDrive segment then
      resolveDots isLocal [withColon segment] rest
    else resolveDots isLocal (segment :: before) rest

/-- The segments of a path, which begins after its first slash. -/
def segmentsOf (special isLocal : Bool) (text : List Char) : List (List Char) :=
  resolveDots isLocal [] (splitSlashes special (text.takeWhile fun c => !endsPath c))

/-- A path of segments. -/
def pathOf (segments : List (List Char)) : UrlPath :=
  .segments (segments.map (escape isPathByte))

/-- The path after an authority. -/
def pathAfterAuthority (special : Bool) (text : List Char) : UrlPath :=
  match text with
  | [] => .segments (if special then [""] else [])
  | c :: rest =>
    if isSlash special c then pathOf (segmentsOf special false rest)
    else if endsPath c && !special then .segments []
    else pathOf (segmentsOf special false text)

/-- The path of a local file from its segments, without empty ones at the beginning. -/
def localPathOf (segments : List (List Char)) : UrlPath :=
  match segments.dropWhile List.isEmpty with
  | [] => .segments [""]
  | rest => pathOf rest

end Fixity.Http.Url
