/-
This file reads references: addresses that are given as seen from another one, the
base. A reference may be a whole address, begin with a host, with a path, a query or
a fragment, or go on from the folder of the base; what it leaves out is that of the
base.
-/

import Fixity.Http.Url.Reader

namespace Fixity.Http.Url

/-- The address up to its path. -/
def beforePath (base : Url) : String :=
  base.scheme ++ ":" ++ base.placeText

/-- The path up to its last slash. -/
def folder (base : Url) : String :=
  match base.path with
  | .segments list => String.join (list.dropLast.map fun segment => "/" ++ segment) ++ "/"
  | .unstructured text => text

/-- The address of a reference that begins with a host. After two plain slashes the host comes at
once; where one of them is a backslash, more may follow. -/
def fromHost? (base : Url) (text : List Char) : Option Url :=
  match text with
  | '/' :: '/' :: rest =>
    if rest.head?.any (isSlash true) then none
    else ofString? (base.scheme ++ "://" ++ String.ofList rest)
  | _ => ofString? (base.scheme ++ "://" ++ String.ofList (text.dropWhile (isSlash true)))

/-- The address of a reference without a scheme. -/
def fromBase? (base : Url) (text : List Char) : Option Url :=
  let read := fun start => ofString? (start ++ String.ofList text)
  match text with
  | [] => some { base with fragment := none }
  | '#' :: _ => read (base.beforePath ++ base.target)
  | '?' :: _ => read (base.beforePath ++ base.pathText)
  | c :: rest =>
    if !isSlash true c then read (base.beforePath ++ base.folder)
    else if rest.head?.any (isSlash true) then base.fromHost? text
    else read base.beforePath

/-- The address of a reference, seen from an address of the web. One that names the scheme of the
base without a host after it is read as if it did not name it. -/
def join? (base : Url) (reference : String) : Option Url :=
  let text := clean reference.toList
  match scheme? text with
  | none => base.fromBase? text
  | some (scheme, rest) =>
    if scheme = base.scheme ∧ (rest.takeWhile (isSlash true)).length < 2 then base.fromBase? rest
    else ofString? reference

end Fixity.Http.Url
