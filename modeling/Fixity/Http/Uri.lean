/-
This file reads the names that HTTP itself gives to resources: a path with a query,
a scheme and an authority before these, an authority alone, or an asterisk. They
are stricter than the addresses that people write, from which they are made: each
part may hold only the characters of its kind, and the whole is bounded in length.
-/

import Fixity.Text.Ascii
import Fixity.Text.Utf8

namespace Fixity.Http

/-- A name. The scheme is given with the authority or not at all; a path that the text leaves out
after these is a slash, and there is none beside an authority alone. -/
structure Uri where
  scheme : Option (List Char) := none
  authority : List Char := []
  path : List Char := []
  query : Option (List Char) := none
deriving Repr, DecidableEq

namespace Uri

/-- The most bytes that a name may have. -/
def longest : Nat := 65534

/-! ### Characters -/

/-- The character lies in a range of code points. -/
def isWithin (first last : Nat) (c : Char) : Bool :=
  first ≤ c.toNat && c.toNat ≤ last

/-- A character of a path. -/
def isPathChar (c : Char) : Bool :=
  isWithin 0x21 0x22 c || isWithin 0x24 0x3B c || c == '=' || isWithin 0x40 0x5F c ||
    isWithin 0x61 0x7E c || 0x7F ≤ c.toNat

/-- A character of a query. -/
def isQueryChar (c : Char) : Bool :=
  c == '!' || isWithin 0x24 0x3B c || c == '=' || 0x3F ≤ c.toNat

/-- A character of an authority. -/
def isAuthorityChar (c : Char) : Bool :=
  c.isAlphanum || "!$&'()*+,-.:;=@[]_~".toList.contains c

/-- A character of a scheme. -/
def isSchemeChar (c : Char) : Bool :=
  c.isAlphanum || c == '+' || c == '-' || c == '.'

/-! ### Paths and queries -/

/-- The path and the query of a text, whose fragment is dropped. -/
def pathAndQuery? (text : List Char) : Option (List Char × Option (List Char)) :=
  let sent := text.takeWhile (· != '#')
  match Text.splitFirst? '?' sent with
  | some (path, query) =>
    if path.all isPathChar && query.all isQueryChar then some (path, some query) else none
  | none => if sent.all isPathChar then some (sent, none) else none

/-! ### Authorities -/

/-- What was met in an authority: colons and escapes since the credentials or the brackets ended,
and brackets. -/
structure Scan where
  colons : Nat := 0
  escape : Bool := false
  opened : Bool := false
  closed : Bool := false

/-- Passes a character of an authority. -/
def Scan.pass (scan : Scan) (c : Char) : Option Scan :=
  if c = '%' then some { scan with escape := true }
  else if !isAuthorityChar c then none
  else if c = ':' then
    if scan.colons < 8 then some { scan with colons := scan.colons + 1 } else none
  else if c = '[' then
    if scan.escape || scan.opened then none else some { scan with opened := true }
  else if c = ']' then
    if !scan.opened || scan.closed then none
    else some { scan with closed := true, colons := 0, escape := false }
  else if c = '@' then some { scan with colons := 0, escape := false }
  else some scan

/-- The authority is well formed: brackets are closed, one colon at most stands before the port,
something follows the credentials, and only these and what is in brackets hold escapes. -/
def isAuthority (text : List Char) : Bool :=
  match text.foldlM Scan.pass {} with
  | none => false
  | some scan =>
    scan.opened == scan.closed && scan.colons ≤ 1 && !scan.escape && text.getLast? != some '@'

/-- The authority at the beginning of a text, and the rest. -/
def splitAuthority (text : List Char) : List Char × List Char :=
  let isInside := fun c => c != '/' && c != '?' && c != '#'
  (text.takeWhile isInside, text.dropWhile isInside)

/-! ### Whole names -/

/-- The scheme of a text, which two slashes separate from the authority, and what follows. -/
def splitScheme? (text : List Char) : Option (List Char × List Char) :=
  let scheme := text.takeWhile isSchemeChar
  (Text.dropBeginning? "://".toList (text.drop scheme.length)).map fun rest => (scheme, rest)

/-- The longest scheme. -/
def longestScheme : Nat := 64

/-- Reads a name that begins with a scheme or an authority. -/
def absolute? (text : List Char) : Option Uri :=
  match splitScheme? text with
  | some (scheme, rest) => do
    let (authority, place) := splitAuthority rest
    if scheme.length ≤ longestScheme && !authority.isEmpty && isAuthority authority then
      let (path, query) ← pathAndQuery? place
      return { scheme := some scheme, authority, path := if path.isEmpty then ['/'] else path, query }
    else none
  | none =>
    if (splitAuthority text).2.isEmpty && isAuthority text then some { authority := text } else none

/-- Reads a name. -/
def ofText? (text : List Char) : Option Uri :=
  if text.isEmpty || longest < (Text.Utf8.encode text).length then none
  else if text = ['*'] then some { path := text }
  else if text.head? = some '/' then
    (pathAndQuery? text).map fun (path, query) => { path, query }
  else absolute? text

end Uri

end Fixity.Http
