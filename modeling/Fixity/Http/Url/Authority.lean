/-
This file reads the authorities of addresses: credentials before the last at sign, a
host, and a port after a colon.
-/

import Fixity.Http.Url.Path

namespace Fixity.Http.Url

/-! ### Credentials -/

/-- Credentials from the text before an at sign, where that names any. -/
def credentials? (text : List Char) : Option Credentials :=
  let (name, password) := (Text.splitFirst? ':' text).getD (text, [])
  if name.isEmpty && password.isEmpty then none
  else
    let written := escape isCredentialByte
    some ⟨written name, if password.isEmpty then none else some (written password)⟩

/-- A character that ends an authority. -/
def endsAuthority (special : Bool) (c : Char) : Bool :=
  isSlash special c || endsPath c

/-- The credentials at the beginning of a text, and the rest. An authority is not an at sign
alone. -/
def takeCredentials? (special : Bool) (text : List Char) :
    Option (Option Credentials × List Char) :=
  let authority := text.takeWhile fun c => !endsAuthority special c
  let beyond := text.drop authority.length
  match Text.splitLast? '@' authority with
  | none => some (none, text)
  | some ([], []) => if beyond.isEmpty then some (none, []) else none
  | some (login, place) => some (credentials? login, place ++ beyond)

/-! ### Hosts and ports -/

/-- The host at the beginning of a text: it ends before a colon that is not in brackets. -/
def takeHost (special : Bool) : Bool → List Char → List Char
  | _, [] => []
  | inBrackets, c :: rest =>
    if (c == ':' && !inBrackets) || endsAuthority special c then []
    else c :: takeHost special (if c = '[' then true else if c = ']' then false else inBrackets) rest

/-- The port at the beginning of a text, after its colon, and the rest. There is none where no
digits are given or where it is the usual one. -/
def takePort? (scheme : String) (text : List Char) : Option (Option Nat × List Char) := do
  let digits := text.takeWhile Char.isDigit
  let beyond := text.drop digits.length
  let number ← Host.digitsIn 10 digits
  if 65535 < number || !beyond.head?.all (endsAuthority true) then none
  else if digits.isEmpty || usualPort? scheme == some number then return (none, beyond)
  else return (some number, beyond)

/-- The host of a text. -/
def host? (special : Bool) (text : List Char) : Option Host :=
  if special then Host.ofName? text else Host.ofOther? text

/-- An address without a path from the text after two slashes, and the rest. Only an authority of
nothing at all is without a host, and only where the scheme gives it no meaning. -/
def takeAuthority? (scheme : String) (text : List Char) : Option (Url × List Char) := do
  let special := isSpecial scheme
  let (credentials, text) ← takeCredentials? special text
  let name := takeHost special false text
  let beyond := text.drop name.length
  let url : Url := { scheme, hasAuthority := true, path := .segments [], credentials }
  if name.isEmpty then
    if special || credentials.isSome || beyond.head? == some ':' then none
    else return (url, beyond)
  else
    let host ← host? special name
    match beyond with
    | ':' :: digits => do
      let (port, beyond) ← takePort? scheme digits
      return ({ url with host := some host, port }, beyond)
    | beyond => return ({ url with host := some host }, beyond)

end Fixity.Http.Url
