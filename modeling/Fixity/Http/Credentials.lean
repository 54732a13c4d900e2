/-
This file takes credentials out of addresses. They travel in a header field, and the
address is sent and shown without them. Credentials whose name is no text stay where
they are.
-/

import Fixity.Http.Fields
import Fixity.Http.Url.Reader
import Fixity.Text.Base64

namespace Fixity.Http

/-- A part of an address without its escapes, where that is text. -/
def unescaped? (part : String) : Option (List Char) :=
  Text.Utf8.decode? (Text.Percent.decode part.toList)

namespace Credentials

/-- Name and password without escapes. A password that is no text is left out, and then the name
is not empty. -/
def unescaped? (credentials : Credentials) : Option (List Char × Option (List Char)) := do
  let name ← Http.unescaped? credentials.name
  let password := credentials.password >>= Http.unescaped?
  if name.isEmpty && password.isNone then none else some (name, password)

/-- The field that carries a name and a password; `title` is its name. -/
def field (title : String) (name : List Char) (password : Option (List Char)) : Field :=
  let login := Text.Utf8.encode (name ++ ':' :: password.getD [])
  .ofText title (String.ofList ("Basic ".toList ++ Text.Base64.encode login))

end Credentials

/-- An address without the credentials that it names, and the field that carries these. -/
def Url.takeCredentials (url : Url) : Url × Fields :=
  match url.credentials >>= Credentials.unescaped? with
  | some (name, password) =>
    ({ url with credentials := none }, [Credentials.field "authorization" name password])
  | none => (url, [])

end Fixity.Http
