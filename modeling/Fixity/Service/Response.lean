/-
This file defines the responses of the service: a status, a content with its type,
and for a method that is not served the methods that are.
-/

import Fixity.Service.Problem
import Fixity.Service.Request

namespace Fixity.Service

/-- The content of a response. -/
inductive Content where
  | json (value : Json)
  | text (value : String)

/-- The media type of a content. -/
def Content.mediaType : Content → String
  | json _ => "application/json"
  | text _ => "text/plain; charset=utf-8"

/-- A response. Where the body is not sent its content still fixes the media type. -/
structure Response where
  status : Http.Status
  content : Option Content := none
  sendsBody : Bool := true
  allowed : List Method := []

namespace Response

/-- There is nothing at the path. -/
def notFound : Response :=
  { status := .notFound }

/-- The methods that are served at the path are others. -/
def methodNotAllowed (allowed : List Method) : Response :=
  { status := .methodNotAllowed, allowed }

/-- A JSON value with a status. -/
def json (status : Http.Status) (value : Json) : Response :=
  { status, content := some (.json value) }

/-- A text that says what is wrong with the request. -/
def badRequest (text : String) : Response :=
  { status := .badRequest, content := some (.text text) }

/-- A problem. -/
def problem (problem : Problem) : Response :=
  json problem.status problem.toJson

/-- The response without its body. -/
def withoutBody (response : Response) : Response :=
  { response with sendsBody := false }

/-- The methods that are served, as the header lists them. -/
def allowText (response : Response) : Option String :=
  if response.allowed.isEmpty then none
  else some (",".intercalate (response.allowed.map Method.name))

end Response

end Fixity.Service
