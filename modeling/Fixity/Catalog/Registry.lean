/-
This file defines the catalog behind its HTTP interface: which requests ask for a
file and save an event, and what their answers mean.
-/

import Fixity.Catalog.Document
import Fixity.Catalog.Failure
import Fixity.Http.Client
import Fixity.Json.Printer
import Fixity.Json.Reader
import Fixity.Premis.Event

namespace Fixity.Catalog

/-- How the catalog is reached. -/
structure Registry where
  baseUrl : String
  apiVersion : String
  apiUser : String
  apiKey : String
  timeoutSeconds : Nat
deriving Repr, DecidableEq

namespace Registry

/-! ### Requests -/

/-- The address of a part of the interface. -/
def endpoint (registry : Registry) (part : String) : String :=
  Text.dropTrailingString '/' registry.baseUrl ++ "/admin-api/" ++ registry.apiVersion ++ part

/-- The address of a file. -/
def fileEndpoint (registry : Registry) (id : Int64) : String :=
  registry.endpoint ("/files/show/" ++ Text.writeInt64 id)

/-- The address of the events. -/
def eventsEndpoint (registry : Registry) : String :=
  registry.endpoint "/events/"

/-- The fields that every request carries. -/
def fields (registry : Registry) : Http.Fields :=
  [.ofText "accept" "application/json",
   .ofText "x-pharos-api-user" registry.apiUser,
   .ofText "x-pharos-api-key" registry.apiKey]

/-- The request for a file. -/
def fileRequest (registry : Registry) (id : Int64) : Http.Request :=
  { method := "GET", url := registry.fileEndpoint id, fields := registry.fields }

/-- The request that saves an event. -/
def eventRequest (registry : Registry) (event : Premis.Event) : Http.Request :=
  { method := "POST"
    url := registry.eventsEndpoint
    fields := registry.fields ++ [.ofText "content-type" "application/json"]
    body := Text.Utf8.encode event.toJson.write }

/-! ### Answers -/

/-- The reply of an answer that reports success. -/
def succeeded (endpoint subject : String) (answer : Http.Answer) : Except Failure Http.Reply :=
  match answer with
  | .error fault => .error (.exchange endpoint fault)
  | .ok reply =>
    if reply.status.isSuccess then .ok reply
    else if reply.status = .notFound then .error (.notFound subject)
    else .error (.status endpoint reply.status reply.textOrFault)

/-- The file that a body holds. -/
def fileOf (reply : Http.Reply) : Except Http.Fault File := do
  match Json.ofBytes? (← reply.content) >>= File.ofJson? with
  | some file => return file
  | none => .error .undecodable

/-- What the answer to the request for a file means. -/
def readFile (registry : Registry) (id : Int64) (answer : Http.Answer) : Except Failure File := do
  let endpoint := registry.fileEndpoint id
  let reply ← succeeded endpoint ("file " ++ Text.writeInt64 id) answer
  (fileOf reply).mapError (.exchange endpoint)

/-- What the answer to the request that saves an event means. -/
def readSaved (registry : Registry) (event : Premis.Event) (answer : Http.Answer) :
    Except Failure Unit := do
  let _ ← succeeded registry.eventsEndpoint ("event " ++ event.identifier.text) answer
  return ()

end Registry

end Fixity.Catalog
