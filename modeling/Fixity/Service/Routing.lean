/-
This file defines the service: which endpoint a path names, which methods it takes,
and the program that answers a request. A request is refused for its path first,
then for its query, then for an id that no file has; only then are the catalog and
the stores asked.
-/

import Fixity.Audit.Pass
import Fixity.Check.Pass
import Fixity.Service.Health

namespace Fixity.Service

open Program

/-! ### Endpoints -/

/-- What a path names. Ids are kept as they are spelled in the path. -/
inductive Endpoint where
  | liveness
  | readiness
  | check (id : List Char)
  | audit (id : List Char)
deriving Repr, DecidableEq

namespace Endpoint

/-- The endpoint that a path names. -/
def ofPath? (path : List Char) : Option Endpoint :=
  match (Text.splitAll '/' path).map String.ofList with
  | ["", "healthz"] => some liveness
  | ["", "readyz"] => some readiness
  | ["", "fixity", id] => if id.isEmpty then none else some (check id.toList)
  | ["", "audit", id] => if id.isEmpty then none else some (audit id.toList)
  | _ => none

/-- The methods that an endpoint takes. -/
def methods : Endpoint → List Method
  | liveness | readiness => [.get, .head]
  | check _ | audit _ => [.post]

end Endpoint

/-! ### Refusals -/

/-- Why the path or the query of a request cannot be understood. -/
inductive Refusal where
  | brokenPath
  | foreignId (text : String)
  | foreignFlag
  | repeatedFlag
deriving Repr, DecidableEq

/-- The wording of a refusal. -/
def Refusal.message : Refusal → String
  | brokenPath => "Invalid URL: Invalid UTF-8 in `file_id`"
  | foreignId text => "Invalid URL: Cannot parse `" ++ text ++ "` to a `i64`"
  | foreignFlag =>
    "Failed to deserialize query string: full: provided string was not `true` or `false`"
  | repeatedFlag => "Failed to deserialize query string: duplicate field `full`"

/-- The id that a path segment spells. -/
def readId (segment : List Char) : Except Refusal Int64 :=
  match Text.Utf8.decode? (Text.Percent.decode segment) with
  | none => .error .brokenPath
  | some text =>
    match Text.readInt64 text with
    | .ok id => .ok id
    | .error _ => .error (.foreignId (String.ofList text))

/-- Reads the flag that asks for a full audit from parameters, given what those before them said
of it. -/
def readFlag (found : Option Bool) : List (String × String) → Except Refusal (Option Bool)
  | [] => .ok found
  | (name, value) :: rest =>
    if name ≠ "full" then readFlag found rest
    else if found.isSome then .error .repeatedFlag
    else if value = "true" then readFlag (some true) rest
    else if value = "false" then readFlag (some false) rest
    else .error .foreignFlag

/-- A full audit is asked for. -/
def readFull (query : List Char) : Except Refusal Bool :=
  (readFlag none (parameters query)).map fun found => found.getD false

/-- The problem of an id that no file has. -/
def invalidId (id : Int64) : Problem :=
  .badRequest ("invalid generic file id " ++ Text.writeInt64 id)

/-! ### Answers -/

/-- What the service is set up with. -/
structure Deployment where
  settings : Check.Settings := {}
  buckets : List Storage.Bucket := []

/-- Logs how a check ended. -/
def logReport (report : Check.Report) : Program Unit :=
  log .info .handlers
    ("GenericFile " ++ Text.writeInt64 report.fileId ++ ": outcome " ++ report.outcome.logName ++
      ", count " ++ String.ofList (Text.writeNat report.count.toNat) ++
      ", errors " ++ String.ofList (Text.writeNat report.issues.length))

/-- Checks a file and answers with the report. -/
def answerCheck (settings : Check.Settings) (segment : List Char) : Program Response :=
  match readId segment with
  | .error refusal => return .badRequest refusal.message
  | .ok id =>
    if id ≤ 0 then return .problem (invalidId id)
    else do
      let report ← Check.check settings id
      logReport report
      return .json (if report.hasFatalIssue then .unprocessable else .ok) report.toJson

/-- Audits a file and answers with the record. -/
def answerAudit (segment query : List Char) : Program Response :=
  match readId segment with
  | .error refusal => return .badRequest refusal.message
  | .ok id =>
    match readFull query with
    | .error refusal => return .badRequest refusal.message
    | .ok full =>
      if id ≤ 0 then return .problem (invalidId id)
      else do
        let record ← Audit.audit full id
        return .json .ok record.toJson

/-- Answers at an endpoint. -/
def answer (deployment : Deployment) (query : List Char) : Endpoint → Program Response
  | .liveness => return liveness
  | .readiness => return readiness deployment.buckets
  | .check id => answerCheck deployment.settings id
  | .audit id => answerAudit id query

/-- Responds to a request. -/
def respond (deployment : Deployment) (request : Request) : Program Response :=
  match Endpoint.ofPath? request.target.path with
  | none => return .notFound
  | some endpoint =>
    if request.method ∈ endpoint.methods then do
      let response ← answer deployment request.target.query endpoint
      return if request.method = .head then response.withoutBody else response
    else return .methodNotAllowed endpoint.methods

/-- Responds to what a connection brought: a request, or what is refused before there is one. -/
def respondTo (deployment : Deployment) : Except Http.Status Request → Program Response
  | .ok request => respond deployment request
  | .error status => return { status }

/-- Responds to connections, one after the other. -/
def respondAll (deployment : Deployment) :
    List (Except Http.Status Request) → Program (List Response)
  | [] => return []
  | brought :: rest => do
    let response ← respondTo deployment brought
    return response :: (← respondAll deployment rest)

end Fixity.Service
