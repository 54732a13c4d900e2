/-
This file defines requests as the service receives them: a method, and a target
with a path and a query. What is neither well formed nor of bounded length is
refused with a status. A query is a list of parameters; a plus sign in one stands
for a space, an escape for its byte, and bytes that encode nothing for a
replacement character.
-/

import Fixity.Http.Fields
import Fixity.Http.Status
import Fixity.Http.Uri
import Fixity.Text.Percent

namespace Fixity.Service

/-! ### Methods -/

/-- The method of a request, by its exact name. -/
inductive Method where
  | get
  | head
  | post
  | other (name : String)
deriving Repr, DecidableEq

namespace Method

/-- The method of a name; names in another letter case are other methods. -/
def ofName : String → Method
  | "GET" => get
  | "HEAD" => head
  | "POST" => post
  | name => other name

/-- The name of a method. -/
def name : Method → String
  | get => "GET"
  | head => "HEAD"
  | post => "POST"
  | other name => name

end Method

/-! ### Targets -/

/-- The path of a target, not decoded, and its query, empty where there is none. -/
structure Target where
  path : List Char
  query : List Char
deriving Repr, DecidableEq

namespace Target

/-- A character that a request line may hold in the place of the target. -/
def isTargetChar (c : Char) : Bool :=
  0x21 ≤ c.toNat && c.toNat != 0x7F

/-- Reads a target, or gives the status with which it is refused. -/
def ofText (text : List Char) : Except Http.Status Target :=
  if text.isEmpty || !text.all isTargetChar then .error .badRequest
  else if Http.Uri.longest < (Text.Utf8.encode text).length then .error .targetTooLong
  else
    match Http.Uri.ofText? text with
    | some uri => .ok ⟨uri.path, uri.query.getD []⟩
    | none => .error .badRequest

end Target

/-! ### Parameters -/

/-- A name or a value of a parameter, decoded. -/
def decodeParameter (text : List Char) : String :=
  String.ofList <| Text.Utf8.decodeLenient <| Text.Percent.decode <|
    text.map fun c => if c = '+' then ' ' else c

/-- One parameter: its name up to the first equals sign, and its value after it. -/
def parameter (text : List Char) : String × String :=
  match Text.splitFirst? '=' text with
  | some (name, value) => (decodeParameter name, decodeParameter value)
  | none => (decodeParameter text, "")

/-- The parameters of a query, in order. -/
def parameters (query : List Char) : List (String × String) :=
  ((Text.splitAll '&' query).filter fun part => !part.isEmpty).map parameter

/-! ### Requests -/

/-- A request to the service. -/
structure Request where
  method : Method
  target : Target
deriving Repr, DecidableEq

namespace Request

/-- The request of a method and a target, or the status with which it is refused. -/
def ofTexts (method target : List Char) : Except Http.Status Request := do
  if method.isEmpty || !(Text.Utf8.encode method).all Http.isNameByte then throw .badRequest
  return ⟨.ofName (String.ofList method), ← Target.ofText target⟩

end Request

end Fixity.Service
