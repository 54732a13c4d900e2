/-
This file defines how a request is sent. Its address and its header fields are
checked first, then its scheme, then whether messages can name the address; a
network carries it to the host and delivers what comes back until the connection
closes. A reply that refers the request to another address is followed there, up to
a number of times.
-/

import Fixity.Http.Fault
import Fixity.Http.Proxy
import Fixity.Http.Reply
import Fixity.Http.Url.Reference

namespace Fixity.Http

/-! ### Requests -/

/-- A request as it is asked for. -/
structure Request where
  method : String
  url : String
  fields : Fields := []
  body : List UInt8 := []

/-- A request as it is sent, possibly through a proxy. -/
structure Dispatch where
  method : String
  url : Url
  fields : Fields
  body : List UInt8
  proxy : Option Proxy := none

/-- A network delivers the bytes that come back for a request, or nothing when no host takes it. -/
structure Network (σ : Type) where
  deliver : σ → Dispatch → Option (List UInt8) × σ

namespace Dispatch

/-- The host and the port that a request is sent to. Nothing is sent that has to be encrypted. -/
def peer? (dispatch : Dispatch) : Option (Host × Nat) :=
  if dispatch.url.scheme ≠ "http" then none
  else
    match dispatch.proxy with
    | some proxy => if proxy.isClear then some (proxy.host, proxy.port) else none
    | none => do return (← dispatch.url.host, ← dispatch.url.effectivePort?)

/-- What the request names: the path and the query, and to a proxy the whole address. -/
def target (dispatch : Dispatch) : String :=
  match dispatch.proxy with
  | some _ => { dispatch.url with fragment := none }.text
  | none => dispatch.url.target

/-- The request, sent through the proxy for its address. -/
def through (dispatch : Dispatch) (proxies : Proxies) : Dispatch :=
  { dispatch with proxy := proxies.proxyFor? dispatch.url }

end Dispatch

/-- A network in which requests go through proxies. -/
def Network.through (network : Network σ) (proxies : Proxies) : Network σ where
  deliver state dispatch := network.deliver state (dispatch.through proxies)

/-- The address is one of the web, to which requests are sent. -/
def Url.isWeb (url : Url) : Bool :=
  url.scheme == "http" || url.scheme == "https"

namespace Request

/-- The request as it is sent, or why it cannot be. -/
def dispatch (request : Request) : Except Fault Dispatch :=
  match Url.ofString? request.url with
  | none => .error .unbuildable
  | some url =>
    if url.host.isNone then .error (.foreignScheme url.text)
    else if !request.fields.all Field.isSendable then .error .unbuildable
    else
      let (url, login) := url.takeCredentials
      if !url.isWeb then .error (.foreignScheme url.text)
      else if (Uri.ofText? url.text.toList).isNone then .error (.unnameable url.text)
      else
        .ok { method := request.method, url, fields := login ++ request.fields, body := request.body }

end Request

/-! ### Redirects -/

namespace Dispatch

/-- The address that a reply refers its request to: that of its first location, seen from the
request's own address. There is none where the reply is no redirect or names no location that
messages can name; then the reply stands. -/
def referral? (dispatch : Dispatch) (reply : Reply) : Option Url :=
  if !reply.status.isRedirect then none
  else do
    let field ← (reply.fields.named "location").head?
    let url ← dispatch.url.join? (String.ofList (← Text.Utf8.decode? field.value))
    if (Uri.ofText? url.text.toList).isSome then return { url with fragment := none } else none

/-- The fields that describe a body. -/
def bodyFields : List String :=
  ["transfer-encoding", "content-encoding", "content-type", "content-length"]

/-- The fields that are for one host alone. -/
def confidentialFields : List String :=
  ["authorization", "cookie", "cookie2", "proxy-authorization", "www-authenticate"]

/-- The request as one that only asks: what was to be posted is left out. -/
def asking (dispatch : Dispatch) : Dispatch :=
  { dispatch with method := "GET", fields := dispatch.fields.without bodyFields, body := [] }

/-- The fields that go on to another address. They name the address that they come from, without
credentials, unless it is secure and the other one is not; to another place confidential ones do
not go. -/
def fieldsFor (dispatch : Dispatch) (url : Url) : Fields :=
  let isSamePlace := url.host = dispatch.url.host ∧ url.effectivePort? = dispatch.url.effectivePort?
  let fields := if isSamePlace then dispatch.fields else dispatch.fields.without confidentialFields
  if dispatch.url.scheme = "https" ∧ url.scheme = "http" then fields
  else
    let here := { dispatch.url with credentials := none, fragment := none }
    fields.without ["referer"] ++ [.ofText "referer" here.text]

/-- The request as a reply with this status sends it on. -/
def onward (dispatch : Dispatch) (status : Status) (url : Url) : Dispatch :=
  let dispatch := if dispatch.method = "POST" ∧ !status.keepsRequest then dispatch.asking
    else dispatch
  { dispatch with url, fields := dispatch.fieldsFor url }

end Dispatch

/-! ### Exchanges -/

/-- What comes back for a request. -/
abbrev Answer := Except Fault Reply

/-- The most redirects that are followed. -/
def mostRedirects : Nat := 10

section Sending

variable {m : Type → Type} [Monad m] (deliver : Dispatch → m (Option (List UInt8)))

/-- What becomes of a request, meant for an address at first, once something came back for it. Bytes
that hold no reply leave it unsent, and a reply that refers it nowhere is the answer; `refer` says
what comes of it where a reply with some status refers it to another address. -/
def Dispatch.conclude (dispatch : Dispatch) (origin : Url) (received : Option (List UInt8))
    (refer : Status → Url → m Answer) : m Answer :=
  match received >>= Reply.read? dispatch.method with
  | none => return .error (.unsent origin.text)
  | some reply =>
    match dispatch.referral? reply with
    | none => return .ok reply
    | some url => refer reply.status url

/-- Has a request delivered that may be redirected so many times, and after each redirect again. -/
def Dispatch.exchange (origin : Url) : Nat → Dispatch → m Answer
  | 0, dispatch => do
    dispatch.conclude origin (← deliver dispatch) fun _ _ =>
      return .error (.endless { dispatch.url with fragment := none }.text)
  | left + 1, dispatch => do
    dispatch.conclude origin (← deliver dispatch) fun status url =>
      if url.isWeb then exchange origin left (dispatch.onward status url)
      else return .error (.foreignScheme url.text)

/-- Sends a request by a way to deliver what is sent. -/
def Request.sendBy (request : Request) : m Answer :=
  match request.dispatch with
  | .error fault => return .error fault
  | .ok dispatch => dispatch.exchange deliver dispatch.url mostRedirects

end Sending

namespace Network

/-- A delivery over a network, which moves the network on. -/
def delivery (network : Network σ) (dispatch : Dispatch) : StateM σ (Option (List UInt8)) :=
  fun state => network.deliver state dispatch

/-- Sends a request. -/
def send (network : Network σ) (state : σ) (request : Request) : Answer × σ :=
  (request.sendBy network.delivery).run state

end Network

/-! ### Bodies -/

namespace Reply

/-- The bytes of a body that is complete. -/
def content (reply : Reply) : Except Fault (List UInt8) :=
  if reply.complete then .ok reply.body else .error .undecodable

/-- The body as text, or the wording of the fault in its place. -/
def textOrFault (reply : Reply) : String :=
  match reply.content with
  | .ok bytes => String.ofList (Text.Utf8.decodeLenient bytes)
  | .error fault => "<unreadable body: " ++ fault.message ++ ">"

end Reply

end Fixity.Http
