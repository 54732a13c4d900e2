/-
This file defines how the service comes to listen. An address is four bytes and a
port, or a name, which is looked up; where every interface was asked for and that
is denied, the local interface is tried in its place.
-/

import Fixity.Http.Host
import Fixity.Launch.Settings
import Fixity.Program

namespace Fixity.Launch

open Program

/-! ### Addresses -/

/-- An address to listen at: four bytes as one number, and a port. -/
structure SocketAddress where
  host : Nat
  port : Nat
deriving Repr, DecidableEq

namespace SocketAddress

/-- The text of an address. -/
def text (address : SocketAddress) : String :=
  String.ofList (Http.Host.writeFour address.host ++ ':' :: Text.writeNat address.port)

/-- A byte in plain decimal digits. -/
def byte? (text : List Char) : Option Nat :=
  if 3 < text.length then none else Http.Host.byte? text

/-- Reads a host of four bytes between dots. -/
def four? (text : List Char) : Option Nat := do
  let [a, b, c, d] ← (Text.splitAll '.' text).mapM byte? | none
  return [a, b, c, d].foldl (fun host byte => 256 * host + byte) 0

/-- The host is one of eight groups, in brackets or bare. -/
def isEight (text : List Char) : Bool :=
  (Http.Host.eight? text).isSome || (Http.Host.bracketed? text >>= Http.Host.eight?).isSome

/-- Reads the text of a host and a port. Names and hosts of eight groups lead nowhere. -/
def ofText (text : String) : Except BindFault SocketAddress :=
  match Text.splitLast? ':' text.toList with
  | none => .error .unresolved
  | some (host, digits) =>
    match four? host, Text.readInteger .unsigned16 digits with
    | some number, .ok port => .ok ⟨number, port.toNat⟩
    | _, _ => .error (if isEight host then .unsupported else .unresolved)

end SocketAddress

/-! ### Listening -/

/-- What binding an address gives: the address that is bound. -/
abbrev Binder := SocketAddress → Except BindFault SocketAddress

/-- Binds the address of a text. -/
def Binder.bind (binder : Binder) (text : String) : Except BindFault SocketAddress := do
  binder (← SocketAddress.ofText text)

/-- The options ask for every interface. -/
def ServeOptions.wantsEveryInterface (options : ServeOptions) : Bool :=
  options.host = none || options.host = some "0.0.0.0" || options.host = some "::"

/-- The address on the local interface with the port of another. -/
def localAddress (text : String) : String :=
  "127.0.0.1:" ++ String.ofList ((Text.splitLast? ':' text.toList).map Prod.snd |>.getD [])

/-- Binds an address, or the local one in its place where that is allowed and needed. -/
def bindOrFallBack (binder : Binder) (options : ServeOptions) (text : String) :
    Program (Except BindFault SocketAddress) := do
  match binder.bind text with
  | .error .denied =>
    if options.wantsEveryInterface then
      log .warn .program
        s!"Permission denied binding to {text} ({BindFault.denied.message}). Falling back to {localAddress text}"
      return binder.bind (localAddress text)
    else return .error .denied
  | result => return result

/-- Begins to listen. -/
def listen (binder : Binder) (environment : Environment) (options : ServeOptions) :
    Program (Except Obstacle SocketAddress) := do
  match options.address environment with
  | .error obstacle => return .error obstacle
  | .ok text =>
    match ← bindOrFallBack binder options text with
    | .error fault => return .error (.unbound fault)
    | .ok address =>
      log .info .program s!"Fixity worker listening on http://{address.text}"
      return .ok address

end Fixity.Launch
