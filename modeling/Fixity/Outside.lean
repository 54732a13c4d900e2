/-
This file answers the queries of programs from the world outside: the clock, a
source of randomness, standard error, and hosts that are reached over the network.
A host is sent one request per connection, and only in the clear; what comes back
until the connection closes is the reply.
-/

import Fixity.Http.Message
import Fixity.Launch.Commands
import Fixity.Log.Line
import Std.Async.DNS
import Std.Async.TCP
import Std.Time

namespace Fixity.Outside

open Std.Async Std.Net

/-! ### Clock and randomness -/

/-- The present time. -/
def present : IO Time.Timestamp := do
  let nanos : Int := (← Std.Time.Timestamp.now).toNanosecondsSinceUnixEpoch.val
  let rest := (nanos % 1000000000).toNat
  if small : rest < Time.nanosPerSecond then
    return (Time.Timestamp.ofSeconds? (nanos / 1000000000) rest small).getD .epoch
  else return .epoch

/-- A fresh identifier. -/
def fresh : IO Uuid := do
  return (Uuid.ofRandom? (← IO.getRandomBytes 16).toList).getD .nil

/-- Sleeps for so many milliseconds, an hour at a time. -/
def sleep (milliseconds : Nat) : IO Unit := do
  for _ in [0 : milliseconds / 3600000] do
    IO.sleep 3600000
  IO.sleep (UInt32.ofNat (milliseconds % 3600000))

/-! ### Connections -/

/-- An address of four bytes and a port. -/
def socketAddress (host port : Nat) : SocketAddress :=
  let byte := fun shift => UInt8.ofNat (host >>> shift)
  .v4 ⟨.ofParts (byte 24) (byte 16) (byte 8) (byte 0), UInt16.ofNat port⟩

/-- Everything that a connection delivers until it closes. -/
partial def receiveAll (client : TCP.Socket.Client) (received : ByteArray) : IO ByteArray := do
  match ← (client.recv? 65536).block with
  | none => return received
  | some chunk => receiveAll client (received ++ chunk)

/-- The number of a host, which is looked up where it is given by a name. -/
def hostNumber? : Http.Host → IO (Option Nat)
  | .four number => return some number
  | .name text => do
    let found ← (DNS.getAddrInfo text "").block
    return found.toList.findSome? fun
      | .v4 address => some (address.octets.toList.foldl (fun n byte => 256 * n + byte.toNat) 0)
      | .v6 _ => none
  | _ => return none

/-- Carries a request to its host. -/
def deliver (dispatch : Http.Dispatch) : IO (Option (List UInt8)) := do
  let some (host, port) := dispatch.peer? | return none
  try
    let some number ← hostNumber? host | return none
    let client ← TCP.Socket.Client.mk
    (client.connect (socketAddress number port)).block
    (client.send ⟨dispatch.bytes.toArray⟩).block
    return some (← receiveAll client .empty).toList
  catch _ => return none

/-- Sends a request, through a proxy where there is one for it. -/
def send (proxies : Http.Proxies) (request : Http.Request) : IO Http.Answer :=
  request.sendBy fun dispatch => deliver (dispatch.through proxies)

/-! ### Queries -/

/-- Writes an entry to standard error, if the filter lets it pass. -/
def writeEntry (filter : Log.Filter) (entry : Log.Entry) : IO Unit := do
  if filter.passes entry then
    let message := String.ofList (Log.writeMessage entry.message)
    IO.eprintln s!"{(← present).text} {entry.level.name} {entry.origin.target}: {message}"

/-- What programs run against: how the catalog and the stores are reached, and which entries are
shown. -/
structure Setting where
  site : Site
  filter : Log.Filter

/-- Asks the store of a source. -/
def askStore (site : Site) (source : Storage.Source) (request : String → Http.Request)
    (read : Http.Answer → Except Storage.Failure α) : IO (Except Storage.Failure α) := do
  match (site.storeOf source).objectUrl source.location.bucket source.key with
  | .error failure => return .error failure
  | .ok url => return read (← send site.proxies (request url))

/-- Answers a query. -/
def answer (setting : Setting) : (query : Query) → IO query.Answer
  | .getFile id => do
    let answer ← send setting.site.proxies (setting.site.registry.fileRequest id)
    return setting.site.registry.readFile id answer
  | .resolve file => return setting.site.resolver.resolution file
  | .stat source =>
    askStore setting.site source Storage.Remote.statRequest
      (Storage.Remote.readStat source.location.bucket source.key)
  | .get source =>
    askStore setting.site source Storage.Remote.getRequest
      (Storage.Remote.readBody source.location.bucket source.key)
  | .saveEvent event => do
    let answer ← send setting.site.proxies (setting.site.registry.eventRequest event)
    return setting.site.registry.readSaved event answer
  | .now => present
  | .newUuid => fresh
  | .pause milliseconds => sleep (Time.pauseLength milliseconds)
  | .log entry => writeEntry setting.filter entry

/-- Runs a program. -/
def run (setting : Setting) : Program α → IO α
  | .done value => return value
  | .ask query next => do
    run setting (next (← answer setting query))

end Fixity.Outside
