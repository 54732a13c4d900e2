/-
This file is the program. It reads the command line, the environment and the files
that these name, audits the files of a list and writes the table to standard
output, or listens and answers requests one by one.
-/

import Fixity.Outside
import Fixity.Service.Message

namespace Fixity.Main

open Std.Async Std.Net Fixity.Outside

/-! ### What is given -/

/-- The variables that are looked at. -/
def watched : List String :=
  ["FIXITY_REGISTRY_URL", "FIXITY_REGISTRY_API_VERSION", "FIXITY_REGISTRY_API_USER",
   "FIXITY_REGISTRY_API_KEY", "FIXITY_REGISTRY_TIMEOUT_SECS", "FIXITY_BUCKETS_FILE",
   "MAX_DAYS_SINCE_LAST_FIXITY", "FIXITY_E2E", "FIXITY_HOST", "FIXITY_PORT", "RUST_LOG",
   "ALL_PROXY", "all_proxy", "HTTP_PROXY", "http_proxy", "HTTPS_PROXY", "https_proxy", "NO_PROXY",
   "no_proxy", "REQUEST_METHOD"]

/-- The environment. -/
def environment : IO Launch.Environment := do
  let found ← watched.filterMapM fun name => do
    return (← IO.getEnv name).map fun value => (name, Text.Utf8.encode value.toList)
  return fun name => found.lookup name

/-- What reading a file gives. -/
def readFile (path : String) : IO (Except Launch.FileFault (List UInt8)) := do
  try
    return .ok (← IO.FS.readBinFile path).toList
  catch
    | .noFileOrDirectory _ _ _ => return .error .notFound
    | fault => return .error (.other fault.toString)

/-- The files at some paths. -/
def filesAt (paths : List String) : IO Launch.FileReader := do
  let found ← paths.mapM fun path => return (path, ← readFile path)
  return fun path => (found.lookup path).getD (.error .notFound)

/-! ### Listening -/

/-- Why an address could not be bound. -/
def bindFault : IO.Error → Launch.BindFault
  | .permissionDenied _ _ _ => .denied
  | _ => .inUse

/-- Binds an address. -/
def tryBind (address : Launch.SocketAddress) :
    IO (Except Launch.BindFault (TCP.Socket.Server × Launch.SocketAddress)) := do
  try
    let server ← TCP.Socket.Server.mk
    server.bind (socketAddress address.host address.port)
    server.listen 128
    match ← server.getSockName with
    | .v4 bound => return .ok (server, { address with port := bound.port.toNat })
    | .v6 _ => return .ok (server, address)
  catch fault => return .error (bindFault fault)

/-- Binds the address of a text. -/
def bindText (text : String) :
    IO (Except Launch.BindFault (TCP.Socket.Server × Launch.SocketAddress)) := do
  match Launch.SocketAddress.ofText text with
  | .error fault => return .error fault
  | .ok address => tryBind address

/-- Binds an address, or the local one where that is needed and allowed, and says what came of the
attempts. -/
def bindAll (options : Launch.ServeOptions) (text : String) :
    IO (Option TCP.Socket.Server × Launch.Binder) := do
  let first ← bindText text
  let second ← match first with
    | .error .denied =>
      if options.wantsEveryInterface then bindText (Launch.localAddress text)
      else pure (.error .denied)
    | result => pure result
  let isFirst := fun address => (Launch.SocketAddress.ofText text).toOption == some address
  let binder : Launch.Binder := fun address =>
    (if isFirst address then first else second).map Prod.snd
  return (second.toOption.map Prod.fst, binder)

/-! ### Serving -/

/-- The bytes of a connection up to the end of a head. -/
partial def receiveHead (client : TCP.Socket.Client) (received : List UInt8) : IO (List UInt8) := do
  if Service.holdsHead received then return received
  match ← (client.recv? 4096).block with
  | none => return received
  | some chunk => receiveHead client (received ++ chunk.toList)

/-- Answers the request of a connection. -/
def serveOne (setting : Setting) (deployment : Service.Deployment) (client : TCP.Socket.Client) :
    IO Unit := do
  let brought := Service.Request.ofBytes (← receiveHead client [])
  let response ← run setting (Service.respondTo deployment brought)
  (client.send ⟨response.bytes.toArray⟩).block
  client.shutdown.block

/-- Answers connections without end. A connection that fails is passed over. -/
partial def serveAll (setting : Setting) (deployment : Service.Deployment)
    (server : TCP.Socket.Server) : IO Unit := do
  let client ← server.accept.block
  try serveOne setting deployment client
  catch _ => pure ()
  serveAll setting deployment server

/-! ### Commands -/

/-- Reports an obstacle. -/
def report (obstacle : Launch.Obstacle) : IO UInt32 := do
  IO.eprintln obstacle.report
  return 1

/-- Runs a command of which nothing but its end is awaited. -/
def finish (setting : Setting) (program : Program (Launch.Ending × List String)) : IO UInt32 := do
  let (ending, table) ← run setting program
  for line in table do
    IO.println line
  if let .stopped obstacle := ending then
    IO.eprintln obstacle.report
  return UInt32.ofNat ending.exitCode

/-- Serves until the program is stopped. -/
def serve (setting : Setting) (around : Launch.Surroundings) (settings : Launch.Settings)
    (buckets : List Storage.Bucket) (options : Launch.ServeOptions) : IO UInt32 := do
  let (server, binder) ← match options.address around.environment with
    | .ok text => bindAll options text
    | .error _ => pure (none, fun _ => .error .unresolved)
  let around := { around with binder }
  let code ← finish setting (Launch.run around settings buckets (.serve options))
  if let some server := server then
    if code = 0 then serveAll setting (Launch.deployment settings buckets) server
  return code

/-- Before each record is awaited, every audit under way asks one query, the oldest first. Past the
first places the younger ones wait. -/
def inTurn : Window.Schedule :=
  fun _ => List.range 64

/-- Launches a command for which there are settings. -/
def start (environment : Launch.Environment) (settings : Launch.Settings) (command : Launch.Command) :
    IO UInt32 := do
  let input := match command with
    | .audit options => options.input
    | .serve _ => none
  let reader ← filesAt (settings.bucketsFile.toList ++ input.toList)
  match Launch.loadBuckets reader settings.bucketsFile with
  | .error obstacle => report obstacle
  | .ok buckets =>
    let setting : Setting := {
      site := Launch.site settings buckets environment .epoch .nil
      filter := .ofVariable (environment.text? "RUST_LOG") }
    let around : Launch.Surroundings := {
      reader
      binder := fun _ => .error .unresolved
      environment
      schedule := inTurn }
    match command with
    | .serve options => serve setting around settings buckets options
    | .audit _ => finish setting (Launch.run around settings buckets command)

end Fixity.Main

/-- The program. -/
def main (arguments : List String) : IO UInt32 := do
  match Fixity.Launch.CommandLine.read arguments with
  | .error usage =>
    if usage.exitCode = 0 then IO.println usage.message else IO.eprintln usage.message
    return UInt32.ofNat usage.exitCode
  | .ok line =>
    let environment ← Fixity.Main.environment
    match Fixity.Launch.Settings.assemble line environment with
    | .error obstacle => Fixity.Main.report obstacle
    | .ok settings => Fixity.Main.start environment settings line.command
