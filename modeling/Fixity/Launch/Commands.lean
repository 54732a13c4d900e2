/-
This file defines the commands as programs. Both load the buckets first. The audit
reads the ids of a file and writes the table; the service begins to listen.
-/

import Fixity.Audit.Batch
import Fixity.Launch.Binding
import Fixity.Log.Filter
import Fixity.Service.Routing
import Fixity.World.Networked

namespace Fixity.Launch

open Program

/-! ### Endings -/

/-- How a command ends: well, with a fault that is in the log, or with an obstacle. -/
inductive Ending where
  | done
  | logged
  | stopped (obstacle : Obstacle)
deriving Repr, DecidableEq

/-- The exit code. -/
def Ending.exitCode : Ending → Nat
  | done => 0
  | logged | stopped _ => 1

/-! ### Surroundings -/

/-- What a launch meets with: files, addresses to bind, an environment, and which of the audits
under way get a turn. -/
structure Surroundings where
  reader : FileReader
  binder : Binder
  environment : Environment
  schedule : Window.Schedule := fun _ => []

/-! ### Buckets -/

/-- Logs how many buckets there are. -/
def logBuckets (buckets : List Storage.Bucket) : Program Unit :=
  log .info .program
    ("Loaded " ++ String.ofList (Text.writeNat buckets.length) ++ " preservation buckets")

/-! ### The audit -/

/-- Logs what is to be audited. -/
def logStart (ids : List Int64) (full : Bool) : Program Unit :=
  log .info .program
    ("Auditing " ++ String.ofList (Text.writeNat ids.length) ++ " files (full check: " ++
      Audit.flagText full ++ ")")

/-- Logs what was audited. -/
def logEnd (summary : Audit.Batch.Summary) : Program Unit :=
  let count := fun n => String.ofList (Text.writeNat n)
  log .info .program
    ("Audit complete: " ++ count summary.checked ++ " checked, " ++ count summary.passed ++
      " passed, " ++ count summary.failed ++ " failed, " ++ count summary.writeErrors ++
      " write errors")

/-- Writes entries to the log, in order. -/
def logAll : List Log.Entry → Program Unit
  | [] => return ()
  | entry :: rest => do
    query (.log entry)
    logAll rest

/-- Audits the files whose ids a text holds. -/
def auditContents (schedule : Window.Schedule) (sink : Audit.Batch.Sink) (options : AuditOptions)
    (contents : String) : Program (Ending × List String) := do
  let (ids, warnings) := Audit.Batch.fileIds contents
  logAll warnings
  logStart ids options.full
  let report ← Audit.Batch.run options.full options.concurrency schedule sink ids
  match report.summary with
  | .error fault => return (.stopped (.unwritableTable fault), report.written)
  | .ok summary =>
    logEnd summary
    return (.done, report.written)

/-- The audit command. It gives back the lines of the table, too. -/
def audit (surroundings : Surroundings) (sink : Audit.Batch.Sink) (options : AuditOptions) :
    Program (Ending × List String) := do
  match options.input with
  | none =>
    log .error .program "Param -i (input file) is required"
    return (.logged, [])
  | some path =>
    match surroundings.reader.text path with
    | .error fault => return (.stopped (.unreadableInput path fault), [])
    | .ok contents => auditContents surroundings.schedule sink options contents

/-! ### The service -/

/-- What the service is set up with. -/
def deployment (settings : Settings) (buckets : List Storage.Bucket) : Service.Deployment :=
  { settings := { maxDays := settings.maxDays, isEndToEndTest := settings.isEndToEndTest }
    buckets }

/-- The service: it begins to listen and answers the requests that come, in order. -/
def serve (surroundings : Surroundings) (options : ServeOptions) (deployment : Service.Deployment)
    (requests : List (Except Http.Status Service.Request)) :
    Program (Except Obstacle (List Service.Response)) := do
  match ← listen surroundings.binder surroundings.environment options with
  | .error obstacle => return .error obstacle
  | .ok _ => return .ok (← Service.respondAll deployment requests)

/-! ### Whole launches -/

/-- Runs a command for which there are settings and buckets. A table that was begun is given back
line by line. A service to which no request comes ends when it listens. -/
def run (surroundings : Surroundings) (settings : Settings) (buckets : List Storage.Bucket)
    (command : Command) : Program (Ending × List String) := do
  logBuckets buckets
  match command with
  | .audit options => audit surroundings .open options
  | .serve options =>
    match ← serve surroundings options (deployment settings buckets) [] with
    | .error obstacle => return (.stopped obstacle, [])
    | .ok _ => return (.done, [])

/-- The site of a launch. -/
def site (settings : Settings) (buckets : List Storage.Bucket) (environment : Environment)
    (time : Time.Timestamp) (uuid : Uuid) : Site :=
  { registry := settings.registry
    resolver := Storage.Remote.resolver buckets
    proxies := environment.proxies
    time
    uuid }

/-- What a launch leaves: how it ended, the lines of the table, and the entries of the log. -/
structure Record where
  ending : Ending
  table : List String := []
  entries : List Log.Entry := []

/-- Launches a command that was understood, over a network. -/
def launch (surroundings : Surroundings) (network : Http.Network σ) (state : σ)
    (time : Time.Timestamp) (uuid : Uuid) (line : CommandLine) : Record :=
  match Settings.assemble line surroundings.environment with
  | .error obstacle => { ending := .stopped obstacle }
  | .ok settings =>
    match loadBuckets surroundings.reader settings.bucketsFile with
    | .error obstacle => { ending := .stopped obstacle }
    | .ok buckets =>
      let program := run surroundings settings buckets line.command
      let site := site settings buckets surroundings.environment time uuid
      let finished := program.run (site.world network) state
      { ending := finished.value.1, table := finished.value.2, entries := finished.logs }

/-- The entries that the environment lets through to the terminal. -/
def Record.shownEntries (record : Record) (environment : Environment) : List Log.Entry :=
  record.entries.filter (Log.Filter.ofVariable (environment.text? "RUST_LOG")).passes

end Fixity.Launch
