/-
This file defines the fixity check of one file as a program. Files whose content
cannot be streamed, files checked recently and files without a registered digest
are turned away in that order. The content of the others is read, and the verdict
is saved as an event before it is reported.
-/

import Fixity.Check.Report
import Fixity.Program
import Fixity.Text.Quoted
import Fixity.Time.Pause

namespace Fixity.Check

open Program

/-! ### Recent checks -/

/-- Seconds in a day. -/
def secondsPerDay : Int := 86400

/-- The longest span of time, in seconds, that can be measured. -/
def longestSpan : Int := 9223372036854775

/-- The moment before which a check counts as old: the present less a number of days, unless the
span or the moment is out of reach. -/
def cutoff? (maxDays : Int64) (now : Time.Timestamp) : Option Time.Timestamp :=
  let span := maxDays.toInt * secondsPerDay
  if -longestSpan ≤ span ∧ span ≤ longestSpan then now.back? span else none

/-- The file was checked later than the cutoff, and this is no test run from end to end. -/
def recentlyChecked (settings : Settings) (file : Catalog.File) (now : Time.Timestamp) : Bool :=
  !settings.isEndToEndTest &&
    match cutoff? settings.maxDays now, file.lastFixityCheck with
    | some cutoff, some last => cutoff < last
    | _, _ => false

/-- The wording of a check time that may be absent. -/
def lastCheckText : Option Time.Timestamp → String
  | some time => s!"Some({time.text})"
  | none => "None"

/-! ### Saving events -/

/-- The entry that announces another try to save an event. -/
def retryEntry (settings : Settings) (event : Premis.Event) : Log.Entry :=
  { level := .warn
    origin := .checker
    message := "Saving fixity event for " ++ event.fileIdentifier ++
      " got bad gateway, retrying in " ++ Time.pauseText settings.retryDelay
    carried := ["attempt", "max_attempts"] }

/-- Tries to save an event while the catalog's gateway fails and tries are left; `attempt` is the
number of the try. -/
def saveFrom (settings : Settings) (event : Premis.Event) :
    Nat → Program (Except Catalog.Failure Unit)
  | 0 => query (.saveEvent event)
  | left + 1 => do
    match ← query (.saveEvent event) with
    | .ok () => return .ok ()
    | .error failure =>
      if failure.isBadGateway then
        query (.log (retryEntry settings event))
        query (.pause settings.retryDelay)
        saveFrom settings event left
      else return .error failure

/-- Saves an event. There is at least one try; only a failure of the gateway is tried again. -/
def saveEvent (settings : Settings) (event : Premis.Event) : Program (Except Catalog.Failure Unit) :=
  saveFrom settings event (settings.attempts.toNat - 1)

/-! ### The check -/

/-- The place that raises the issues of a check. It is one constant, without a line: the file and
the line of the call that raises an issue are not told apart. -/
def raisedAt : String := "Fixity.Check.Pass"

/-- The report of a check that ended without a verdict. -/
def stopped (id : Int64) (outcome : Outcome) (identifier message : String) : Report :=
  { fileId := id, outcome, count := 0, issues := [.fatal raisedAt identifier message] }

/-- The event of a verdict, with a fresh identifier and the present time. -/
def newEvent (file : Catalog.File) (url expected actual : String) : Program Premis.Event := do
  let identifier ← query .newUuid
  let time ← now
  return .fixityCheck identifier time file url expected actual

/-- Reports a verdict whose event is saved. -/
def verdict (id : Int64) (file : Catalog.File) (url expected actual : String)
    (event : Premis.Event) : Program Report := do
  if event.outcome = .success then
    log .info .checker s!"File {file.identifier}: fixity matched at {url}"
    return { fileId := id, outcome := .matched, count := 1 }
  else
    log .error .checker s!"GenericFile {file.identifier}: {event.outcomeInformation}"
    let mismatch := Failure.integrity file.identifier url expected actual
    return {
      fileId := id
      outcome := .mismatched
      count := 1
      issues := [.fatal raisedAt file.identifier mismatch.message] }

/-- Saves the verdict on a content and reports it. -/
def conclude (settings : Settings) (id : Int64) (file : Catalog.File)
    (url expected actual : String) : Program Report := do
  let event ← newEvent file url expected actual
  match ← saveEvent settings event with
  | .error failure => return stopped id .eventRecordFailed file.identifier failure.message
  | .ok () => verdict id file url expected actual event

/-- The digest of the preferred copy of a file, and where that lies. -/
def measure (file : Catalog.File) : Program (Except Failure (String × String)) := do
  match ← locate file with
  | .error failure => return .error failure
  | .ok source =>
    match ← digestOf source with
    | .error failure => return .error (.storage failure)
    | .ok digest => return .ok (digest, source.location.url)

/-- Compares the content of a file with its registered digest. -/
def compare (settings : Settings) (id : Int64) (file : Catalog.File) (expected : String) :
    Program Report := do
  match ← measure file with
  | .error failure => return stopped id .storageFailed file.identifier failure.message
  | .ok (actual, url) => conclude settings id file url expected actual

/-- The issue of a file whose content cannot be streamed. -/
def coldTierMessage (file : Catalog.File) : String :=
  s!"Skipping {file.identifier}: storage option {file.storageOption} cannot be read directly; " ++
    "it must be checked through the cold-tier retrieval workflow"

/-- Logs that a file was checked recently. -/
def logRecent (settings : Settings) (file : Catalog.File) : Program Unit :=
  log .info .checker
    ("Skipping file " ++ file.identifier ++ ": last fixity check " ++
      lastCheckText file.lastFixityCheck ++ " is within " ++ Text.writeInt64 settings.maxDays ++ " days")

/-- Checks a file that the catalog knows. -/
def checkFile (settings : Settings) (id : Int64) (file : Catalog.File) : Program Report := do
  if file.isColdTierOnly then
    log .info .checker s!"Skipping file {file.identifier} because it is cold-tier only"
    return stopped id .skippedColdTier file.identifier (coldTierMessage file)
  else if recentlyChecked settings file (← now) then
    logRecent settings file
    return { fileId := id, outcome := .skippedRecent, count := 0 }
  else
    match file.latestDigest Catalog.sha256 with
    | none =>
      return stopped id .missingBaseline file.identifier
        (Failure.missingBaseline file.identifier).message
    | some expected => compare settings id file expected

/-- The fixity check of a file. -/
def check (settings : Settings) (id : Int64) : Program Report := do
  match ← query (.getFile id) with
  | .error failure => return stopped id .fetchFailed (Text.writeInt64 id) failure.message
  | .ok file => checkFile settings id file

/-- The fixity check of a file, reduced to the count of verified files and the issues. -/
def run (settings : Settings) (id : Int64) : Program (UInt32 × List Issue) := do
  let report ← check settings id
  return (report.count, report.issues)

end Fixity.Check
