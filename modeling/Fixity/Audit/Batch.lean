/-
This file defines the audit of many files. Their ids are read one per line; their
audits run side by side, and their records become the rows of a table, in the order
of the ids. A row that cannot be written is logged and counted, and the batch goes
on; without its header the table is not begun.
-/

import Fixity.Audit.Pass
import Fixity.Audit.Table
import Fixity.Text.Blank
import Fixity.Text.Lines
import Fixity.Text.Quoted
import Fixity.Window

namespace Fixity.Audit.Batch

open Program

/-! ### Ids -/

/-- What a line holds, blanks at either end set aside. -/
inductive Line where
  | blank
  | id (value : Int64)
  | foreign (text : String)
deriving Repr, DecidableEq

/-- Reads a line. -/
def Line.ofText (text : List Char) : Line :=
  let trimmed := Text.trim text
  if trimmed.isEmpty then .blank
  else
    match Text.readInt64 trimmed with
    | .ok value => .id value
    | .error _ => .foreign (String.ofList trimmed)

/-- The ids of a text, and a warning for each line that holds anything else. Lines are numbered
from `number` on. -/
def idsOfLines (number : Nat) : List (List Char) → List Int64 × List Log.Entry
  | [] => ([], [])
  | line :: rest =>
    let (ids, warnings) := idsOfLines (number + 1) rest
    match Line.ofText line with
    | .blank => (ids, warnings)
    | .id value => (value :: ids, warnings)
    | .foreign text =>
      let message := "Ignoring input file line " ++ String.ofList (Text.writeNat number) ++ ": " ++
        text ++ " is not a number"
      (ids, { level := .warn, origin := .batch, message } :: warnings)

/-- The ids that a text holds one per line, and a warning for each line that is neither blank nor
an id. -/
def fileIds (contents : String) : List Int64 × List Log.Entry :=
  idsOfLines 1 (Text.lines contents.toList)

/-! ### Tables -/

/-- Where the table goes: which of its lines are refused, and whether its end is. -/
structure Sink where
  refuses : Nat → Option String := fun _ => none
  refusesEnd : Option String := none

/-- The sink that takes everything. -/
def Sink.open : Sink := {}

/-- What a batch did. -/
structure Summary where
  checked : Nat := 0
  passed : Nat := 0
  failed : Nat := 0
  writeErrors : Nat := 0
deriving Repr, DecidableEq

/-- What a batch leaves: the lines that were taken, and the summary or the wording of the fault
that ended it. -/
structure Report where
  written : List String
  summary : Except String Summary

/-- Counts a record. -/
def Summary.count (summary : Summary) (record : Record) : Summary :=
  { summary with
    checked := summary.checked + 1
    passed := if record.passed then summary.passed + 1 else summary.passed
    failed := if record.passed then summary.failed else summary.failed + 1 }

/-- Logs a row that was refused. -/
def logRefusal (record : Record) (fault : String) : Program Unit := do
  log .error .batch s!"Error writing CSV values: {fault}"
  log .error .batch ("Values were: " ++ Text.Quoted.writeList record.cells)

/-- Logs the verdict on a record. -/
def logVerdict (record : Record) : Program Unit :=
  log .info .batch (Text.writeInt64 record.fileId ++ (if record.passed then " passed" else " failed"))

/-- The lines that were taken so far, and the counts. -/
structure Progress where
  written : List String
  summary : Summary := {}
deriving Repr, DecidableEq

/-- Writes a record as the next line of the table and counts it. The heading is line zero, so the
number of a row's line is the number of records up to it. -/
def writeRecord (sink : Sink) (progress : Progress) (record : Record) : Program Progress := do
  let summary := progress.summary.count record
  match sink.refuses summary.checked with
  | none =>
    logVerdict record
    return ⟨progress.written ++ [record.row], summary⟩
  | some fault =>
    logRefusal record fault
    logVerdict record
    return ⟨progress.written, { summary with writeErrors := summary.writeErrors + 1 }⟩

/-- Ends a table: its end may be refused. -/
def finish (sink : Sink) (progress : Progress) : Report :=
  match sink.refusesEnd with
  | some fault => ⟨progress.written, .error fault⟩
  | none => ⟨progress.written, .ok progress.summary⟩

/-- Audits the files, at most `concurrency` of them side by side, and writes the table. -/
def run (full : Bool) (concurrency : Nat) (schedule : Window.Schedule) (sink : Sink)
    (ids : List Int64) : Program Report := do
  match sink.refuses 0 with
  | some fault => return ⟨[], .error fault⟩
  | none =>
    let start : Progress := ⟨[Csv.line headings], {}⟩
    return finish sink
      (← Window.run concurrency schedule (writeRecord sink) start (ids.map (audit full)))

/-- The text of the lines that were taken. -/
def Report.text (report : Report) : String :=
  String.join (report.written.map fun line => line ++ "\n")

end Fixity.Audit.Batch
