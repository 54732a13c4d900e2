/-
This file defines the audit of one file as a program. It asks the catalog for the
file, finds a copy and asks the store about it. Where nothing is wrong at a quick
look, the file passes. Elsewhere the content is read, if that is wanted and the
content can be streamed.
-/

import Fixity.Audit.Record
import Fixity.Program

namespace Fixity.Audit

open Program

/-- Ends an audit at a failure, which is logged and kept in the record. -/
def stop (record : Record) (failure : Failure) : Program Record := do
  log .warn .auditor
    ("Audit of file " ++ Text.writeInt64 record.fileId ++ " stopped: " ++ failure.message)
  return record.failed failure

/-- Reads the content of a copy and compares its digest with the registered one. -/
def readContent (file : Catalog.File) (source : Storage.Source) (record : Record) : Program Record := do
  match ← digestOf source with
  | .error failure => stop record (.storage failure)
  | .ok digest =>
    let record := record.withDigest digest (← now)
    if !record.passed then
      log .error .auditor
        s!"Fixity mismatch for {file.identifier} at {record.storageUrl}: registry {record.registered.sha256}, stream {record.streamSha256}"
    return record

/-- Checks the content of a copy, or defers the check where the content cannot be streamed. -/
def checkContent (file : Catalog.File) (source : Storage.Source) (record : Record) :
    Program Record := do
  let record := record.withFullMethod
  if record.isColdTierOnly then
    log .info .auditor
      s!"{file.identifier} is cold-tier only ({file.storageOption}); deferring full fixity check"
    return record.deferred
  else readContent file source record

/-- Decides on a copy whose stat is known. -/
def judge (full : Bool) (file : Catalog.File) (source : Storage.Source) (record : Record) :
    Program Record := do
  match record.concern with
  | none => return record.quicklyMatched (← now)
  | some reason =>
    let record := record.withReason reason
    if full then checkContent file source record
    else return record.leftForAttention (← now)

/-- Audits a copy that was found. -/
def examine (full : Bool) (file : Catalog.File) (source : Storage.Source) (record : Record) :
    Program Record := do
  match ← query (.stat source) with
  | .error failure => stop record (.storage failure)
  | .ok stat => judge full file source (record.withStat file stat)

/-- Audits a file that the catalog knows. -/
def auditFile (full : Bool) (file : Catalog.File) (record : Record) : Program Record := do
  match ← locate file with
  | .error failure => stop record failure
  | .ok source => examine full file source (record.withSource source)

/-- The audit of a file. `full` asks for its content to be read where a quick look leaves a
doubt. -/
def audit (full : Bool) (id : Int64) : Program Record := do
  let record := Record.initial id (← now)
  match ← query (.getFile id) with
  | .error failure => stop record (.catalog failure)
  | .ok file => auditFile full file (record.withFile file)

end Fixity.Audit
