/-
This file defines log entries: how grave they are, which part of the program wrote
them, their text, and what else they carry.
-/

namespace Fixity.Log

/-- How grave an entry is, the gravest first. -/
inductive Level where
  | error
  | warn
  | info
  | debug
  | trace
deriving Repr, DecidableEq

/-- The rank of a level; a graver one ranks lower. -/
def Level.rank : Level → Nat
  | error => 1
  | warn => 2
  | info => 3
  | debug => 4
  | trace => 5

/-- The name of a level. -/
def Level.name : Level → String
  | error => "ERROR"
  | warn => "WARN"
  | info => "INFO"
  | debug => "DEBUG"
  | trace => "TRACE"

/-- The part of the program that writes an entry. -/
inductive Origin where
  | program
  | batch
  | auditor
  | checker
  | selection
  | handlers
deriving Repr, DecidableEq

/-- The name by which filters address a part of the program. -/
def Origin.target : Origin → String
  | program => "fixity_audit"
  | batch => "fixity_audit::batch"
  | auditor => "fixity_audit::services::auditor"
  | checker => "fixity_audit::services::checker"
  | selection => "fixity_audit::services::storage_resolver"
  | handlers => "fixity_audit::handlers::fixity_handlers"

/-- An entry of the log, with the names of the values that it carries beside its message. -/
structure Entry where
  level : Level
  origin : Origin
  message : String
  carried : List String := []
deriving Repr, DecidableEq

/-- The names of all that an entry carries. -/
def Entry.fieldNames (entry : Entry) : List String :=
  "message" :: entry.carried

end Fixity.Log
