/-
This file lists what keeps a launch from succeeding, and how it is reported: a
headline and, where something else is behind it, that as its cause.
-/

import Fixity.Text.Ascii
import Fixity.Text.Integer
import Fixity.Text.Lines
import Fixity.Text.Quoted

namespace Fixity.Launch

/-! ### Faults of the system -/

/-- Why a file cannot be read. -/
inductive FileFault where
  | notFound
  | notText
  | other (wording : String)
deriving Repr, DecidableEq

/-- The wording of a fault. -/
def FileFault.message : FileFault → String
  | notFound => "No such file or directory (os error 2)"
  | notText => "stream did not contain valid UTF-8"
  | other wording => wording

/-- Why an address cannot be bound. -/
inductive BindFault where
  | unresolved
  | denied
  | inUse
  | unsupported
deriving Repr, DecidableEq

/-- The wording of a fault. -/
def BindFault.message : BindFault → String
  | unresolved => "failed to lookup address information: Name or service not known"
  | denied => "Permission denied (os error 13)"
  | inUse => "Address already in use (os error 98)"
  | unsupported => "Address family not supported by protocol (os error 97)"

/-! ### Obstacles -/

/-- What keeps a launch from succeeding. -/
inductive Obstacle where
  | brokenVariable (name : String) (bytes : List UInt8)
  | malformedVariable (name value : String) (fault : Text.IntegerFault)
  | negativeDays (days : Int64)
  | unreadableBuckets (path : String) (fault : FileFault)
  | malformedBuckets (path : String)
  | unreadableInput (path : String) (fault : FileFault)
  | unwritableTable (wording : String)
  | unbound (fault : BindFault)
deriving Repr, DecidableEq

namespace Obstacle

/-- The wording of an obstacle, from the outside to its cause. -/
def chain : Obstacle → List String
  | brokenVariable name bytes =>
    [s!"reading {name}", "environment variable was not valid unicode: " ++ Text.Quoted.writeBytes bytes]
  | malformedVariable name value fault => [s!"parsing {name} value `{value}`", fault.message]
  | negativeDays days =>
    ["max days since last fixity check must not be negative, got " ++ Text.writeInt64 days]
  | unreadableBuckets path fault => [s!"reading buckets file {path}", fault.message]
  | malformedBuckets path => [s!"parsing buckets file {path}", "not a list of buckets"]
  | unreadableInput path fault => [s!"Cannot read input file {path}", fault.message]
  | unwritableTable wording => ["writing CSV output", wording]
  | unbound fault => [fault.message]

/-- A text whose lines after the first are set in as far as the first. -/
def setIn (mark margin : String) (text : String) : String :=
  mark ++ (("\n" ++ margin).intercalate
    ((Text.splitAll '\n' text.toList).map String.ofList))

/-- The causes, numbered where there are several. -/
def causeLines (causes : List String) : List String :=
  match causes with
  | [cause] => [setIn "    " "    " cause]
  | causes => causes.zipIdx.map fun (cause, i) =>
    let number := String.ofList (Text.writeNat i)
    setIn (String.ofList (List.replicate (5 - number.length) ' ') ++ number ++ ": ") "       " cause

/-- The report of an obstacle. -/
def report (obstacle : Obstacle) : String :=
  match obstacle.chain with
  | [] => "Error: "
  | headline :: causes =>
    if causes.isEmpty then "Error: " ++ headline
    else "\n".intercalate (["Error: " ++ headline, "", "Caused by:"] ++ causeLines causes)

/-- The lines of the report. -/
def reportLines (obstacle : Obstacle) : List String :=
  (Text.lines (obstacle.report.toList ++ ['\n'])).map String.ofList

end Obstacle

end Fixity.Launch
