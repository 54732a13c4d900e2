/-
This file reads filters of log entries and applies them. A filter is a list of
directives between commas. A directive sets the least grave level that passes, for
all entries or for those whose origin's name begins with its target and which carry
its field; of several that apply the most specific one decides. A directive that
names a span, or a value of its field, applies to no entry: entries stand outside
of all spans. A filter without directives lets nothing pass.
-/

import Fixity.Log
import Fixity.Log.Pattern
import Fixity.Text.Blank
import Fixity.Text.Integer
import Fixity.Text.Utf8

namespace Fixity.Log

/-! ### Directives -/

/-- The least grave rank that passes; zero lets nothing pass. -/
abbrev Threshold := Nat

/-- A directive: its target and its field, if it has them, as bytes, the rank up to which entries
pass, and whether it names a span or a value. -/
structure Directive where
  target : Option (List UInt8) := none
  field : Option (List UInt8) := none
  threshold : Threshold
  isConfined : Bool := false
deriving Repr, DecidableEq

namespace Directive

/-! ### Thresholds -/

/-- The names of thresholds, in the order of their ranks. -/
def names : List String :=
  ["off", "error", "warn", "info", "debug", "trace"]

/-- The rank that lets everything pass. -/
def everything : Threshold := 5

/-- Reads a threshold: its rank, or its name in any letter case. No text at all is the name of the
gravest level. -/
def threshold? (bytes : List UInt8) : Option Threshold := do
  let text ← Text.Utf8.decode? bytes
  if text.isEmpty then some 1
  else
    match Text.readInteger .unsigned64 text with
    | .ok rank => if rank.toNat ≤ everything then some rank.toNat else none
    | .error _ => names.findIdx? fun name => name.toList == Text.lowerAscii text

/-- A threshold that may be left out. -/
def thresholdOrEverything? (bytes : List UInt8) : Option Threshold :=
  if bytes.isEmpty then some everything else threshold? bytes

/-! ### Parts

A directive is read byte by byte with the blanks around it left out, but its parts are cut from the
text with these left in. -/

/-- The part of a directive that is being read, with the place of its first byte where it is cut. -/
inductive Part where
  | levelOrTarget
  | span (start : Nat)
  | field (start : Nat)
  | afterField
  | afterSpan
  | level (start : Nat)
deriving Repr, DecidableEq

/-- The parts that are complete. -/
structure Draft where
  part : Part
  target : Option (List UInt8) := none
  field : Option (List UInt8) := none
  isConfined : Bool := false
deriving Repr, DecidableEq

/-- The bytes of a text between two places. -/
def slice (bytes : List UInt8) (start stop : Nat) : List UInt8 :=
  (bytes.drop start).take (stop - start)

/-- Takes a field, which may have a value after an equals sign. -/
def Draft.withField (draft : Draft) (bytes : List UInt8) : Option Draft := do
  let text ← Text.Utf8.decode? bytes
  match Text.splitAll '=' text with
  | name :: value :: _ =>
    if Pattern.isValue value then
      some { draft with part := .afterField, field := some (Text.Utf8.encode name), isConfined := true }
    else none
  | _ =>
    if text.isEmpty then none else some { draft with part := .afterField, field := some bytes }

/-- Passes the byte at a place. -/
def Draft.pass (bytes : List UInt8) (draft : Draft) (place : Nat) (b : UInt8) : Option Draft :=
  match draft.part with
  | .levelOrTarget =>
    let target := some (bytes.take place)
    if b = 0x3D then some { draft with part := .level (place + 1), target }
    else if b = 0x5B then some { draft with part := .span (place + 1), target }
    else some draft
  | .span start =>
    if b = 0x5D then some { draft with part := .afterSpan, isConfined := true }
    else if b = 0x7B then
      some { draft with part := .field (place + 1), isConfined := start < place }
    else some draft
  | .field start => if b = 0x7D then draft.withField (slice bytes start place) else some draft
  | .afterField => if b = 0x5D then some { draft with part := .afterSpan } else none
  | .afterSpan => if b = 0x3D then some { draft with part := .level (place + 1) } else none
  | .level _ => some draft

/-- Passes the bytes from a place on. -/
def Draft.passAll (bytes : List UInt8) (draft : Draft) (place : Nat) : List UInt8 → Option Draft
  | [] => some draft
  | b :: rest => do Draft.passAll bytes (← draft.pass bytes place b) (place + 1) rest

/-- The directive of a draft whose text is at its end. -/
def Draft.finish (bytes : List UInt8) (draft : Draft) : Option Directive :=
  let made := fun threshold : Threshold =>
    { target := draft.target, field := draft.field, threshold, isConfined := draft.isConfined }
  match draft.part with
  | .levelOrTarget =>
    match threshold? bytes with
    | some threshold => some { threshold }
    | none => some { target := some bytes, threshold := everything }
  | .level start => (thresholdOrEverything? (bytes.drop start)).map made
  | .afterSpan => some (made everything)
  | _ => none

/-- A character that a directive without a span may begin with. -/
def isFirst (c : Char) : Bool :=
  c == '-' || c == ':' || c == '_' || Text.isAlphanumeric c

/-- Reads the rest of a directive from a place on, where the given part has begun. -/
def continue? (bytes : List UInt8) (part : Part) (place : Nat) (rest : List Char) :
    Option Directive := do
  let draft ← Draft.passAll bytes { part } place (Text.Utf8.encode rest)
  draft.finish bytes

/-- Reads a directive. -/
def ofText? (text : List Char) : Option Directive :=
  let bytes := Text.Utf8.encode text
  match Text.trim text with
  | [] => none
  | '[' :: rest => continue? bytes (.span 1) 1 rest
  | first :: rest =>
    if isFirst first then continue? bytes .levelOrTarget (Text.Utf8.encode [first]).length rest
    else none

/-! ### Application -/

/-- The directive speaks of an entry. -/
def appliesTo (directive : Directive) (entry : Entry) : Bool :=
  !directive.isConfined &&
    (directive.target.all fun target =>
      target.isPrefixOf (Text.Utf8.encode entry.origin.target.toList)) &&
    directive.field.all fun field =>
      entry.fieldNames.any fun name => Text.Utf8.encode name.toList == field

/-- How specific a directive is, the weightiest measure first: the length of its target, less than
any where there is none, whether it has a field, and then the bytes of both. -/
def measures (directive : Directive) : List Nat :=
  let bytes := fun part : Option (List UInt8) => (part.getD []).map UInt8.toNat
  [(directive.target.map fun target => target.length + 1).getD 0,
    if directive.field.isSome then 1 else 0] ++ bytes directive.target ++ bytes directive.field

/-- Measures that are as great as others: the first that differs decides. -/
def isAsGreat : List Nat → List Nat → Bool
  | _, [] => true
  | [], _ :: _ => false
  | a :: as, b :: bs => b < a || (a == b && isAsGreat as bs)

/-- The more specific of two directives; of equally specific ones the second. -/
def moreSpecific (best : Option Directive) (next : Directive) : Option Directive :=
  match best with
  | none => some next
  | some best => if isAsGreat next.measures best.measures then some next else some best

end Directive

/-! ### Filters -/

/-- A filter: its directives. -/
abbrev Filter := List Directive

namespace Filter

/-- The filter that lets everything up to plain information pass. -/
def usual : Filter := [{ threshold := Level.info.rank }]

/-- Reads a filter. -/
def ofText? (text : List Char) : Option Filter :=
  ((Text.splitAll ',' text).filter fun part => !part.isEmpty).mapM Directive.ofText?

/-- The filter that a variable asks for; a variable that is not set, or that holds none, asks for the
usual one. -/
def ofVariable (text : Option String) : Filter :=
  ((text.map String.toList) >>= ofText?).getD usual

/-- The directive that decides on an entry. -/
def deciding? (filter : Filter) (entry : Entry) : Option Directive :=
  (filter.filter fun directive => directive.appliesTo entry).foldl Directive.moreSpecific none

/-- An entry passes. -/
def passes (filter : Filter) (entry : Entry) : Bool :=
  match filter.deciding? entry with
  | some directive => entry.level.rank ≤ directive.threshold
  | none => false

end Filter

end Fixity.Log
