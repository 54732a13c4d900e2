/-
This file holds the common parts of the readers of documents. A document of named
fields is an object, whose unknown members are skipped and whose known names may
not repeat, or an array with the fields in their order, which may end early. Both
forms are brought to a list of slots, one per field.
-/

import Fixity.Json.Value
import Fixity.Text.Integer
import Fixity.Time.Reading

namespace Fixity.Json

/-! ### Slots -/

/-- The values of the members with a name. -/
def valuesOf (name : String) (members : List (Option String × Json)) : List Json :=
  members.filterMap fun (other, value) => if other = some name then some value else none

/-- The slot of a name: empty where no member has it, refused where more than one has. -/
def slot (members : List (Option String × Json)) (name : String) : Option (Option Json) :=
  match valuesOf name members with
  | [] => some none
  | [value] => some (some value)
  | _ => none

/-- The slots of the fields with the given names. -/
def slots (names : List String) : Json → Option (List (Option Json))
  | .object members =>
    if members.all fun (name, _) => name.isSome then names.mapM (slot members) else none
  | .array items =>
    if items.length ≤ names.length then
      some (items.map some ++ List.replicate (names.length - items.length) none)
    else none
  | _ => none

/-- A field that must be present. -/
def required (read : Json → Option α) : Option Json → Option α
  | some value => read value
  | none => none

/-- A field that has a default. -/
def withDefault (default : α) (read : Json → Option α) : Option Json → Option α
  | some value => read value
  | none => some default

/-! ### Plain values -/

/-- A text. -/
def text? : Json → Option String
  | .string content => content
  | _ => none

/-- An integer within a range. -/
def integer? (range : Text.IntegerRange) : Json → Option Int
  | .integer value => if range.contains value then some value else none
  | _ => none

/-- A signed integer of sixty-four bits. -/
def int64? (value : Json) : Option Int64 :=
  (integer? .signed64 value).map Int64.ofInt

/-- An unsigned integer of thirty-two bits. -/
def uint32? (value : Json) : Option UInt32 :=
  (integer? .unsigned32 value).map fun n => UInt32.ofNat n.toNat

/-- A point in time, written as text. -/
def timestamp? (value : Json) : Option Time.Timestamp := do
  Time.Timestamp.ofString? (← text? value)

/-- Null or a value. -/
def nullable (read : Json → Option α) : Json → Option (Option α)
  | .null => some none
  | value => (read value).map some

/-- A list of values. -/
def list? (read : Json → Option α) : Json → Option (List α)
  | .array items => items.mapM read
  | _ => none

/-! ### Writing -/

/-- A signed integer of sixty-four bits as a value. -/
def int64 (n : Int64) : Json :=
  .integer n.toInt

/-- A point in time as a value. -/
def timestamp (t : Time.Timestamp) : Json :=
  .text t.text

/-- A point in time that may be absent. -/
def timestampOrNull : Option Time.Timestamp → Json
  | some t => timestamp t
  | none => .null

end Fixity.Json
