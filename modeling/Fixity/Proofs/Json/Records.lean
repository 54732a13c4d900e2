/-
This file proves that the fields of a record are read back. Where the names of a record
are distinct, each slot holds the value under its name; what a field holds, be it a
text, a number within its range, a point in time or a list, is read as it was written.
-/

import Fixity.Json.Decoder
import Fixity.Proofs.Json.Values
import Fixity.Proofs.Time.Reading

namespace Fixity.Json

open Text

/-! ### Slots -/

theorem valuesOf_cons (name other : String) (v : Json) (rest : List (Option String × Json)) :
    valuesOf name ((some other, v) :: rest) =
      if other = name then v :: valuesOf name rest else valuesOf name rest := by
  unfold valuesOf
  rw [List.filterMap_cons]
  by_cases same : other = name
  · simp [same]
  · simp [same]

theorem valuesOf_eq_nil {name : String} {members : List (String × Json)}
    (fresh : name ∉ members.map Prod.fst) : valuesOf name (named members) = [] := by
  induction members with
  | nil => rfl
  | cons member rest inductionHypothesis =>
    obtain ⟨other, v⟩ := member
    rw [List.map_cons, List.mem_cons, not_or] at fresh
    show valuesOf name ((some other, v) :: named rest) = []
    rw [valuesOf_cons, if_neg (Ne.symm fresh.1), inductionHypothesis fresh.2]

/-- Under each of distinct names there is one value. -/
theorem slot_named {members : List (String × Json)} (distinct : (members.map Prod.fst).Nodup)
    {name : String} {v : Json} (member : (name, v) ∈ members) :
    slot (named members) name = some (some v) := by
  suffices only : valuesOf name (named members) = [v] by
    rw [slot, only]
  induction members with
  | nil => cases member
  | cons first rest inductionHypothesis =>
    obtain ⟨other, w⟩ := first
    rw [List.map_cons, List.nodup_cons] at distinct
    show valuesOf name ((some other, w) :: named rest) = [v]
    rw [valuesOf_cons]
    rcases List.mem_cons.mp member with same | later
    · cases same
      rw [if_pos rfl, valuesOf_eq_nil distinct.1]
    · have apart : other ≠ name := by
        rintro rfl
        exact distinct.1 (List.mem_map.mpr ⟨_, later, rfl⟩)
      rw [if_neg apart, inductionHypothesis distinct.2 later]

/-- The slots of a record hold its values in order. -/
theorem slots_record {names : List String} {members : List (String × Json)}
    (same : members.map Prod.fst = names) (distinct : names.Nodup) :
    slots names (.record members) = some (members.map fun member => some member.2) := by
  subst same
  have all : ∀ member ∈ named members, member.1.isSome = true := by
    intro member within
    obtain ⟨⟨name, v⟩, -, rfl⟩ := List.mem_map.mp within
    rfl
  have each : ∀ part ⊆ members, (part.map Prod.fst).mapM (slot (named members)) =
      some (part.map fun member => some member.2) := by
    intro part
    induction part with
    | nil => exact fun _ => rfl
    | cons member rest inductionHypothesis =>
      intro within
      rw [List.cons_subset] at within
      rw [List.map_cons, List.mapM_cons, slot_named distinct within.1,
        inductionHypothesis within.2]
      rfl
  show slots (members.map Prod.fst) (.object (named members)) = _
  rw [slots, if_pos (List.all_eq_true.mpr all), each members (List.Subset.refl members)]

/-! ### Fields -/

@[simp]
theorem required_some (read : Json → Option α) (v : Json) : required read (some v) = read v := rfl

@[simp]
theorem withDefault_some (default : α) (read : Json → Option α) (v : Json) :
    withDefault default read (some v) = read v := rfl

@[simp]
theorem text?_text (content : String) : text? (.text content) = some content := rfl

@[simp]
theorem int64?_int64 (n : Int64) : int64? (.int64 n) = some n := by
  have within : IntegerRange.signed64.contains n.toInt = true := by
    have least := n.le_toInt
    have greatest := n.toInt_lt
    simp only [IntegerRange.contains, IntegerRange.signed64, Bool.and_eq_true]
    refine ⟨decide_eq_true ?_, decide_eq_true ?_⟩ <;> omega
  show (if IntegerRange.signed64.contains n.toInt then some n.toInt else none).map Int64.ofInt = _
  rw [if_pos within, Option.map_some, Int64.ofInt_toInt]

@[simp]
theorem uint32?_toNat (n : UInt32) : uint32? (.integer n.toNat) = some n := by
  have within : IntegerRange.unsigned32.contains n.toNat = true := by
    have bounded := n.toNat_lt
    simp only [IntegerRange.contains, IntegerRange.unsigned32, Bool.and_eq_true]
    refine ⟨decide_eq_true ?_, decide_eq_true ?_⟩ <;> omega
  show (if IntegerRange.unsigned32.contains n.toNat then some (n.toNat : Int) else none).map
    (fun n => UInt32.ofNat n.toNat) = _
  rw [if_pos within, Option.map_some, Int.toNat_natCast, UInt32.ofNat_toNat]

@[simp]
theorem timestamp?_timestamp (t : Time.Timestamp) : timestamp? (.timestamp t) = some t := by
  rw [timestamp?, timestamp, text?_text, Option.bind_eq_bind, Option.bind_some,
    Time.Reading.ofString?_text]

@[simp]
theorem nullable_timestampOrNull (t : Option Time.Timestamp) :
    nullable timestamp? (.timestampOrNull t) = some t := by
  cases t with
  | none => rfl
  | some t =>
    show (timestamp? (.timestamp t)).map some = some (some t)
    rw [timestamp?_timestamp, Option.map_some]

theorem plain_timestampOrNull (t : Option Time.Timestamp) : Plain (.timestampOrNull t) := by
  cases t with
  | none => exact .null
  | some t => exact .text _

/-- A list is read as its items are. -/
theorem list?_map {write : α → Json} {read : Json → Option α}
    (each : ∀ value, read (write value) = some value) (values : List α) :
    list? read (.array (values.map write)) = some values := by
  show (values.map write).mapM read = some values
  induction values with
  | nil => rfl
  | cons value rest inductionHypothesis =>
    rw [List.map_cons, List.mapM_cons, each, inductionHypothesis]
    rfl

end Fixity.Json
