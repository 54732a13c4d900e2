/-
This file proves that JSON values are read back from their texts. What documents are
made of is written so that its reader, however deep it is nested, consumes the text
and leaves what follows; a document is nested no deeper than it is long.
-/

import Fixity.Proofs.Json.Literals

namespace Fixity.Json

open Reader Text

/-! ### Plain values -/

/-- A value that documents are made of: its numbers are integers, and its literals denote texts. -/
inductive Plain : Json → Prop where
  | null : Plain .null
  | bool (b : Bool) : Plain (.bool b)
  | integer (n : Int) : Plain (.integer n)
  | text (content : String) : Plain (.text content)
  | array {items : List Json} (each : ∀ item ∈ items, Plain item) : Plain (.array items)
  | record {members : List (String × Json)} (each : ∀ member ∈ members, Plain member.2) :
      Plain (.record members)

/-! ### What values begin with -/

theorem skipSpace_cons {c : Char} (tail : Source) (visible : isSpace c = false) :
    skipSpace (.scalar c :: tail) = .scalar c :: tail := by
  rw [skipSpace, visible, if_neg Bool.false_ne_true]

/-- Numbers begin with no blank, and with nothing that another value begins or ends with. -/
theorem isSpace_eq_false {c : Char} (head : c = '-' ∨ c.isDigit = true) : isSpace c = false := by
  cases space : isSpace c with
  | false => rfl
  | true =>
    simp only [isSpace, Bool.or_eq_true, beq_iff_eq, or_assoc] at space
    rcases space with rfl | rfl | rfl | rfl <;> exact absurd head (by decide)

theorem value_number {c : Char} (fuel : Nat) (tail : Source) (head : c = '-' ∨ c.isDigit = true) :
    value (fuel + 1) (.scalar c :: tail) = number (.scalar c :: tail) := by
  unfold value
  rw [skipSpace_cons tail (isSpace_eq_false head)]
  split
  case h_7 => rfl
  all_goals
    next same =>
    cases same
    exact absurd head (by decide)

/-- Written values begin with what is neither a blank nor the end of an array. -/
theorem Plain.exists_cons {v : Json} (plain : Plain v) :
    ∃ c tail, write v = c :: tail ∧ isSpace c = false ∧ c ≠ ']' := by
  cases plain with
  | null | text | array | record => exact ⟨_, _, rfl, rfl, by decide⟩
  | bool b => cases b <;> exact ⟨_, _, rfl, rfl, by decide⟩
  | integer n =>
    obtain ⟨c, tail, cons, head⟩ := exists_cons_writeInt n
    refine ⟨c, tail, cons, isSpace_eq_false head, ?_⟩
    rintro rfl
    exact absurd head (by decide)

/-! ### Items and members -/

/-- The value is read from its text, in front of anything that can follow it. -/
def Reads (v : Json) : Prop :=
  ∀ (fuel : Nat) (rest : Source), Ends rest → (write v).length ≤ fuel →
    value fuel (sourceOf (write v) ++ rest) = some (v, rest)

/-- The items of an array are read if each of them is. -/
theorem items_write {list : List Json} (present : list ≠ []) (each : ∀ item ∈ list, Reads item)
    (fuel : Nat) (enough : (writeItems list).length < fuel) (rest : Source) :
    items fuel (sourceOf (writeItems list) ++ .scalar ']' :: rest) = some (list, rest) := by
  induction list generalizing fuel with
  | nil => exact absurd rfl present
  | cons item more inductionHypothesis =>
    obtain ⟨fuel, rfl⟩ := Nat.exists_eq_succ_of_ne_zero (Nat.ne_zero_of_lt enough)
    have head := each item List.mem_cons_self
    cases more with
    | nil =>
      rw [writeItems] at enough ⊢
      rw [items, head fuel _ (ends_cons rest (by decide)) (Nat.le_of_lt_succ enough)]
      rfl
    | cons next more =>
      -- The comma pays for the fuel that the next item takes.
      rw [writeItems, List.length_append, List.length_cons] at enough
      have tail := inductionHypothesis (List.cons_ne_nil next more)
        (fun other member => each other (List.mem_cons_of_mem item member)) fuel (by omega)
      have source : sourceOf (writeItems (item :: next :: more)) ++ .scalar ']' :: rest =
          sourceOf (write item) ++
            .scalar ',' :: (sourceOf (writeItems (next :: more)) ++ .scalar ']' :: rest) := by
        simp [writeItems, sourceOf]
      rw [source, items, head fuel _ (ends_cons _ (by decide)) (by omega)]
      simp only [Option.bind_eq_bind, Option.bind_some, skipSpace_cons _ (rfl : isSpace ',' = false),
        tail]
      rfl

/-- The members as they stand in an object. -/
def named (list : List (String × Json)) : List (Option String × Json) :=
  list.map fun (name, v) => (some name, v)

/-- What is read after a member: more members where a comma stands, and none at the brace. -/
def membersAfter (fuel : Nat) (member : Option String × Json) :
    Source → Option (List (Option String × Json) × Source)
  | .scalar ',' :: rest => do
    let (more, rest) ← members fuel rest
    return (member :: more, rest)
  | .scalar '\x7d' :: rest => return ([member], rest)
  | _ => none

/-- A member is read from its text, and then what is read after it. -/
theorem members_writeMember (name : String) {v : Json} (reads : Reads v) {fuel : Nat}
    {rest : Source} (ends : Ends rest) (enough : (write v).length ≤ fuel) :
    members (fuel + 1) (sourceOf (writeMember (some name, v)) ++ rest) =
      membersAfter fuel (some name, v) (skipSpace rest) := by
  obtain ⟨literal, written, read⟩ :=
    stringContent_writeString name (.scalar ':' :: (sourceOf (write v) ++ rest))
  have source : sourceOf (writeMember (some name, v)) ++ rest =
      .scalar '"' :: (sourceOf literal ++ .scalar ':' :: (sourceOf (write v) ++ rest)) := by
    simp [writeMember, written, sourceOf]
  rw [source, members, skipSpace_cons _ (rfl : isSpace '"' = false)]
  simp only [word, if_true, Option.bind_eq_bind, Option.bind_some, read,
    skipSpace_cons _ (rfl : isSpace ':' = false), reads fuel rest ends enough]
  rfl

/-- The members of an object are read if their values are. -/
theorem members_write {list : List (String × Json)} (present : list ≠ [])
    (each : ∀ member ∈ list, Reads member.2) (fuel : Nat)
    (enough : (writeMembers (named list)).length < fuel) (rest : Source) :
    members fuel (sourceOf (writeMembers (named list)) ++ .scalar '\x7d' :: rest) =
      some (named list, rest) := by
  induction list generalizing fuel with
  | nil => exact absurd rfl present
  | cons member more inductionHypothesis =>
    obtain ⟨name, v⟩ := member
    obtain ⟨fuel, rfl⟩ := Nat.exists_eq_succ_of_ne_zero (Nat.ne_zero_of_lt enough)
    have head : Reads v := each (name, v) List.mem_cons_self
    cases more with
    | nil =>
      have member : writeMembers (named [(name, v)]) = writeMember (some name, v) := rfl
      rw [member] at enough ⊢
      rw [writeMember, List.length_append, List.length_cons] at enough
      rw [members_writeMember name head (ends_cons rest (by decide)) (by omega)]
      rfl
    | cons next more =>
      have members : writeMembers (named ((name, v) :: next :: more)) =
          writeMember (some name, v) ++ ',' :: writeMembers (named (next :: more)) := rfl
      rw [members, writeMember, List.length_append, List.length_append, List.length_cons,
        List.length_cons] at enough
      have tail := inductionHypothesis (List.cons_ne_nil next more)
        (fun other member => each other (List.mem_cons_of_mem _ member)) fuel (by omega)
      have source : sourceOf (writeMembers (named ((name, v) :: next :: more))) ++
            .scalar '\x7d' :: rest =
          sourceOf (writeMember (some name, v)) ++
            .scalar ',' :: (sourceOf (writeMembers (named (next :: more))) ++
              .scalar '\x7d' :: rest) := by
        simp [members, sourceOf]
      rw [source, members_writeMember name head (ends_cons _ (by decide)) (by omega),
        skipSpace_cons _ (rfl : isSpace ',' = false), membersAfter, tail]
      rfl

/-! ### Values -/

/-- An array with items is read as they are. -/
theorem value_array {item : Json} (plain : Plain item) (more : List Json) (fuel : Nat)
    (rest : Source) :
    value (fuel + 1) (.scalar '[' :: (sourceOf (writeItems (item :: more)) ++ rest)) =
      (items fuel (sourceOf (writeItems (item :: more)) ++ rest)).map
        fun (items, rest) => (.array items, rest) := by
  obtain ⟨c, tail, cons, visible, inside⟩ : ∃ c tail, writeItems (item :: more) = c :: tail ∧
      isSpace c = false ∧ c ≠ ']' := by
    obtain ⟨c, tail, cons, visible, inside⟩ := plain.exists_cons
    cases more with
    | nil => exact ⟨c, tail, cons, visible, inside⟩
    | cons next more =>
      refine ⟨c, tail ++ ',' :: writeItems (next :: more), ?_, visible, inside⟩
      rw [writeItems, cons]
      rfl
  rw [cons, value, skipSpace_cons _ (rfl : isSpace '[' = false)]
  have shown : skipSpace (sourceOf (c :: tail) ++ rest) = sourceOf (c :: tail) ++ rest :=
    skipSpace_cons _ visible
  simp only [shown]
  split
  · next same =>
    cases same
    exact absurd rfl inside
  · rfl

/-- An object with members is read as they are. -/
theorem value_object (member : String × Json) (more : List (String × Json)) (fuel : Nat)
    (rest : Source) :
    value (fuel + 1) (.scalar '\x7b' :: (sourceOf (writeMembers (named (member :: more))) ++ rest)) =
      (members fuel (sourceOf (writeMembers (named (member :: more))) ++ rest)).map
        fun (members, rest) => (.object members, rest) := by
  obtain ⟨tail, cons⟩ : ∃ tail, writeMembers (named (member :: more)) = '"' :: tail := by
    cases more <;> exact ⟨_, rfl⟩
  rw [cons, value, skipSpace_cons _ (rfl : isSpace '\x7b' = false)]
  rfl

/-- Values are read from their texts. -/
theorem Plain.reads {v : Json} (plain : Plain v) : Reads v := by
  induction plain with
  | null =>
    rintro (_ | fuel) rest ends enough
    · cases enough
    · rfl
  | bool b =>
    rintro (_ | fuel) rest ends enough
    · cases b <;> cases enough
    · cases b <;> rfl
  | integer n =>
    intro fuel rest ends enough
    obtain ⟨c, tail, cons, head⟩ := exists_cons_writeInt n
    have read := number_writeInt n ends
    rw [write] at enough ⊢
    rw [cons] at enough read ⊢
    obtain ⟨fuel, rfl⟩ := Nat.exists_eq_succ_of_ne_zero (Nat.ne_zero_of_lt enough)
    exact (value_number fuel _ head).trans read
  | text content =>
    intro fuel rest ends enough
    obtain ⟨literal, written, read⟩ := stringContent_writeString content rest
    have whole : write (.text content) = '"' :: literal := written
    rw [whole] at enough ⊢
    obtain ⟨fuel, rfl⟩ := Nat.exists_eq_succ_of_ne_zero (Nat.ne_zero_of_lt enough)
    have source : sourceOf ('"' :: literal) ++ rest = .scalar '"' :: (sourceOf literal ++ rest) :=
      rfl
    rw [source, value, skipSpace_cons _ (rfl : isSpace '"' = false)]
    simp only [read]
    rfl
  | @array list each inductionHypothesis =>
    intro fuel rest ends enough
    rw [write, List.length_append, List.length_cons, List.length_singleton] at enough
    obtain ⟨fuel, rfl⟩ := Nat.exists_eq_succ_of_ne_zero (Nat.ne_zero_of_lt enough)
    cases list with
    | nil => rfl
    | cons item more =>
      have read := items_write (List.cons_ne_nil item more) inductionHypothesis fuel (by omega) rest
      have source : sourceOf (write (.array (item :: more))) ++ rest =
          .scalar '[' :: (sourceOf (writeItems (item :: more)) ++ .scalar ']' :: rest) := by
        simp [write, sourceOf]
      rw [source, value_array (each item List.mem_cons_self), read]
      rfl
  | @record list each inductionHypothesis =>
    intro fuel rest ends enough
    have whole : write (.record list) = '\x7b' :: writeMembers (named list) ++ ['\x7d'] := by
      show write (.object (named list)) = _
      rw [write]
    rw [whole] at enough ⊢
    rw [List.length_append, List.length_cons, List.length_singleton] at enough
    obtain ⟨fuel, rfl⟩ := Nat.exists_eq_succ_of_ne_zero (Nat.ne_zero_of_lt enough)
    cases list with
    | nil => rfl
    | cons member more =>
      have read := members_write (List.cons_ne_nil member more) inductionHypothesis fuel (by omega)
        rest
      have source : sourceOf ('\x7b' :: writeMembers (named (member :: more)) ++ ['\x7d']) ++ rest =
          .scalar '\x7b' :: (sourceOf (writeMembers (named (member :: more))) ++
            .scalar '\x7d' :: rest) := by
        simp [sourceOf]
      rw [source, value_object, read]
      rfl

/-- **Reading undoes printing.** A plain value is what its text holds. -/
theorem ofString?_print {v : Json} (plain : Plain v) : ofString? v.print = some v := by
  have pieces : Utf8.piecesOf v.print = sourceOf (write v) ++ [] := by
    rw [Utf8.piecesOf, print, String.toList_ofList, List.append_nil, sourceOf]
  have length : (write v).length ≤ (sourceOf (write v) ++ []).length + 1 := by
    rw [List.append_nil, sourceOf, List.length_map]
    exact Nat.le_succ _
  rw [ofString?, document, pieces, plain.reads _ [] ends_nil length]
  rfl

end Fixity.Json
