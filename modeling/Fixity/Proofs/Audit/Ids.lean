/-
This file proves that every line of a list of ids is accounted for. A line is blank,
or the numeral of an id, or it is warned of under its number; what is read are the
ids of the lines in their order and one warning for each of the others. So ids that
are written one in a line are read as they are, whatever blanks stand around them and
between their lines.
-/

import Fixity.Audit.Batch
import Fixity.Proofs.Text.Lines
import Fixity.Proofs.Text.Numerals
import Mathlib.Data.List.Forall2

namespace Fixity.Audit.Batch

/-! ### What a line holds -/

/-- What a line holds, told from its text without the blanks around it: nothing, the numeral of an
id, or something else. -/
inductive Line.Holds (trimmed : List Char) : Line → Prop where
  | blank : trimmed = [] → Holds trimmed .blank
  | id {value : Int64} : Text.Numeral trimmed value.toInt → Holds trimmed (.id value)
  | foreign : trimmed ≠ [] → (∀ value : Int64, ¬ Text.Numeral trimmed value.toInt) →
      Holds trimmed (.foreign (String.ofList trimmed))

/-- The line of a text without blanks around it. -/
def Line.ofTrimmed (trimmed : List Char) : Line :=
  if trimmed.isEmpty then .blank
  else
    match Text.readInt64 trimmed with
    | .ok value => .id value
    | .error _ => .foreign (String.ofList trimmed)

theorem Line.ofText_eq (text : List Char) : ofText text = ofTrimmed (Text.trim text) := rfl

theorem Line.holds_ofTrimmed (trimmed : List Char) : Holds trimmed (ofTrimmed trimmed) := by
  rw [ofTrimmed]
  split
  case isTrue empty => exact .blank (List.isEmpty_iff.mp empty)
  case isFalse present =>
    split
    case h_1 value read => exact .id (Text.readInt64_eq_ok_iff.mp read)
    case h_2 fault read =>
      refine .foreign (mt List.isEmpty_iff.mpr present) fun value numeral => ?_
      rw [Text.readInt64_eq_ok_iff.mpr numeral] at read
      cases read

/-- What is held is told by the text. -/
theorem Line.ofTrimmed_eq_iff {trimmed : List Char} {held : Line} :
    ofTrimmed trimmed = held ↔ Holds trimmed held := by
  constructor
  · rintro rfl
    exact holds_ofTrimmed trimmed
  · rintro (rfl | numeral | ⟨present, none⟩)
    · rfl
    · have present : trimmed ≠ [] := numeral.ne_nil
      rw [ofTrimmed, if_neg (mt List.isEmpty_iff.mp present), Text.readInt64_eq_ok_iff.mpr numeral]
    · rw [ofTrimmed, if_neg (mt List.isEmpty_iff.mp present)]
      cases read : Text.readInt64 trimmed with
      | ok value => exact absurd (Text.readInt64_eq_ok_iff.mp read) (none value)
      | error fault => rfl

/-! ### Accounts of lines -/

/-- The id that a line holds. -/
def Line.id? : Line → Option Int64
  | id value => some value
  | _ => none

/-- The warning of a line that holds neither an id nor nothing. -/
def Line.warning? (number : Nat) : Line → Option Log.Entry
  | foreign text =>
    some {
      level := .warn
      origin := .batch
      message := s!"Ignoring input file line {number}: {text} is not a number" }
  | _ => none

/-- The warnings of some lines, the first of which has the given number. -/
def warnings (number : Nat) (held : List Line) : List Log.Entry :=
  (held.zipIdx number).filterMap fun (line, number) => line.warning? number

theorem warnings_cons (number : Nat) (line : Line) (rest : List Line) :
    warnings number (line :: rest) =
      (line.warning? number).toList ++ warnings (number + 1) rest := by
  rw [warnings, List.zipIdx_cons]
  cases found : line.warning? number with
  | none => exact List.filterMap_cons_none found
  | some entry => exact List.filterMap_cons_some found

theorem idsOfLines_eq (number : Nat) (lines : List (List Char)) :
    idsOfLines number lines =
      ((lines.map Line.ofText).filterMap Line.id?, warnings number (lines.map Line.ofText)) := by
  induction lines generalizing number with
  | nil => rfl
  | cons line rest inductionHypothesis =>
    rw [idsOfLines, inductionHypothesis, List.map_cons, warnings_cons]
    cases held : Line.ofText line with
    | blank => rfl
    | id value => rfl
    | foreign text =>
      have digits : toString number = String.ofList (Text.writeNat number) :=
        Nat.toString_eq_ofList_toDigits
      rw [Line.warning?, digits]
      rfl

theorem ids_cons (line : Line) (rest : List Line) :
    (line :: rest).filterMap Line.id? = line.id?.toList ++ rest.filterMap Line.id? := by
  cases found : line.id? with
  | none => exact List.filterMap_cons_none found
  | some value => exact List.filterMap_cons_some found

/-- A line counts once: as an id, as a warning or as blank. -/
theorem Line.count_once (number : Nat) (line : Line) :
    line.id?.toList.length + (line.warning? number).toList.length + [line].count .blank = 1 := by
  cases line <;> rfl

theorem length_add_length (number : Nat) (held : List Line) :
    (held.filterMap Line.id?).length + (warnings number held).length + held.count .blank =
      held.length := by
  induction held generalizing number with
  | nil => rfl
  | cons line rest inductionHypothesis =>
    have first := line.count_once number
    have further := inductionHypothesis (number + 1)
    rw [ids_cons, warnings_cons, ← List.singleton_append, List.count_append]
    simp only [List.length_append, List.length_singleton]
    omega

/-- The lines of a text are accounted for: each holds what its trimmed text says, the ids are those
of the lines in their order, and each line that is neither blank nor an id has a warning under its
number. -/
structure Accounted (contents : String) (held : List Line) (ids : List Int64)
    (entries : List Log.Entry) : Prop where
  holds : List.Forall₂ (fun line held => Line.Holds (Text.trim line) held)
    (Text.feedLines contents.toList) held
  ids_eq : ids = held.filterMap Line.id?
  entries_eq : entries = warnings 1 held
  once : ids.length + entries.length + held.count .blank = (Text.feedLines contents.toList).length

theorem map_ofText_lines (text : List Char) :
    (Text.lines text).map Line.ofText = (Text.feedLines text).map Line.ofText := by
  have trimmed := congrArg (List.map Line.ofTrimmed) (Text.map_trim_lines text)
  rwa [List.map_map, List.map_map] at trimmed

theorem fileIds_eq (contents : String) :
    fileIds contents =
      (((Text.feedLines contents.toList).map Line.ofText).filterMap Line.id?,
        warnings 1 ((Text.feedLines contents.toList).map Line.ofText)) := by
  rw [fileIds, idsOfLines_eq, map_ofText_lines]

theorem accounted_fileIds (contents : String) :
    Accounted contents ((Text.feedLines contents.toList).map Line.ofText) (fileIds contents).1
      (fileIds contents).2 := by
  rw [fileIds_eq]
  refine ⟨?_, rfl, rfl, ?_⟩
  · rw [List.forall₂_map_right_iff, List.forall₂_same]
    exact fun line _ => Line.holds_ofTrimmed (Text.trim line)
  · rw [length_add_length, List.length_map]

/-! ### Ids as they are written -/

/-- Blanks that stay in their line. -/
structure Margin where
  text : List Char
  blank : ∀ c ∈ text, Text.isBlank c = true
  unended : '\n' ∉ text

/-- A line that is blank or has one id in it. -/
inductive Row where
  | blank (margin : Margin)
  | id (before : Margin) (value : Int64) (after : Margin)

/-- The text of a line. -/
def Row.text : Row → List Char
  | blank margin => margin.text
  | id before value after => before.text ++ (Text.writeInt64 value).toList ++ after.text

/-- The id in a line. -/
def Row.id? : Row → Option Int64
  | blank _ => none
  | id _ value _ => some value

/-- What a line holds. -/
def Row.held : Row → Line
  | blank _ => .blank
  | id _ value _ => .id value

theorem Row.id?_held (row : Row) : row.held.id? = row.id? := by
  cases row <;> rfl

theorem Row.warning?_held (row : Row) (number : Nat) : row.held.warning? number = none := by
  cases row <;> rfl

/-- How a line ends: with a line feed, alone or after a carriage return. -/
inductive LineEnd where
  | feed
  | returnAndFeed

/-- What stands before the line feed at the end of a line. -/
def LineEnd.front : LineEnd → List Char
  | feed => []
  | returnAndFeed => ['\r']

/-- The text of some lines that end, and of one that may follow without an end. -/
def written (last : Option Row) : List (Row × LineEnd) → List Char
  | [] => (last.map Row.text).getD []
  | (row, lineEnd) :: rest => row.text ++ lineEnd.front ++ '\n' :: written last rest

/-- The ids in these lines. -/
def writtenIds (last : Option Row) (rows : List (Row × LineEnd)) : List Int64 :=
  (rows.map Prod.fst ++ last.toList).filterMap Row.id?

theorem writtenIds_cons (last : Option Row) (row : Row) (lineEnd : LineEnd)
    (rows : List (Row × LineEnd)) :
    writtenIds last ((row, lineEnd) :: rows) = row.id?.toList ++ writtenIds last rows := by
  cases row <;> rfl

theorem isBlank_of_mem_writeInt64 (value : Int64) :
    ∀ c ∈ (Text.writeInt64 value).toList, Text.isBlank c = false := by
  rw [Text.writeInt64, String.toList_ofList]
  exact (Text.numeral_writeInt value.toInt).isBlank_of_mem

theorem Row.unended (row : Row) : '\n' ∉ row.text := by
  cases row with
  | blank margin => exact margin.unended
  | id before value after =>
    have digits : '\n' ∉ (Text.writeInt64 value).toList := by
      intro member
      cases isBlank_of_mem_writeInt64 value '\n' member
    rw [text, List.mem_append, List.mem_append]
    exact not_or.mpr ⟨not_or.mpr ⟨before.unended, digits⟩, after.unended⟩

theorem Row.ofText_text (row : Row) : Line.ofText row.text = row.held := by
  rw [Line.ofText_eq, Line.ofTrimmed_eq_iff]
  cases row with
  | blank margin => exact .blank (Text.trim_eq_nil margin.blank)
  | id before value after =>
    rw [text, Text.trim_append_right after.blank, Text.trim_append_left before.blank,
      Text.trim_eq_self (isBlank_of_mem_writeInt64 value), Text.writeInt64, String.toList_ofList]
    exact .id (Text.numeral_writeInt value.toInt)

theorem Line.ofText_withoutReturn (text : List Char) :
    ofText (Text.withoutReturn text) = ofText text := by
  rw [ofText_eq, Text.trim_withoutReturn, ← ofText_eq]

/-- What the lines of written ids hold. -/
theorem map_ofText_written (row : Row) (lineEnd : LineEnd) (rows : List (Row × LineEnd))
    (last : Option Row) :
    (Text.feedLines (written last ((row, lineEnd) :: rows))).map Line.ofText =
      row.held :: (Text.feedLines (written last rows)).map Line.ofText := by
  have whole : '\n' ∉ row.text ++ lineEnd.front := by
    rw [List.mem_append]
    exact not_or.mpr ⟨row.unended, by cases lineEnd <;> decide⟩
  have blank : ∀ c ∈ lineEnd.front, Text.isBlank c = true := by
    cases lineEnd with
    | feed => exact List.forall_mem_nil _
    | returnAndFeed => exact List.forall_mem_singleton.mpr rfl
  have own : Line.ofText (Text.withoutReturn (row.text ++ lineEnd.front)) = row.held := by
    rw [Line.ofText_withoutReturn, Line.ofText_eq, Text.trim_append_right blank, ← Line.ofText_eq,
      row.ofText_text]
  rw [written, Text.feedLines, Text.feedParts_append_cons whole, List.map_cons, List.map_cons, own]
  rfl

/-- A line at the end that is empty is none, but it would hold nothing either. -/
theorem map_ofText_unended (row : Row) :
    (Text.feedLines row.text).map Line.ofText = if row.text = [] then [] else [row.held] := by
  rw [Text.feedLines, Text.feedParts_of_notMem row.unended]
  split
  · rfl
  · rw [List.map_singleton, List.map_singleton, Line.ofText_withoutReturn, row.ofText_text]

theorem Row.held_of_empty {row : Row} (empty : row.text = []) : row.held = .blank := by
  rw [← row.ofText_text, empty]
  rfl

/-- Written ids are held by their lines, and nothing else is. -/
theorem written_ids (number : Nat) (rows : List (Row × LineEnd)) (last : Option Row) :
    ((Text.feedLines (written last rows)).map Line.ofText).filterMap Line.id? =
        writtenIds last rows ∧
      warnings number ((Text.feedLines (written last rows)).map Line.ofText) = [] := by
  induction rows generalizing number with
  | nil =>
    cases last with
    | none => exact ⟨rfl, rfl⟩
    | some row =>
      have held : ([row.held].filterMap Line.id? = writtenIds (some row) []) ∧
          warnings number [row.held] = [] := by cases row <;> exact ⟨rfl, rfl⟩
      rw [written, Option.map_some, Option.getD_some, map_ofText_unended]
      split
      case isTrue empty =>
        rw [Row.held_of_empty empty] at held
        exact held
      case isFalse => exact held
  | cons first rest inductionHypothesis =>
    obtain ⟨row, lineEnd⟩ := first
    obtain ⟨ids, none⟩ := inductionHypothesis (number + 1)
    rw [map_ofText_written, ids_cons, warnings_cons, row.id?_held, row.warning?_held, ids, none,
      writtenIds_cons]
    exact ⟨rfl, rfl⟩

/-- **Every line of a list of ids is accounted for.** Whatever the text, its ids are those of its
lines, in their order, and every other line has one warning unless it is blank. Ids that are
written one in a line, with any blanks around them and between the lines, are read as they are. -/
theorem accounted_and_readBack :
    (∀ contents, ∃ held, Accounted contents held (fileIds contents).1 (fileIds contents).2) ∧
      ∀ rows last, fileIds (String.ofList (written last rows)) = (writtenIds last rows, []) := by
  refine ⟨fun contents => ⟨_, accounted_fileIds contents⟩, fun rows last => ?_⟩
  obtain ⟨ids, none⟩ := written_ids 1 rows last
  rw [fileIds_eq, String.toList_ofList, ids, none]

-- The least word is an id, the successor of the greatest is none, and neither is a sign alone.
example :
    let read := fileIds "+7\r\n\u00a0 -9223372036854775808\n\n9223372036854775808\n-"
    read.1 = [7, -9223372036854775808] ∧ read.2.map Log.Entry.message =
      ["Ignoring input file line 4: 9223372036854775808 is not a number",
        "Ignoring input file line 5: - is not a number"] := by
  decide +kernel

end Fixity.Audit.Batch
