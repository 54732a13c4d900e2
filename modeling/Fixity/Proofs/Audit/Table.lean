/-
This file proves that the table of a batch can be read again. What is written for a
row is that row in the format, whatever characters its fields hold, so that any rows
with a field each, one line after the other, are read as they were. A batch of which
every line is taken so leaves the headings and the cells of its records, one row for
each id in their order.
-/

import Fixity.Proofs.Audit.Batch
import Fixity.Proofs.Audit.Csv

namespace Fixity.Audit

/-! ### Rows that are written -/

namespace Csv

theorem isSpecial_iff {c : Char} : isSpecial c = true ↔ c ∈ marks := by
  simp only [isSpecial, marks, Bool.or_eq_true, beq_iff_eq, List.mem_cons, List.not_mem_nil,
    or_false, or_assoc]

theorem inside_doubled (text : List Char) : Inside (doubled text) text := by
  fun_induction doubled text with
  | case1 => exact .nil
  | case2 rest inductionHypothesis => exact .quote inductionHypothesis
  | case3 c rest unquote inductionHypothesis => exact .other unquote inductionHypothesis

theorem field_field (text : List Char) : Field (field text) text := by
  rw [field]
  split
  case isTrue => exact .quoted (inside_doubled text)
  case isFalse unmarked =>
    refine .plain fun c member marked => unmarked (List.any_eq_true.mpr ⟨c, member, ?_⟩)
    exact isSpecial_iff.mpr marked

theorem row_line {cells : List String} (present : cells ≠ []) :
    Row (line cells).toList cells := by
  rw [line, String.toList_ofList]
  induction cells with
  | nil => exact absurd rfl present
  | cons cell rest inductionHypothesis =>
    have own := field_field cell.toList
    cases rest with
    | nil =>
      have alone := Row.last own
      rw [String.ofList_toList] at alone
      rwa [List.map_singleton, List.intercalate_singleton]
    | cons next rest =>
      have further := Row.more own (inductionHypothesis (List.cons_ne_nil next rest))
      rw [String.ofList_toList] at further
      rw [List.map_cons, List.intercalate_cons_of_ne_nil (by rw [List.map_cons]; nofun),
        List.append_assoc]
      exact further

/-- Rows with a field each, one line after the other, are a table. -/
theorem table_lines {rows : List (List String)} (present : ∀ row ∈ rows, row ≠ []) :
    Table (String.join (rows.map fun row => line row ++ "\n")).toList rows := by
  induction rows with
  | nil => exact .empty
  | cons row rest inductionHypothesis =>
    obtain ⟨first, others⟩ := List.forall_mem_cons.mp present
    rw [List.map_cons, String.join_cons, String.toList_append, String.toList_append,
      List.append_assoc]
    exact .more (row_line first) (inductionHypothesis others)

theorem read_lines {rows : List (List String)} (present : ∀ row ∈ rows, row ≠ []) :
    read (String.join (rows.map fun row => line row ++ "\n")) = some rows :=
  read_eq_some_iff.mpr (table_lines present)

-- A row without fields is written as one with an empty field is.
example : read (line [] ++ "\n") = some [[""]] := by decide +kernel

end Csv

/-! ### Tables of batches -/

namespace Batch

open Program

/-- The text of a batch of which every line is taken. -/
theorem text_finish {sink : Sink} {records : List Record} (summary : Summary)
    (takes : ∀ line ≤ records.length, sink.refuses line = none) :
    (finish sink ⟨Csv.line headings :: sink.taken 1 (records.map Record.row), summary⟩).text =
      String.join ((headings :: records.map Record.cells).map fun row => Csv.line row ++ "\n") := by
  have taken : sink.taken 1 (records.map Record.row) = records.map Record.row := by
    refine Sink.taken_eq_self fun line early => takes line ?_
    rw [List.length_map] at early
    omega
  rw [Report.text, written_finish, taken, List.map_cons, List.map_cons, List.map_map, List.map_map]
  rfl

/-- **Tables are read as they were written.** The reader knows the tables from all other texts. It
gives back any rows with a field each, and from the text of a batch of which every line is taken
the headings and, for each id, the cells of the record that its audit came to. -/
theorem read_text (full : Bool) (concurrency : Nat) (schedule : Window.Schedule) (sink : Sink)
    (ids : List Int64) (takes : ∀ line ≤ ids.length, sink.refuses line = none) (world : World σ)
    (state : σ) :
    (∀ text rows, Csv.read text = some rows ↔ Csv.Table text.toList rows) ∧
    (∀ rows : List (List String), (∀ row ∈ rows, row ≠ []) →
      Csv.read (String.join (rows.map fun row => Csv.line row ++ "\n")) = some rows) ∧
    let run := (run full concurrency schedule sink ids).run world state
    ∃ records : List Record,
      Csv.read run.value.text = some (headings :: records.map Record.cells) ∧
      (∀ row ∈ headings :: records.map Record.cells, row.length = 29) ∧
      records.length = ids.length ∧
      ∀ (number : Nat) (id : Int64), ids[number]? = some id → ∃ record exchanges,
        records[number]? = some record ∧ exchanges.Sublist run.exchanges ∧
          (audit full id).Yields exchanges record := by
  refine ⟨fun _ _ => Csv.read_eq_some_iff, fun _ => Csv.read_lines, ?_⟩
  intro run
  obtain ⟨events, records, progress, interleaving, along, report⟩ :=
    exists_interleaving (takes 0 (Nat.zero_le _)) (yields_run world state _)
  have size := length_records interleaving
  have width : ∀ row ∈ headings :: records.map Record.cells, row.length = 29 := by
    rw [List.forall_mem_cons]
    refine ⟨rfl, fun row member => ?_⟩
    obtain ⟨record, -, rfl⟩ := List.mem_map.mp member
    exact record.length_cells
  refine ⟨records, ?_, width, size, ?_⟩
  · have text := text_finish (tally sink records) (by rwa [size])
    rw [← report] at text
    rw [text]
    exact Csv.read_lines fun row member => by
      have wide := width row member
      rintro rfl
      cases wide
  · intro number id found
    obtain ⟨record, there, yields⟩ := exists_record interleaving found
    refine ⟨record, _, there, ?_, yields⟩
    rw [← along]
    exact Window.sublist_along number events

end Batch

end Fixity.Audit

namespace Fixity

/-- Answers about files that lie nowhere, for a reason with commas, quotes and line ends in it. -/
def Answers.unruly : Answers :=
  { Answers.stray with
    resolution := fun file =>
      ⟨none, .error (.noStorageLocation file.identifier "no copy,\r\n\"none\",\n\"\"")⟩ }

/-- Rows of unruly fields, and the table of a batch of three audits, two of them side by side. -/
theorem Audit.Batch.read_text_unruly :
    let rows := [["a,b", "\"", "\r\n\"\""], [""], ["", "ß,", "\""]]
    let run := (run true 2 (fun _ => [1, 0, 1]) .open [1, 2, 1]).run
      (Answers.unruly.world .epoch) ()
    (∀ line ≤ [1, 2, 1].length, Sink.open.refuses line = none) ∧ (∀ row ∈ rows, row ≠ []) ∧
      Csv.read (String.join (rows.map fun row => Csv.line row ++ "\n")) = some rows ∧
      ∃ records : List Record,
        Csv.read run.value.text = some (headings :: records.map Record.cells) ∧
        (∀ row ∈ headings :: records.map Record.cells, row.length = 29) ∧
        records.length = 3 ∧
        ∀ (number : Nat) (id : Int64), [1, 2, 1][number]? = some id → ∃ record exchanges,
          records[number]? = some record ∧ exchanges.Sublist run.exchanges ∧
            (audit true id).Yields exchanges record := by
  intro rows run
  have present : ∀ row ∈ rows, row ≠ [] := by decide
  obtain ⟨-, given, batch⟩ :=
    read_text true 2 (fun _ => [1, 0, 1]) .open [1, 2, 1] (fun _ _ => rfl)
      (Answers.unruly.world .epoch) ()
  exact ⟨fun _ _ => rfl, present, given rows present, batch⟩

end Fixity
