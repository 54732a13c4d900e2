/-
This file says which texts are tables of comma-separated values, and reads them. A
line feed ends a row, and the last row may lack it; commas part the fields of a row;
a field with a comma, a quote or a line break in it stands between quotes, and each
quote in it is written twice. The reader takes one character after the other, and the
stage of the open field decides what a character means. It accepts the tables and no
other text.
-/

import Mathlib.Data.List.Basic

namespace Fixity.Audit.Csv

/-! ### Tables as text -/

/-- The characters that stand for themselves only between quotes. -/
def marks : List Char := [',', '"', '\n', '\r']

/-- What stands between the quotes of a field. -/
inductive Inside : List Char → List Char → Prop where
  | nil : Inside [] []
  | quote {written text : List Char} (rest : Inside written text) :
      Inside ('"' :: '"' :: written) ('"' :: text)
  | other {c : Char} {written text : List Char} (unquote : c ≠ '"') (rest : Inside written text) :
      Inside (c :: written) (c :: text)

/-- A field as it is written. One without marks may stand between quotes all the same. -/
inductive Field : List Char → List Char → Prop where
  | plain {text : List Char} (bare : ∀ c ∈ text, c ∉ marks) : Field text text
  | quoted {written text : List Char} (inside : Inside written text) :
      Field ('"' :: (written ++ ['"'])) text

/-- A row as it is written, without its line end. It has at least one field. -/
inductive Row : List Char → List String → Prop where
  | last {written text : List Char} (field : Field written text) :
      Row written [String.ofList text]
  | more {written text others : List Char} {cells : List String} (field : Field written text)
      (rest : Row others cells) : Row (written ++ ',' :: others) (String.ofList text :: cells)

/-- A table as it is written. -/
inductive Table : List Char → List (List String) → Prop where
  | empty : Table [] []
  | last {written : List Char} {cells : List String} (row : Row written cells)
      (present : written ≠ []) : Table written [cells]
  | more {written others : List Char} {cells : List String} {rows : List (List String)}
      (row : Row written cells) (rest : Table others rows) :
      Table (written ++ '\n' :: others) (cells :: rows)

/-! ### The reader -/

/-- Where a field is open: before its first character, in it, between its quotes, or behind a quote
that closes it unless another one follows. -/
inductive Stage where
  | start
  | plain
  | quoted
  | closed
deriving Repr, DecidableEq

/-- Reads the rest of a table. So far the open field holds some characters, and the open row some
fields. -/
def readFrom : Stage → (field : List Char) → (row : List String) → List Char →
    Option (List (List String))
  | .quoted, _, _, [] => none
  | _, field, row, [] => some [row ++ [String.ofList field]]
  | .quoted, field, row, '"' :: rest => readFrom .closed field row rest
  | .quoted, field, row, c :: rest => readFrom .quoted (field ++ [c]) row rest
  | _, field, row, ',' :: rest => readFrom .start [] (row ++ [String.ofList field]) rest
  | _, field, row, '\n' :: rest =>
    (if rest.isEmpty then some [] else readFrom .start [] [] rest).map
      fun rows => (row ++ [String.ofList field]) :: rows
  | .start, field, row, '"' :: rest => readFrom .quoted field row rest
  | .closed, field, row, '"' :: rest => readFrom .quoted (field ++ ['"']) row rest
  | .closed, _, _, _ :: _ => none
  | _, _, _, '"' :: _ => none
  | _, _, _, '\r' :: _ => none
  | _, field, row, c :: rest => readFrom .plain (field ++ [c]) row rest

/-- Reads the rows of a text. -/
def readRows (text : List Char) : Option (List (List String)) :=
  if text.isEmpty then some [] else readFrom .start [] [] text

/-- Reads a table. -/
def read (text : String) : Option (List (List String)) :=
  readRows text.toList

/-- A field can end here: at the end of the text, at a comma or at a line feed. -/
def Ending (tail : List Char) : Prop :=
  ∀ c ∈ tail.head?, c = ',' ∨ c = '\n'

section Reading

variable {stage : Stage} {field written text tail : List Char} {row cells : List String}
  {rows : List (List String)}

theorem readRows_of_ne_nil (present : text ≠ []) : readRows text = readFrom .start [] [] text :=
  if_neg (mt List.isEmpty_iff.mp present)

theorem readFrom_nil (outside : stage ≠ .quoted) :
    readFrom stage field row [] = some [row ++ [String.ofList field]] := by
  rw [readFrom]
  exact outside

theorem readFrom_comma (outside : stage ≠ .quoted) :
    readFrom stage field row (',' :: tail) =
      readFrom .start [] (row ++ [String.ofList field]) tail := by
  rw [readFrom]
  exact outside

theorem readFrom_newline (outside : stage ≠ .quoted) :
    readFrom stage field row ('\n' :: tail) =
      (readRows tail).map fun rows => (row ++ [String.ofList field]) :: rows := by
  rw [readFrom]
  · rfl
  · exact outside

/-! ### Every table is read -/

/-- Where a field can end, an open field is as good as closed. -/
theorem readFrom_eq_closed (outside : stage ≠ .quoted) (ending : Ending tail) :
    readFrom stage field row tail = readFrom .closed field row tail := by
  cases tail with
  | nil => rw [readFrom_nil outside, readFrom_nil (by decide)]
  | cons c rest =>
    obtain rfl | rfl := ending c rfl
    · rw [readFrom_comma outside, readFrom_comma (by decide)]
    · rw [readFrom_newline outside, readFrom_newline (by decide)]

theorem readFrom_bare (unquoted : stage ≠ .quoted) (unclosed : stage ≠ .closed)
    (bare : ∀ c ∈ text, c ∉ marks) (ending : Ending tail) :
    readFrom stage field row (text ++ tail) = readFrom .closed (field ++ text) row tail := by
  induction text generalizing stage field with
  | nil =>
    rw [List.nil_append, List.append_nil]
    exact readFrom_eq_closed unquoted ending
  | cons c rest inductionHypothesis =>
    obtain ⟨unmarked, others⟩ := List.forall_mem_cons.mp bare
    simp only [marks, List.mem_cons, List.not_mem_nil, or_false, not_or] at unmarked
    have step : readFrom stage field row (c :: (rest ++ tail)) =
        readFrom .plain (field ++ [c]) row (rest ++ tail) := by
      rw [readFrom] <;> simp_all
    rw [List.cons_append, step, inductionHypothesis (by decide) (by decide) others,
      List.append_assoc]
    rfl

theorem readFrom_inside (inside : Inside written text) :
    readFrom .quoted field row (written ++ '"' :: tail) =
      readFrom .closed (field ++ text) row tail := by
  induction inside generalizing field with
  | nil =>
    rw [List.append_nil]
    rfl
  | quote _ inductionHypothesis =>
    refine inductionHypothesis.trans ?_
    rw [List.append_assoc]
    rfl
  | other unquote _ inductionHypothesis =>
    rw [List.cons_append, readFrom, inductionHypothesis, List.append_assoc]
    · rfl
    · exact unquote

theorem readFrom_field (known : Field written text) (ending : Ending tail) :
    readFrom .start [] row (written ++ tail) = readFrom .closed text row tail := by
  cases known with
  | plain bare => exact readFrom_bare (by decide) (by decide) bare ending
  | quoted inside =>
    rw [List.cons_append, List.append_assoc]
    exact readFrom_inside inside

/-- The fields of a row are read, up to the last one. -/
theorem exists_readFrom_row (known : Row written cells) (row : List String) (tail : List Char)
    (ending : ∀ c ∈ tail.head?, c = '\n') :
    ∃ before last, row ++ cells = before ++ [String.ofList last] ∧
      readFrom .start [] row (written ++ tail) = readFrom .closed last before tail := by
  induction known generalizing row with
  | @last _ text field =>
    exact ⟨row, text, rfl, readFrom_field field fun c head => .inr (ending c head)⟩
  | @more _ text _ _ field _ inductionHypothesis =>
    have comma (rest : List Char) : Ending (',' :: rest) := fun _ head =>
      .inl (Option.some.inj head).symm
    obtain ⟨before, last, split, reads⟩ := inductionHypothesis (row ++ [String.ofList text])
    refine ⟨before, last, by rw [← split, List.append_assoc]; rfl, ?_⟩
    rw [List.append_assoc, List.cons_append, readFrom_field field (comma _),
      readFrom_comma (by decide), reads]

theorem readRows_of_table (table : Table text rows) : readRows text = some rows := by
  induction table with
  | empty => rfl
  | @last written _ known present =>
    obtain ⟨before, last, split, reads⟩ := exists_readFrom_row known [] [] nofun
    rw [List.append_nil] at reads
    rw [readRows_of_ne_nil present, reads, readFrom_nil (by decide), ← split]
    rfl
  | @more written others _ _ known _ inductionHypothesis =>
    obtain ⟨before, last, split, reads⟩ := exists_readFrom_row known [] ('\n' :: others)
      fun _ head => (Option.some.inj head).symm
    rw [readRows_of_ne_nil (by simp), reads, readFrom_newline (by decide), inductionHypothesis,
      Option.map_some, ← split]
    rfl

/-! ### Only tables are read -/

/-- What is left of a field, by the stage in which it is open. -/
inductive Part : Stage → List Char → List Char → Prop where
  | start {written text : List Char} (field : Field written text) : Part .start written text
  | plain {text : List Char} (bare : ∀ c ∈ text, c ∉ marks) : Part .plain text text
  | quoted {written text : List Char} (inside : Inside written text) :
      Part .quoted (written ++ ['"']) text
  | closed : Part .closed [] []
  | reopened {written text : List Char} (inside : Inside written text) :
      Part .closed ('"' :: (written ++ ['"'])) ('"' :: text)

/-- What is left of a table behind some fields of a row. -/
inductive After : List String → List Char → List (List String) → Prop where
  | ended (row : List String) : After row [] [row]
  | line {others : List Char} {rows : List (List String)} (row : List String)
      (rest : Table others rows) : After row ('\n' :: others) (row :: rows)
  | comma {row : List String} {written text others : List Char} {rows : List (List String)}
      (field : Field written text) (rest : After (row ++ [String.ofList text]) others rows) :
      After row (',' :: (written ++ others)) rows

theorem Part.nil (outside : stage ≠ .quoted) : Part stage [] [] := by
  cases stage with
  | start => exact .start (.plain nofun)
  | plain => exact .plain nofun
  | quoted => exact absurd rfl outside
  | closed => exact .closed

theorem Part.cons {c : Char} (unquoted : stage ≠ .quoted) (unclosed : stage ≠ .closed)
    (unmarked : c ∉ marks) (part : Part .plain written text) :
    Part stage (c :: written) (c :: text) := by
  cases part with
  | plain bare =>
    have all : ∀ d ∈ c :: written, d ∉ marks := List.forall_mem_cons.mpr ⟨unmarked, bare⟩
    cases stage with
    | start => exact .start (.plain all)
    | plain => exact .plain all
    | quoted => exact absurd rfl unquoted
    | closed => exact absurd rfl unclosed

/-- A row can go on by one more field. -/
theorem Row.snoc {others : List Char} (known : Row written cells) (field : Field others text) :
    Row (written ++ ',' :: others) (cells ++ [String.ofList text]) := by
  induction known with
  | last first => exact .more first (.last field)
  | more first _ inductionHypothesis =>
    rw [List.append_assoc, List.cons_append, List.cons_append]
    exact .more first inductionHypothesis

theorem After.table (after : After row tail rows) (known : Row written row)
    (present : written ++ tail ≠ []) : Table (written ++ tail) rows := by
  induction after generalizing written with
  | ended row =>
    rw [List.append_nil] at present ⊢
    exact .last known present
  | line row rest => exact .more known rest
  | comma field _ inductionHypothesis =>
    rw [← List.cons_append, ← List.append_assoc] at present ⊢
    exact inductionHypothesis (known.snoc field) present

/-- What is left of a table where a field is open: the rest of the field, and what follows it. -/
def Remainder (stage : Stage) (field : List Char) (row : List String) (text : List Char)
    (rows : List (List String)) : Prop :=
  ∃ written rest tail, Part stage written rest ∧
    After (row ++ [String.ofList (field ++ rest)]) tail rows ∧ text = written ++ tail

/-- Where a field ends, nothing is left of it. -/
theorem After.remainder (after : After (row ++ [String.ofList field]) tail rows)
    (outside : stage ≠ .quoted) : Remainder stage field row tail rows :=
  ⟨[], [], tail, .nil outside, by rwa [List.append_nil], rfl⟩

theorem Remainder.table (remainder : Remainder .start [] [] text rows) (present : text ≠ []) :
    Table text rows := by
  obtain ⟨written, rest, tail, ⟨known⟩, after, rfl⟩ := remainder
  exact after.table (.last known) present

theorem remainder_of_readFrom (reads : readFrom stage field row text = some rows) :
    Remainder stage field row text rows := by
  fun_induction readFrom stage field row text generalizing rows with
  -- The end of the text.
  | case1 => cases reads
  | case2 stage field row outside =>
    cases reads
    exact (After.ended _).remainder outside
  -- Between quotes.
  | case3 field row text inductionHypothesis =>
    obtain ⟨_, _, tail, part, after, rfl⟩ := inductionHypothesis reads
    cases part with
    | closed => exact ⟨_, _, tail, .quoted .nil, after, rfl⟩
    | reopened inside => exact ⟨_, _, tail, .quoted (.quote inside), after, rfl⟩
  | case4 field row c text unquote inductionHypothesis =>
    obtain ⟨_, _, tail, part, after, rfl⟩ := inductionHypothesis reads
    rw [List.append_assoc] at after
    cases part with
    | quoted inside => exact ⟨_, _, tail, .quoted (.other unquote inside), after, rfl⟩
  -- The end of a field.
  | case5 stage field row text outside inductionHypothesis =>
    obtain ⟨_, _, _, ⟨known⟩, after, rfl⟩ := inductionHypothesis reads
    exact (After.comma known after).remainder outside
  | case6 stage field row text outside inductionHypothesis =>
    obtain ⟨later, further, rfl⟩ := Option.map_eq_some_iff.mp reads
    refine (After.line _ ?_).remainder outside
    cases text with
    | nil =>
      cases further
      exact .empty
    | cons c text => exact (inductionHypothesis further).table (List.cons_ne_nil c text)
  -- A quote that opens a field, and one that is the second of two.
  | case7 field row text inductionHypothesis =>
    obtain ⟨_, _, tail, part, after, rfl⟩ := inductionHypothesis reads
    cases part with
    | quoted inside => exact ⟨_, _, tail, .start (.quoted inside), after, rfl⟩
  | case8 field row text inductionHypothesis =>
    obtain ⟨_, _, tail, part, after, rfl⟩ := inductionHypothesis reads
    rw [List.append_assoc] at after
    cases part with
    | quoted inside => exact ⟨_, _, tail, .reopened inside, after, rfl⟩
  -- Characters that cannot stand where they do.
  | case9 => cases reads
  | case10 => cases reads
  | case11 => cases reads
  -- A character that stands for itself.
  | case12 stage field row c text _ unquoted comma newline _ _ unclosed quote carriage
      inductionHypothesis =>
    obtain ⟨_, _, tail, part, after, rfl⟩ := inductionHypothesis reads
    rw [List.append_assoc] at after
    have unmarked : c ∉ marks := by
      simp only [marks, List.mem_cons, List.not_mem_nil, or_false, not_or]
      exact ⟨comma, quote, newline, carriage⟩
    exact ⟨_, _, tail, part.cons unquoted unclosed unmarked, after, rfl⟩

theorem table_of_readRows (reads : readRows text = some rows) : Table text rows := by
  cases text with
  | nil =>
    cases reads
    exact .empty
  | cons c text =>
    exact (remainder_of_readFrom (by rwa [readRows] at reads)).table (List.cons_ne_nil c text)

/-- **The reader accepts the tables and nothing else.** -/
theorem read_eq_some_iff {text : String} : read text = some rows ↔ Table text.toList rows :=
  ⟨table_of_readRows, readRows_of_table⟩

end Reading

end Fixity.Audit.Csv
