/-
This file proves that a batch neither loses nor doubles nor reorders files. Its
audits run in a window, so a run is an interleaving of them, and their records leave
in the order of the ids; each record is written as one line, which the sink takes or
refuses, and is counted. Where the catalog, the choice of a copy and the stores do
not change meanwhile, the records are those of audits that run alone, times aside,
and so they are the same for every concurrency and every schedule.
-/

import Fixity.Audit.Batch
import Fixity.Proofs.Audit.Answered
import Fixity.Proofs.Interleaving

namespace Fixity.Audit.Batch

open Program

/-! ### Lines and counts -/

/-- The lines that a sink takes of some, the first of which has the given number. -/
def Sink.taken (sink : Sink) : (number : Nat) → List String → List String
  | _, [] => []
  | number, line :: rest =>
    match sink.refuses number with
    | none => line :: sink.taken (number + 1) rest
    | some _ => sink.taken (number + 1) rest

/-- How many of so many lines a sink refuses, the first of which has the given number. -/
def Sink.refusals (sink : Sink) (number count : Nat) : Nat :=
  (List.range' number count).countP fun line => (sink.refuses line).isSome

/-- A sink that refuses none of some lines takes them all. -/
theorem Sink.taken_eq_self {sink : Sink} {number : Nat} {lines : List String}
    (takes : ∀ line < number + lines.length, sink.refuses line = none) :
    sink.taken number lines = lines := by
  induction lines generalizing number with
  | nil => rfl
  | cons first rest inductionHypothesis =>
    rw [List.length_cons] at takes
    rw [taken, takes number (by omega)]
    dsimp only
    rw [inductionHypothesis fun line early => takes line (by omega)]

theorem Sink.taken_cons (sink : Sink) (number : Nat) (line : String) (rest : List String) :
    sink.taken number (line :: rest) = sink.taken number [line] ++ sink.taken (number + 1) rest := by
  cases taken : sink.refuses number <;> simp [Sink.taken, taken]

theorem Sink.refusals_succ (sink : Sink) (number count : Nat) :
    sink.refusals number (count + 1) = sink.refusals number 1 + sink.refusals (number + 1) count := by
  rw [refusals, List.range'_succ, ← List.singleton_append, List.countP_append]
  rfl

/-- The counts of a batch with these records. -/
def tally (sink : Sink) (records : List Record) : Summary where
  checked := records.length
  passed := records.countP Record.passed
  failed := records.countP fun record => !record.passed
  writeErrors := sink.refusals 1 records.length

theorem passed_add_failed_tally (sink : Sink) (records : List Record) :
    (tally sink records).passed + (tally sink records).failed = (tally sink records).checked := by
  have all := List.length_eq_countP_add_countP Record.passed (l := records)
  simp only [Bool.not_eq_true, Bool.decide_eq_false] at all
  exact all.symm

/-- The counts do not depend on the times in the records. -/
theorem tally_eq_of_timeless {sink : Sink} {records others : List Record}
    (same : records.map Record.timeless = others.map Record.timeless) :
    tally sink records = tally sink others := by
  have length : records.length = others.length := by
    simpa only [List.length_map] using congrArg List.length same
  have count (verdict : Record → Bool) (kept : verdict ∘ Record.timeless = verdict) :
      records.countP verdict = others.countP verdict := by
    rw [← kept, ← List.countP_map, ← List.countP_map, same]
  rw [tally, tally, length, count Record.passed rfl, count (fun record => !record.passed) rfl]

/-- What comes of writing a record. -/
def advance (sink : Sink) (progress : Progress) (record : Record) : Progress :=
  let summary := progress.summary.count record
  match sink.refuses summary.checked with
  | none => ⟨progress.written ++ [record.row], summary⟩
  | some _ => ⟨progress.written, { summary with writeErrors := summary.writeErrors + 1 }⟩

theorem advance_of_yields {sink : Sink} {progress later : Progress} {record : Record}
    {exchanges : List Exchange}
    (yields : (writeRecord sink progress record).Yields exchanges later) :
    later = advance sink progress record := by
  rw [writeRecord] at yields
  rw [advance]
  cases taken : sink.refuses (progress.summary.count record).checked with
  | none =>
    rw [taken] at yields
    obtain ⟨_, _, _, _, ended, _⟩ := yields_bind_iff.mp yields
    exact (yields_pure_iff.mp ended).2
  | some fault =>
    rw [taken] at yields
    obtain ⟨_, _, _, _, further, _⟩ := yields_bind_iff.mp yields
    obtain ⟨_, _, _, _, ended, _⟩ := yields_bind_iff.mp further
    exact (yields_pure_iff.mp ended).2

theorem advance_eq (sink : Sink) (progress : Progress) (record : Record) :
    advance sink progress record =
      { written := progress.written ++ sink.taken (progress.summary.checked + 1) [record.row]
        summary := {
          checked := progress.summary.checked + 1
          passed := progress.summary.passed + [record].countP Record.passed
          failed := progress.summary.failed + [record].countP fun record => !record.passed
          writeErrors :=
            progress.summary.writeErrors + sink.refusals (progress.summary.checked + 1) 1 } } := by
  have number : (progress.summary.count record).checked = progress.summary.checked + 1 := rfl
  rw [advance, number]
  cases taken : sink.refuses (progress.summary.checked + 1) <;> cases passed : record.passed <;>
    simp [Sink.taken, Sink.refusals, Summary.count, taken, passed]

/-- Records that are written one after the other leave the lines that the sink takes, and are all
counted. -/
theorem foldl_advance (sink : Sink) (lines : List String) (summary : Summary)
    (records : List Record) :
    records.foldl (advance sink) ⟨lines, summary⟩ =
      { written := lines ++ sink.taken (summary.checked + 1) (records.map Record.row)
        summary := {
          checked := summary.checked + records.length
          passed := summary.passed + records.countP Record.passed
          failed := summary.failed + records.countP fun record => !record.passed
          writeErrors :=
            summary.writeErrors + sink.refusals (summary.checked + 1) records.length } } := by
  induction records generalizing lines summary with
  | nil => simp [Sink.taken, Sink.refusals]
  | cons record rest inductionHypothesis =>
    rw [List.foldl_cons, advance_eq, inductionHypothesis, List.map_cons,
      sink.taken_cons _ _ (rest.map Record.row), List.length_cons,
      sink.refusals_succ _ rest.length]
    simp only [List.append_assoc, List.countP_cons, List.countP_nil, Progress.mk.injEq,
      Summary.mk.injEq, true_and]
    omega

/-! ### Whole batches -/

/-- A fault at the end of a table does not touch its lines. -/
theorem written_finish (sink : Sink) (progress : Progress) :
    (finish sink progress).written = progress.written := by
  cases refused : sink.refusesEnd <;> simp only [finish, refused]

/-- A batch whose heading is taken is an interleaving of its audits, and its records leave what
writing them one after the other leaves. -/
theorem exists_interleaving {full : Bool} {concurrency : Nat} {schedule : Window.Schedule}
    {sink : Sink} {ids : List Int64} {exchanges : List Exchange} {report : Report}
    (begun : sink.refuses 0 = none)
    (yields : (run full concurrency schedule sink ids).Yields exchanges report) :
    ∃ events records progress, Window.Interleaving (max 1 concurrency) (writeRecord sink) 0
        ⟨[Csv.line headings], {}⟩ (ids.map (audit full)) events records progress ∧
      Window.along events = exchanges ∧
      report = finish sink ⟨Csv.line headings :: sink.taken 1 (records.map Record.row),
        tally sink records⟩ := by
  rw [run, begun] at yields
  obtain ⟨first, progress, rest, running, ended, rfl⟩ := yields_bind_iff.mp yields
  obtain ⟨rfl, rfl⟩ := yields_pure_iff.mp ended
  obtain ⟨events, records, interleaving, rfl⟩ := Window.interleaving_of_run running
  have written := interleaving.eq_foldl advance_of_yields
  rw [foldl_advance] at written
  refine ⟨events, records, progress, interleaving, (List.append_nil _).symm, ?_⟩
  simp only [written, tally, Nat.zero_add, List.singleton_append]

section Audits

variable {full : Bool} {width : Nat} {receive : Progress → Record → Program Progress}
  {start progress : Progress} {ids : List Int64} {events : List Window.Event}
  {records : List Record}

theorem length_records (interleaving : Window.Interleaving width receive 0 start
    (ids.map (audit full)) events records progress) : records.length = ids.length := by
  rw [interleaving.length_values, List.length_map]

/-- The record of an id is that of a way through its audit. -/
theorem exists_record (interleaving : Window.Interleaving width receive 0 start
    (ids.map (audit full)) events records progress) {number : Nat} {id : Int64}
    (found : ids[number]? = some id) : ∃ record, records[number]? = some record ∧
      (audit full id).Yields (Window.askedBy number events) record := by
  have queued : (ids.map (audit full))[number]? = some (audit full id) := by
    rw [List.getElem?_map, found, Option.map_some]
  obtain ⟨record, there, yields⟩ := interleaving.exists_yields queued
  rw [Nat.zero_add] at yields
  exact ⟨record, there, yields⟩

end Audits

/-- What a batch whose heading was taken did. Its audits ran side by side along some events, and
their records were written in order. -/
structure Accounts (answers : Answers) (full : Bool) (concurrency : Nat) (sink : Sink)
    (ids : List Int64) (run : Run σ Report) (events : List Window.Event) (records : List Record) :
    Prop where
  /-- The events make up the run. -/
  along : Window.along events = run.exchanges
  /-- Each audit leaves once, with its record, in the order of the ids. -/
  order : Window.leavers events = List.range ids.length
  /-- At every moment, at most so many audits have begun and are not written. -/
  bounded : ∀ before, before <+: events → (Window.underWay before).length ≤ max 1 concurrency
  size : records.length = ids.length
  /-- Each record is that of a way through the audit of its id. -/
  own : ∀ (number : Nat) (id : Int64), ids[number]? = some id → ∃ record,
    records[number]? = some record ∧
      (audit full id).Yields (Window.askedBy number events) record
  /-- Each record is that of an audit of its id that runs alone, times aside. -/
  alone : ∀ {τ : Type} (world : World τ) (state : τ) (number : Nat) (id : Int64) (record : Record),
    ids[number]? = some id → records[number]? = some record →
    answers.Explain ((audit full id).run world state).exchanges →
    record.timeless = ((audit full id).run world state).value.timeless
  written : run.value.written = Csv.line headings :: sink.taken 1 (records.map Record.row)
  summary : run.value.summary =
    match sink.refusesEnd with
    | none => .ok (tally sink records)
    | some fault => .error fault
  counted : (tally sink records).checked = ids.length ∧
    (tally sink records).passed + (tally sink records).failed = ids.length

theorem exists_accounts {answers : Answers} {full : Bool} {concurrency : Nat}
    {schedule : Window.Schedule} {sink : Sink} {ids : List Int64} (begun : sink.refuses 0 = none)
    (world : World σ) (state : σ)
    (explain : answers.Explain ((run full concurrency schedule sink ids).run world state).exchanges) :
    ∃ events records, Accounts answers full concurrency sink ids
        ((run full concurrency schedule sink ids).run world state) events records ∧
      records.map Record.timeless = ids.map (answers.audited full) := by
  obtain ⟨events, records, progress, interleaving, along, report⟩ :=
    exists_interleaving begun (yields_run world state (run full concurrency schedule sink ids))
  have settled (number : Nat) (id : Int64) (record : Record) (found : ids[number]? = some id)
      (there : records[number]? = some record) : record.timeless = answers.audited full id := by
    obtain ⟨other, same, yields⟩ := exists_record interleaving found
    obtain rfl := Option.some.inj (same.symm.trans there)
    refine answers.timeless_of_yields yields fun exchange member => explain exchange ?_
    rw [← along]
    exact (Window.sublist_along number events).subset member
  have size := length_records interleaving
  refine ⟨events, records, {
    along, size
    own := fun number id found => exists_record interleaving found
    order := ?order
    bounded := fun before begun => interleaving.length_underWay_le begun
    alone := ?alone
    written := ?written
    summary := ?summary
    counted := ?counted }, ?settled⟩
  case order => rw [interleaving.leavers_eq, List.length_map, List.range_eq_range']
  case alone =>
    intro τ world state number id record found there explain
    rw [settled number id record found there]
    exact (answers.timeless_of_yields (yields_run world state _) explain).symm
  case written => rw [report, written_finish]
  case summary => cases refused : sink.refusesEnd <;> simp only [report, finish, refused]
  case counted => exact ⟨size, (passed_add_failed_tally sink records).trans size⟩
  case settled =>
    refine List.ext_getElem (by rw [List.length_map, List.length_map, size]) ?_
    intro number inRecords inIds
    rw [List.getElem_map, List.getElem_map]
    exact settled number _ _ (List.getElem?_eq_getElem _) (List.getElem?_eq_getElem _)

/-- **Batches are faithful to their ids.** Whatever the concurrency and the schedule, a batch whose
heading is taken writes the records of its ids, one for each and in their order, and counts them.
Where the answers are the same, so are the records, times aside, and the counts, for any two
batches of the same ids, in any worlds and at any concurrency. -/
theorem accounts_of_runs {answers : Answers} (full : Bool) (sink : Sink) (ids : List Int64)
    (begun : sink.refuses 0 = none) (world : World σ) (state : σ) (concurrency : Nat)
    (schedule : Window.Schedule) (otherWorld : World τ) (otherState : τ) (otherConcurrency : Nat)
    (otherSchedule : Window.Schedule)
    (explain : answers.Explain
      ((run full concurrency schedule sink ids).run world state).exchanges)
    (explainOther : answers.Explain
      ((run full otherConcurrency otherSchedule sink ids).run otherWorld otherState).exchanges) :
    let one := (run full concurrency schedule sink ids).run world state
    let other := (run full otherConcurrency otherSchedule sink ids).run otherWorld otherState
    ∃ events records otherEvents otherRecords,
      Accounts answers full concurrency sink ids one events records ∧
      Accounts answers full otherConcurrency sink ids other otherEvents otherRecords ∧
      records.map Record.timeless = otherRecords.map Record.timeless ∧
      one.value.summary = other.value.summary := by
  intro one other
  obtain ⟨events, records, accounts, settled⟩ := exists_accounts begun world state explain
  obtain ⟨otherEvents, otherRecords, otherAccounts, otherSettled⟩ :=
    exists_accounts begun otherWorld otherState explainOther
  have same : records.map Record.timeless = otherRecords.map Record.timeless :=
    settled.trans otherSettled.symm
  refine ⟨events, records, otherEvents, otherRecords, accounts, otherAccounts, same, ?_⟩
  rw [accounts.summary, otherAccounts.summary, tally_eq_of_timeless same]

end Fixity.Audit.Batch

namespace Fixity

/-- Answers about one file, which lies nowhere; all other ids are unknown. -/
def Answers.stray : Answers where
  file id :=
    if id = 1 then .ok {
      id := 1
      identifier := "example.edu/bag/data/file"
      uuid := "file"
      size := 1
      storageOption := "Standard"
      institutionId := 1
      intellectualObjectId := 1
      createdAt := .epoch
      updatedAt := .epoch }
    else .error (.notFound "file")
  resolution file := ⟨none, .error (.noStorageLocation file.identifier "no copies")⟩
  stat _ := .error (.unknownBucket "bucket")
  body _ := .error (.unknownBucket "bucket")

/-- Three audits one after the other and side by side, of a known id, an unknown one, and the first
again. -/
theorem Audit.Batch.accounts_stray :
    let one := (run true 0 (fun _ => []) .open [1, 2, 1]).run (Answers.stray.world .epoch) ()
    let other := (run true 2 (fun _ => [1, 0, 1]) .open [1, 2, 1]).run
      (Answers.stray.world .epoch) ()
    Sink.open.refuses 0 = none ∧
      Answers.stray.Explain one.exchanges ∧ Answers.stray.Explain other.exchanges ∧
      ∃ events records otherEvents otherRecords,
        Accounts Answers.stray true 0 .open [1, 2, 1] one events records ∧
        Accounts Answers.stray true 2 .open [1, 2, 1] other otherEvents otherRecords ∧
        records.map Record.timeless = otherRecords.map Record.timeless ∧
        one.value.summary = other.value.summary := by
  intro one other
  have explain := Answers.stray.explain_run_world .epoch (run true 0 (fun _ => []) .open [1, 2, 1])
  have explainOther :=
    Answers.stray.explain_run_world .epoch (run true 2 (fun _ => [1, 0, 1]) .open [1, 2, 1])
  exact ⟨rfl, explain, explainOther,
    accounts_of_runs true .open [1, 2, 1] rfl _ () 0 _ _ () 2 _ explain explainOther⟩

end Fixity
