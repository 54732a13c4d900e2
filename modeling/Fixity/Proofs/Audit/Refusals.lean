/-
This file proves that the faults of a sink stay with the lines they meet. A batch
fails only at the two ends of its table: without its heading nothing is begun, and
after a refused end everything was done. In between, a refused row costs its line
and is counted, and no other row, no audit and no other count feels it. For the last
of these the batch is set beside the same batch at the sink that takes everything,
in any world that does not change by being logged to.
-/

import Fixity.Proofs.Audit.Batch
import Fixity.Proofs.Handover
import Fixity.World.Memory
import Fixity.World.Networked

namespace Fixity

/-- Writing to the log leaves the world as it is: no catalog, store or clock listens to it. -/
def World.Deaf (world : World σ) : Prop :=
  ∀ (state : σ) (entry : Log.Entry), (world.answer state (.log entry)).2 = state

/-- To log is idle where the log is not heard. -/
theorem World.Deaf.idle_log {world : World σ} (deaf : world.Deaf) (level : Log.Level)
    (origin : Log.Origin) (message : String) :
    Program.Idle world (Program.log level origin message) :=
  ⟨fun state => deaf state { level, origin, message }, fun _ => rfl⟩

theorem Memory.deaf_world : Memory.world.Deaf :=
  fun _ _ => rfl

theorem Site.deaf_world (site : Site) (network : Http.Network σ) : (site.world network).Deaf :=
  fun _ _ => rfl

namespace Audit.Batch

open Program

variable {σ : Type} {full : Bool} {concurrency : Nat} {schedule : Window.Schedule} {sink : Sink}
  {ids : List Int64} {world : World σ} {state : σ}

/-! ### Single records -/

/-- All that writing a record asks of the world is to log. -/
theorem idle_writeRecord (deaf : world.Deaf) (sink : Sink) (progress : Progress) (record : Record) :
    Idle world (writeRecord sink progress record) := by
  rw [writeRecord]
  cases sink.refuses (progress.summary.count record).checked with
  | none => exact (deaf.idle_log _ _ _).bind fun _ => .pure _
  | some fault =>
    have refusal : Idle world (logRefusal record fault) :=
      (deaf.idle_log _ _ _).bind fun _ => deaf.idle_log _ _ _
    exact refusal.bind fun _ => (deaf.idle_log _ _ _).bind fun _ => .pure _

/-! ### Whole batches -/

theorem run_unbegun {fault : String} (refused : sink.refuses 0 = some fault) :
    (run full concurrency schedule sink ids).run world state = ⟨⟨[], .error fault⟩, state, []⟩ := by
  rw [run, refused]
  rfl

/-- A batch whose heading is taken runs its audits and then ends the table, which asks nothing. -/
theorem run_begun (begun : sink.refuses 0 = none) :
    let audits := (Window.run concurrency schedule (writeRecord sink) ⟨[Csv.line headings], {}⟩
      (ids.map (audit full))).run world state
    (run full concurrency schedule sink ids).run world state =
      ⟨finish sink audits.value, audits.state, audits.exchanges⟩ := by
  rw [run, begun]
  exact (run_bind world state _ _).trans (congrArg (Run.mk _ _) (List.append_nil _))

/-- What a batch did whose heading was taken. -/
structure Carried (full : Bool) (sink : Sink) (ids : List Int64) (run : Run σ Report)
    (events : List Window.Event) (records : List Record) : Prop where
  /-- The events make up the run. -/
  along : Window.along events = run.exchanges
  /-- Each audit leaves once, in the order of the ids. -/
  order : Window.leavers events = List.range ids.length
  size : records.length = ids.length
  /-- Each record is that of a way through the audit of its id. -/
  own : ∀ (number : Nat) (id : Int64), ids[number]? = some id → ∃ record,
    records[number]? = some record ∧
      (audit full id).Yields (Window.askedBy number events) record
  /-- The lines are the heading and the rows that are not refused, in order. -/
  written : run.value.written = Csv.line headings :: sink.taken 1 (records.map Record.row)
  /-- Where the end is refused, the counts are lost. -/
  lost : ∀ fault, sink.refusesEnd = some fault → run.value.summary = .error fault
  counted : sink.refusesEnd = none → run.value.summary = .ok (tally sink records)

/-- A batch does what its records, written one after the other, come to. -/
theorem carried_of_interleaving (begun : sink.refuses 0 = none) {events : List Window.Event}
    {records : List Record} :
    let audits := (Window.run concurrency schedule (writeRecord sink) ⟨[Csv.line headings], {}⟩
      (ids.map (audit full))).run world state
    Window.Interleaving (max 1 concurrency) (writeRecord sink) 0 ⟨[Csv.line headings], {}⟩
      (ids.map (audit full)) events records audits.value →
    Window.along events = audits.exchanges →
    Carried full sink ids ((run full concurrency schedule sink ids).run world state) events
      records := by
  intro audits interleaving along
  have left : audits.value =
      ⟨Csv.line headings :: sink.taken 1 (records.map Record.row), tally sink records⟩ := by
    rw [interleaving.eq_foldl advance_of_yields, foldl_advance]
    simp only [tally, Nat.zero_add, List.singleton_append]
  rw [run_begun begun]
  show Carried full sink ids ⟨finish sink audits.value, audits.state, audits.exchanges⟩ events
    records
  rw [left]
  refine {
    along
    order := ?order
    size := length_records interleaving
    own := fun number id found => exists_record interleaving found
    written := ?written
    lost := fun fault refused => ?lost
    counted := fun taken => ?counted }
  case order => rw [interleaving.leavers_eq, List.length_map, List.range_eq_range']
  case written => exact written_finish sink _
  case lost => simp only [finish, refused]
  case counted => simp only [finish, taken]

theorem exists_carried (begun : sink.refuses 0 = none) :
    ∃ events records, Carried full sink ids
      ((run full concurrency schedule sink ids).run world state) events records := by
  obtain ⟨events, records, interleaving, along⟩ := Window.interleaving_of_run
    (yields_run world state (Window.run concurrency schedule (writeRecord sink)
      ⟨[Csv.line headings], {}⟩ (ids.map (audit full))))
  exact ⟨events, records, carried_of_interleaving begun interleaving along⟩

/-- Of all faults only those at the two ends of the table make a batch fail. -/
theorem failed_iff :
    let batch := (run full concurrency schedule sink ids).run world state
    (∃ fault, batch.value.summary = .error fault) ↔
      sink.refuses 0 ≠ none ∨ sink.refusesEnd ≠ none := by
  intro batch
  cases heading : sink.refuses 0 with
  | some fault =>
    have nothing : batch = ⟨⟨[], .error fault⟩, state, []⟩ := run_unbegun heading
    simp [nothing]
  | none =>
    obtain ⟨events, records, carried⟩ : ∃ events records,
      Carried full sink ids batch events records := exists_carried heading
    cases ending : sink.refusesEnd with
    | some fault => simp [carried.lost fault ending]
    | none => simp [carried.counted ending]

/-! ### Beside an open sink -/

/-- At the open sink the batch has the same dealings, leaves the world in the same state, and writes
and counts the same records, without any write error. -/
structure Untouched (sink : Sink) (run openRun : Run σ Report) (records : List Record) : Prop where
  state : run.state = openRun.state
  dealings : dealings run.exchanges = dealings openRun.exchanges
  written : openRun.value.written = Csv.line headings :: records.map Record.row
  counted : openRun.value.summary = .ok { tally sink records with writeErrors := 0 }

theorem Sink.refusals_open (number count : Nat) : Sink.open.refusals number count = 0 :=
  List.countP_eq_zero.mpr fun _ _ => Bool.false_ne_true

/-- The audits of a batch do not know which sink their records go to. -/
theorem exists_untouched (begun : sink.refuses 0 = none) (deaf : world.Deaf) :
    let batch (sink : Sink) := (run full concurrency schedule sink ids).run world state
    ∃ events records, Carried full sink ids (batch sink) events records ∧
      Untouched sink (batch sink) (batch .open) records := by
  intro batch
  obtain ⟨last, dealt, records, passes⟩ :=
    Window.exists_passes_of_run concurrency schedule world state (ids.map (audit full))
  have own := passes (writeRecord sink) ⟨[Csv.line headings], {}⟩ (idle_writeRecord deaf sink)
  have other := passes (writeRecord .open) ⟨[Csv.line headings], {}⟩ (idle_writeRecord deaf .open)
  obtain ⟨events, interleaving, along⟩ := own.interleaving
  obtain ⟨openEvents, openInterleaving, openAlong⟩ := other.interleaving
  have carried : Carried full .open ids (batch .open) openEvents records :=
    carried_of_interleaving rfl openInterleaving openAlong
  have begins : batch sink = ⟨_, _, _⟩ := run_begun begun
  have openBegins : batch .open = ⟨_, _, _⟩ := run_begun rfl
  refine ⟨events, records, carried_of_interleaving begun interleaving along, {
    state := ?state
    dealings := ?dealings
    written := ?written
    counted := ?counted }⟩
  case state =>
    rw [begins, openBegins]
    exact own.ended.trans other.ended.symm
  case dealings =>
    rw [begins, openBegins]
    exact own.asked.trans other.asked.symm
  case written => rw [carried.written, Sink.taken_eq_self fun _ _ => rfl]
  case counted =>
    rw [carried.counted rfl, tally, Sink.refusals_open]
    rfl

/-- What a batch comes to in spite of its sink, beside the same batch at the open sink. -/
structure Contained (full : Bool) (sink : Sink) (ids : List Int64) (world : World σ) (state : σ)
    (run openRun : Run σ Report) : Prop where
  /-- The batch fails just where the heading or the end of the table is refused. -/
  failed : (∃ fault, run.value.summary = .error fault) ↔
    sink.refuses 0 ≠ none ∨ sink.refusesEnd ≠ none
  /-- Without its heading the batch asks nothing and writes nothing. -/
  unbegun : ∀ fault, sink.refuses 0 = some fault → run = ⟨⟨[], .error fault⟩, state, []⟩
  /-- With its heading it is carried through, and its audits do not feel what is refused. -/
  begun : sink.refuses 0 = none → ∃ events records, Carried full sink ids run events records ∧
    (world.Deaf → Untouched sink run openRun records)

/-- **Write failures are contained.** Whatever its sink refuses, a batch audits all of its files or,
without its heading, none; a refused row is counted and costs no more than its own line. -/
theorem contained_run (full : Bool) (concurrency : Nat) (schedule : Window.Schedule) (sink : Sink)
    (ids : List Int64) (world : World σ) (state : σ) :
    let batch (sink : Sink) := (run full concurrency schedule sink ids).run world state
    Contained full sink ids world state (batch sink) (batch .open) := by
  refine { failed := failed_iff, unbegun := fun fault => run_unbegun, begun := fun begun => ?_ }
  by_cases deaf : world.Deaf
  case pos =>
    obtain ⟨events, records, carried, untouched⟩ := exists_untouched begun deaf
    exact ⟨events, records, carried, fun _ => untouched⟩
  case neg =>
    obtain ⟨events, records, carried⟩ := exists_carried begun
    exact ⟨events, records, carried, fun hears => absurd hears deaf⟩

/-- Three audits of which the second is of an unknown id and has its row refused. -/
theorem contained_memory :
    let sink : Sink := { refuses := fun line => if line = 2 then some "No space left" else none }
    let memory : Memory := { files := [{ id := 1, result := Answers.stray.file 1, delay := 30 }] }
    let batch (sink : Sink) := (run true 2 (fun _ => [1, 0]) sink [1, 2, 1]).run Memory.world memory
    sink.refuses 0 = none ∧ sink.refusesEnd = none ∧ Memory.world.Deaf ∧
      ∃ events records, Carried true sink [1, 2, 1] (batch sink) events records ∧
        Untouched sink (batch sink) (batch .open) records ∧
        (tally sink records).writeErrors = 1 := by
  intro sink memory batch
  have contained := contained_run true 2 (fun _ => [1, 0]) sink [1, 2, 1] Memory.world memory
  obtain ⟨events, records, carried, untouched⟩ := contained.begun rfl
  refine ⟨rfl, rfl, Memory.deaf_world, events, records, carried, untouched Memory.deaf_world, ?_⟩
  rw [tally, carried.size]
  rfl

end Audit.Batch

end Fixity
