/-
This file relates two runs of programs that go on in step. Two worlds resemble each
other when they answer alike, but for three things: their clocks may differ, as far as
a given relation of times allows; fresh identifiers may differ; and a body may come in
other chunks, as long as it can be read to its end and is the same bytes. Programs
resemble each other when they ask alike after like answers, whatever these are, and
end with values of a given relation; how programs are put together is respected. The
runs of such programs in such worlds then correspond exchange by exchange.
-/

import Fixity.Proofs.Yields
import Mathlib.Data.List.Forall2

namespace Fixity

/-! ### Bodies and events -/

/-- Two bodies without faults that are cut into chunks in different ways. -/
def Storage.Body.Recut (body other : Body) : Prop :=
  ∃ parts otherParts : List (List UInt8), body = parts.map .ok ∧ other = otherParts.map .ok ∧
    parts.flatten = otherParts.flatten

/-- An event with its identifier and its time set aside. -/
def Premis.Event.unmarked (event : Event) : Event :=
  { event with identifier := .nil, dateTime := .epoch }

/-! ### Queries and answers -/

/-- Queries that differ at most in the identifier and the time of an event. -/
inductive Query.Resembles : Query → Query → Prop where
  | refl (query : Query) : Resembles query query
  | saveEvent {event other : Premis.Event} (same : event.unmarked = other.unmarked) :
      Resembles (.saveEvent event) (.saveEvent other)

/-- Exchanges with like queries and like answers; `clock` relates the times that may be told. -/
inductive Exchange.Resembles (clock : Time.Timestamp → Time.Timestamp → Prop) :
    Exchange → Exchange → Prop where
  | refl (exchange : Exchange) : Resembles clock exchange exchange
  | get (source : Storage.Source) {body other : Storage.Body} (recut : body.Recut other) :
      Resembles clock ⟨.get source, .ok body⟩ ⟨.get source, .ok other⟩
  | saveEvent {event other : Premis.Event} (same : event.unmarked = other.unmarked)
      (answer : Except Catalog.Failure Unit) :
      Resembles clock ⟨.saveEvent event, answer⟩ ⟨.saveEvent other, answer⟩
  | now {time other : Time.Timestamp} (near : clock time other) :
      Resembles clock ⟨.now, time⟩ ⟨.now, other⟩
  | newUuid (identifier other : Uuid) :
      Resembles clock ⟨.newUuid, identifier⟩ ⟨.newUuid, other⟩

/-- The queries whose answers are the same where worlds resemble each other. -/
def Query.isSettled : Query → Bool
  | .get _ | .now | .newUuid => false
  | _ => true

section

variable {clock : Time.Timestamp → Time.Timestamp → Prop}

theorem Exchange.Resembles.answer_eq {query : Query} {answer other : query.Answer}
    (settled : query.isSettled = true) (like : Resembles clock ⟨query, answer⟩ ⟨query, other⟩) :
    answer = other := by
  cases like with
  | refl | saveEvent => rfl
  | get | now | newUuid => cases settled

theorem Exchange.Resembles.savedEvent? {exchange other : Exchange}
    (like : Resembles clock exchange other) :
    exchange.savedEvent?.map Premis.Event.unmarked =
      other.savedEvent?.map Premis.Event.unmarked := by
  cases like with
  | refl | get | now | newUuid => rfl
  | saveEvent same answer =>
    cases answer with
    | error failure => rfl
    | ok => exact congrArg some same

/-- The events that are saved along exchanges that resemble each other are the same, marks aside. -/
theorem savedAlong_of_resembles {exchanges others : List Exchange}
    (like : List.Forall₂ (Exchange.Resembles clock) exchanges others) :
    (savedAlong exchanges).map Premis.Event.unmarked =
      (savedAlong others).map Premis.Event.unmarked := by
  simp only [savedAlong, List.map_filterMap]
  induction like with
  | nil => rfl
  | cons first rest inductionHypothesis =>
    rw [List.filterMap_cons, List.filterMap_cons, first.savedEvent?, inductionHypothesis]

/-! ### Programs -/

namespace Program

/-- Programs that ask like queries in turn and end with values of the relation. -/
inductive Resembles (clock : Time.Timestamp → Time.Timestamp → Prop) (result : α → β → Prop) :
    Program α → Program β → Prop where
  | done {value : α} {other : β} (related : result value other) :
      Resembles clock result (.done value) (.done other)
  | ask {query other : Query} {next : query.Answer → Program α}
      {otherNext : other.Answer → Program β} (like : query.Resembles other)
      (rest : ∀ answer otherAnswer,
        Exchange.Resembles clock ⟨query, answer⟩ ⟨other, otherAnswer⟩ →
          Resembles clock result (next answer) (otherNext otherAnswer)) :
      Resembles clock result (.ask query next) (.ask other otherNext)

namespace Resembles

variable {result : α → β → Prop} {further : γ → δ → Prop}

theorem pure {value : α} {other : β} (related : result value other) :
    Resembles clock result (Pure.pure value) (Pure.pure other) :=
  .done related

/-- Programs in two parts resemble each other when their parts do. -/
theorem bind {program : Program α} {other : Program β} {next : α → Program γ}
    {otherNext : β → Program δ} (like : Resembles clock result program other)
    (rest : ∀ value otherValue, result value otherValue →
      Resembles clock further (next value) (otherNext otherValue)) :
    Resembles clock further (program >>= next) (other >>= otherNext) := by
  induction like with
  | done related => exact rest _ _ related
  | ask like _ inductionHypothesis => exact .ask like inductionHypothesis

/-- After first parts that end with the same value, both programs go on with it. -/
theorem bind_eq {program other : Program α} {next : α → Program γ} {otherNext : α → Program δ}
    (like : Resembles clock (· = ·) program other)
    (rest : ∀ value, Resembles clock further (next value) (otherNext value)) :
    Resembles clock further (program >>= next) (other >>= otherNext) :=
  like.bind fun value _ same => same ▸ rest value

/-- After a query whose answer is settled, both programs go on with the same answer. -/
theorem query_bind {query : Query} {next : query.Answer → Program α}
    {otherNext : query.Answer → Program β} (settled : query.isSettled = true)
    (rest : ∀ answer, Resembles clock result (next answer) (otherNext answer)) :
    Resembles clock result (Program.query query >>= next) (Program.query query >>= otherNext) :=
  .ask (.refl query) fun answer _ like => like.answer_eq settled ▸ rest answer

/-- Saving an event meets with the same answer in both programs. -/
theorem saveEvent_bind {event other : Premis.Event} (same : event.unmarked = other.unmarked)
    {next : Except Catalog.Failure Unit → Program α}
    {otherNext : Except Catalog.Failure Unit → Program β}
    (rest : ∀ answer, Resembles clock result (next answer) (otherNext answer)) :
    Resembles clock result (Program.query (.saveEvent event) >>= next)
      (Program.query (.saveEvent other) >>= otherNext) := by
  refine .ask (.saveEvent same) fun answer _ like => ?_
  cases like <;> exact rest answer

theorem log_bind {level : Log.Level} {origin : Log.Origin} {message : String}
    {next : Unit → Program α} {otherNext : Unit → Program β}
    (rest : Resembles clock result (next ()) (otherNext ())) :
    Resembles clock result (log level origin message >>= next)
      (log level origin message >>= otherNext) :=
  query_bind rfl fun _ => rest

theorem now_bind {next : Time.Timestamp → Program α} {otherNext : Time.Timestamp → Program β}
    (rest : ∀ time other, time = other ∨ clock time other →
      Resembles clock result (next time) (otherNext other)) :
    Resembles clock result (now >>= next) (now >>= otherNext) := by
  refine .ask (.refl .now) fun time other like => ?_
  cases like with
  | refl => exact rest time time (.inl rfl)
  | now near => exact rest time other (.inr near)

end Resembles

end Program

/-! ### Worlds -/

/-- Two worlds that answer alike and keep their states related by doing so. -/
def World.Resembles (clock : Time.Timestamp → Time.Timestamp → Prop) (related : σ → τ → Prop)
    (world : World σ) (other : World τ) : Prop :=
  ∀ state otherState query otherQuery, related state otherState → query.Resembles otherQuery →
    Exchange.Resembles clock ⟨query, (world.answer state query).1⟩
        ⟨otherQuery, (other.answer otherState otherQuery).1⟩ ∧
      related (world.answer state query).2 (other.answer otherState otherQuery).2

/-! ### Runs -/

/-- Two runs that end with related values after like exchanges; the events that they saved are the
same but for identifiers and times. -/
structure Run.Resembles (clock : Time.Timestamp → Time.Timestamp → Prop) (result : α → β → Prop)
    (run : Run σ α) (other : Run τ β) : Prop where
  value : result run.value other.value
  exchanges : List.Forall₂ (Exchange.Resembles clock) run.exchanges other.exchanges
  savedEvents : run.savedEvents.map Premis.Event.unmarked =
    other.savedEvents.map Premis.Event.unmarked

section

variable {result : α → β → Prop} {related : σ → τ → Prop} {world : World σ} {other : World τ}
  {state : σ} {otherState : τ}

/-- **Runs in step.** Programs that resemble each other have runs that do, in worlds that do. -/
theorem Program.Resembles.run {program : Program α} {otherProgram : Program β}
    (like : Resembles clock result program otherProgram)
    (worlds : World.Resembles clock related world other) (together : related state otherState) :
    Run.Resembles clock result (program.run world state) (otherProgram.run other otherState) := by
  suffices step : result (program.run world state).value (otherProgram.run other otherState).value ∧
      List.Forall₂ (Exchange.Resembles clock) (program.run world state).exchanges
        (otherProgram.run other otherState).exchanges from
    ⟨step.1, step.2, savedAlong_of_resembles step.2⟩
  -- The induction is on the two trees of queries; each answer leaves the worlds' states related.
  induction like generalizing state otherState with
  | done same => exact ⟨same, .nil⟩
  | ask like _ inductionHypothesis =>
    obtain ⟨answers, later⟩ := worlds state otherState _ _ together like
    obtain ⟨ended, exchanges⟩ := inductionHypothesis _ _ answers later
    exact ⟨ended, .cons answers exchanges⟩

/-- Where the answer to the first query is settled, only what goes on after this answer counts. -/
theorem Program.Resembles.run_query_bind {query : Query} {next : query.Answer → Program α}
    {otherNext : query.Answer → Program β} (settled : query.isSettled = true)
    (worlds : World.Resembles clock related world other) (together : related state otherState)
    (rest : Resembles clock result (next (world.answer state query).1)
      (otherNext (world.answer state query).1)) :
    Run.Resembles clock result ((Program.query query >>= next).run world state)
      ((Program.query query >>= otherNext).run other otherState) := by
  obtain ⟨like, later⟩ := worlds state otherState query query together (.refl query)
  have going : Resembles clock result (next (world.answer state query).1)
      (otherNext (other.answer otherState query).1) := by
    rw [← like.answer_eq settled]
    exact rest
  obtain ⟨value, exchanges, -⟩ := going.run worlds later
  exact ⟨value, .cons like exchanges, savedAlong_of_resembles (.cons like exchanges)⟩

end

end

end Fixity
