/-
This file speaks of the runs of a program without a world. A program yields a
value along a list of exchanges when it ends with that value once its queries meet
with those answers; every run in every world is of this kind. What a program put
together from parts yields is put together from what the parts yield, so a claim
about all runs is settled part by part; where the world's states between the parts
matter, the second part is run in the state that the first leaves. Most claims look
only at the dealings: the exchanges with the catalog, with the choice of a copy,
and with the stores.
-/

import Fixity.Program

namespace Fixity

/-! ### Dealings -/

/-- The queries that concern files and their copies. The clock, fresh identifiers, pauses and the
log do not. -/
def Query.isDealing : Query → Bool
  | .getFile _ | .resolve _ | .stat _ | .get _ | .saveEvent _ => true
  | .now | .newUuid | .pause _ | .log _ => false

/-- The exchanges that concern files and their copies, in order. -/
def dealings (exchanges : List Exchange) : List Exchange :=
  exchanges.filter fun exchange => exchange.query.isDealing

@[simp]
theorem dealings_cons (exchange : Exchange) (rest : List Exchange) :
    dealings (exchange :: rest) =
      if exchange.query.isDealing then exchange :: dealings rest else dealings rest := by
  simp only [dealings, List.filter_cons]

@[simp]
theorem dealings_append (first rest : List Exchange) :
    dealings (first ++ rest) = dealings first ++ dealings rest := by
  simp only [dealings, List.filter_append]

theorem mem_dealings {exchange : Exchange} {exchanges : List Exchange} :
    exchange ∈ dealings exchanges ↔ exchange ∈ exchanges ∧ exchange.query.isDealing = true := by
  simp only [dealings, List.mem_filter]

/-- The event of an exchange that saved one with success. -/
def Exchange.savedEvent? : Exchange → Option Premis.Event
  | ⟨.saveEvent event, .ok ()⟩ => some event
  | _ => none

/-- The events that were saved with success along a list of exchanges. -/
def savedAlong (exchanges : List Exchange) : List Premis.Event :=
  exchanges.filterMap Exchange.savedEvent?

theorem Run.savedEvents_eq (run : Run σ α) : run.savedEvents = savedAlong run.exchanges := rfl

/-- Saved events can be read off the dealings. -/
theorem savedAlong_dealings (exchanges : List Exchange) :
    savedAlong (dealings exchanges) = savedAlong exchanges := by
  simp only [savedAlong, dealings, List.filterMap_filter]
  refine congrArg (List.filterMap · exchanges) (funext fun exchange => ?_)
  obtain ⟨query, answer⟩ := exchange
  cases query <;> rfl

/-! ### What programs yield -/

namespace Program

/-- With these exchanges, the program ends with this value. -/
inductive Yields : Program α → List Exchange → α → Prop where
  | done (value : α) : Yields (.done value) [] value
  | ask {query : Query} {next : query.Answer → Program α} {exchanges : List Exchange} {value : α}
      (answer : query.Answer) (rest : Yields (next answer) exchanges value) :
      Yields (.ask query next) (⟨query, answer⟩ :: exchanges) value

/-- Every run of a program in a world is along exchanges that yield its value. -/
theorem yields_run (world : World σ) (state : σ) (program : Program α) :
    program.Yields (program.run world state).exchanges (program.run world state).value := by
  induction program generalizing state with
  | done value => exact .done value
  | ask query next inductionHypothesis => exact .ask _ (inductionHypothesis _ _)

/-- A run of a program in two parts runs the second part in the state that the first leaves. -/
theorem run_bind (world : World σ) (state : σ) (program : Program α) (next : α → Program β) :
    (program >>= next).run world state =
      let first := program.run world state
      let rest := (next first.value).run world first.state
      ⟨rest.value, rest.state, first.exchanges ++ rest.exchanges⟩ := by
  induction program generalizing state with
  | done value => rfl
  | ask query further inductionHypothesis =>
    show (ask query fun answer => further answer >>= next).run world state = _
    simp only [run, inductionHypothesis, List.cons_append]

theorem yields_pure_iff {value result : α} {exchanges : List Exchange} :
    (pure value : Program α).Yields exchanges result ↔ exchanges = [] ∧ result = value := by
  constructor
  · rintro ⟨⟩
    exact ⟨rfl, rfl⟩
  · rintro ⟨rfl, rfl⟩
    exact .done _

theorem yields_query_iff {q : Query} {exchanges : List Exchange} {answer : q.Answer} :
    (query q).Yields exchanges answer ↔ exchanges = [⟨q, answer⟩] := by
  constructor
  · rintro (_ | ⟨_, ⟨⟩⟩)
    rfl
  · rintro rfl
    exact .ask answer (.done answer)

/-- A program in two parts yields what the second part does after the first. -/
theorem yields_bind_iff {program : Program α} {next : α → Program β} {exchanges : List Exchange}
    {result : β} :
    (program >>= next).Yields exchanges result ↔
      ∃ first value rest, program.Yields first value ∧ (next value).Yields rest result ∧
        exchanges = first ++ rest := by
  constructor
  · intro yields
    induction program generalizing exchanges with
    | done value => exact ⟨[], value, exchanges, .done value, yields, rfl⟩
    | ask query rest inductionHypothesis =>
      obtain _ | ⟨answer, tail⟩ := yields
      obtain ⟨first, value, last, part, whole, rfl⟩ := inductionHypothesis answer tail
      exact ⟨⟨query, answer⟩ :: first, value, last, .ask answer part, whole, rfl⟩
  · rintro ⟨first, value, rest, part, whole, rfl⟩
    induction part with
    | done value => exact whole
    | ask answer _ inductionHypothesis => exact .ask answer (inductionHypothesis whole)

/-- A program that begins with a query goes on from its answer. -/
theorem yields_query_bind_iff {q : Query} {next : q.Answer → Program α}
    {exchanges : List Exchange} {result : α} :
    (query q >>= next).Yields exchanges result ↔
      ∃ answer rest, (next answer).Yields rest result ∧ exchanges = ⟨q, answer⟩ :: rest := by
  constructor
  · rintro (_ | ⟨answer, whole⟩)
    exact ⟨answer, _, whole, rfl⟩
  · rintro ⟨answer, rest, whole, rfl⟩
    exact .ask answer whole

/-! ### Parts without dealings -/

theorem pure_yields {value result : α} {exchanges : List Exchange}
    (yields : (pure value : Program α).Yields exchanges result) :
    dealings exchanges = [] ∧ result = value := by
  obtain ⟨rfl, rfl⟩ := yields_pure_iff.mp yields
  exact ⟨rfl, rfl⟩

/-- What goes on after a query that is no dealing has all the dealings. -/
theorem aside_yields {q : Query} {next : q.Answer → Program α} {exchanges : List Exchange}
    {result : α} (aside : q.isDealing = false) (yields : (query q >>= next).Yields exchanges result) :
    ∃ answer rest, (next answer).Yields rest result ∧ dealings exchanges = dealings rest := by
  obtain ⟨answer, rest, whole, rfl⟩ := yields_query_bind_iff.mp yields
  refine ⟨answer, rest, whole, ?_⟩
  rw [dealings_cons, aside, if_neg Bool.false_ne_true]

theorem now_yields {next : Time.Timestamp → Program α} {exchanges : List Exchange} {result : α}
    (yields : (now >>= next).Yields exchanges result) :
    ∃ time rest, (next time).Yields rest result ∧ dealings exchanges = dealings rest :=
  aside_yields rfl yields

theorem log_yields {level : Log.Level} {origin : Log.Origin} {message : String}
    {next : Unit → Program α} {exchanges : List Exchange} {result : α}
    (yields : (log level origin message >>= next).Yields exchanges result) :
    ∃ rest, (next ()).Yields rest result ∧ dealings exchanges = dealings rest := by
  obtain ⟨_, rest⟩ := aside_yields rfl yields
  exact rest

/-- A dealing comes before the dealings of what goes on after its answer. -/
theorem dealing_yields {q : Query} {next : q.Answer → Program α} {exchanges : List Exchange}
    {result : α} (dealing : q.isDealing = true)
    (yields : (query q >>= next).Yields exchanges result) :
    ∃ answer rest, (next answer).Yields rest result ∧
      dealings exchanges = ⟨q, answer⟩ :: dealings rest := by
  obtain ⟨answer, rest, whole, rfl⟩ := yields_query_bind_iff.mp yields
  refine ⟨answer, rest, whole, ?_⟩
  rw [dealings_cons, if_pos dealing]

end Program

end Fixity
