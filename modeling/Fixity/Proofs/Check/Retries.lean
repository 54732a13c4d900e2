/-
This file proves how often the saving of an event is tried. The catalog may answer
the tries with any results, one after the other. A try is repeated after a failure of
the gateway alone and while tries are granted, with a pause before the next one; the
last result is the one that counts, and the event is stored by the last try or by
none. Counted upwards in 32 bits, the tries never leave their range.
-/

import Fixity.Proofs.Calls
import Fixity.Proofs.Check.Coherence
import Mathlib.Order.Bounds.Basic

namespace Fixity

/-! ### Results of tries -/

/-- The world in which the tries to save an event meet with some results in their order, the first
of which has number one. All else is as in another world, and the tries are counted. -/
def World.saving (world : World σ) (results : Nat → Except Catalog.Failure Unit) :
    World (σ × Nat) where
  answer
    | (state, made), .saveEvent _ => (results (made + 1), (state, made + 1))
    | (state, made), query =>
      let (answer, state) := world.answer state query
      (answer, (state, made))

/-- The pause of a query, in milliseconds. -/
def Query.pause? : Query → Option Nat
  | .pause milliseconds => some milliseconds
  | _ => none

/-- The pauses along a list of exchanges, in milliseconds. -/
def pausesAlong (exchanges : List Exchange) : List Nat :=
  (exchanges.map Exchange.query).filterMap Query.pause?

namespace Check

open Program

/-- The catalog answered with status 502. -/
def FailedAtGateway (result : Except Catalog.Failure Unit) : Prop :=
  ∃ endpoint body, result = .error (.status endpoint ⟨502⟩ body)

/-- A failure other than status 502: the subject is not there, the exchange failed, or the catalog
answered with another status. -/
inductive FinalFailure : Catalog.Failure → Prop where
  | notFound (subject : String) : FinalFailure (.notFound subject)
  | exchange (endpoint : String) (fault : Http.Fault) : FinalFailure (.exchange endpoint fault)
  | status (endpoint : String) (code : Http.Status) (body : String) (other : code.code ≠ 502) :
      FinalFailure (.status endpoint code body)

theorem FinalFailure.not_failedAtGateway {failure : Catalog.Failure}
    (final : FinalFailure failure) : ¬ FailedAtGateway (.error failure) := by
  rintro ⟨endpoint, body, ⟨⟩⟩
  cases final with
  | status _ _ _ other => exact other rfl

theorem failedAtGateway_error_iff {failure : Catalog.Failure} :
    FailedAtGateway (.error failure) ↔ failure.isBadGateway = true := by
  constructor
  · rintro ⟨endpoint, body, ⟨⟩⟩
    rfl
  · intro gateway
    cases failure with
    | notFound | exchange => cases gateway
    | status endpoint code body =>
      obtain rfl : code = .badGateway := of_decide_eq_true gateway
      exact ⟨endpoint, body, rfl⟩

/-- So many tries are made of those that are granted: as many as it takes to meet with the first
result that is no failure of the gateway, or all of them where every one meets with such a
failure. -/
def LastTry (results : Nat → Except Catalog.Failure Unit) (granted tries : Nat) : Prop :=
  IsLeast {number | 1 ≤ number ∧ number ≤ granted ∧ ¬ FailedAtGateway (results number)} tries ∨
    (∀ number, 1 ≤ number → number ≤ granted → FailedAtGateway (results number)) ∧ tries = granted

/-! ### One try -/

section Runs

variable (world : World σ) (results : Nat → Except Catalog.Failure Unit) (settings : Settings)
  (event : Premis.Event)

/-- A try meets with the next result. -/
theorem run_try (state : σ) (made : Nat) :
    (query (.saveEvent event)).run (world.saving results) (state, made) =
      ⟨results (made + 1), (state, made + 1), [⟨.saveEvent event, results (made + 1)⟩]⟩ :=
  rfl

/-- A try is the last one if none is left, or if its result is no failure of the gateway. -/
theorem run_saveFrom_last {left made : Nat} (state : σ)
    (last : left = 0 ∨ ¬ FailedAtGateway (results (made + 1))) :
    (saveFrom settings event left).run (world.saving results) (state, made) =
      ⟨results (made + 1), (state, made + 1), [⟨.saveEvent event, results (made + 1)⟩]⟩ := by
  cases left with
  | zero => rfl
  | succ left =>
    obtain ⟨⟨⟩⟩ | other := last
    rw [saveFrom, run_bind, run_try]
    dsimp only
    cases result : results (made + 1) with
    | ok => rfl
    | error failure =>
      rw [result, failedAtGateway_error_iff] at other
      dsimp only
      rw [if_neg other]
      rfl

/-- After a failure of the gateway, and a pause, the next try is made while one is left. -/
theorem run_saveFrom_again {left made : Nat} (state : σ)
    (gateway : FailedAtGateway (results (made + 1))) :
    ∃ later,
      let rest := (saveFrom settings event left).run (world.saving results) (later, made + 1)
      (saveFrom settings event (left + 1)).run (world.saving results) (state, made) =
        { rest with
          exchanges := ⟨.saveEvent event, results (made + 1)⟩ ::
            ⟨.log (retryEntry settings event), ()⟩ :: ⟨.pause settings.retryDelay, ()⟩ ::
              rest.exchanges } := by
  obtain ⟨failure, result⟩ : ∃ failure, results (made + 1) = .error failure := by
    obtain ⟨endpoint, body, result⟩ := gateway
    exact ⟨_, result⟩
  rw [result, failedAtGateway_error_iff] at gateway
  rw [saveFrom, run_bind, run_try]
  dsimp only
  rw [result]
  dsimp only
  rw [if_pos gateway]
  exact ⟨_, rfl⟩

end Runs

/-! ### Runs of tries -/

/-- What is asked in so many tries and one more: each try but the last is followed by an entry in
the log and a pause. -/
def queriesOf (settings : Settings) (event : Premis.Event) (repeats : Nat) : List Query :=
  (List.replicate repeats
    [.saveEvent event, .log (retryEntry settings event), .pause settings.retryDelay]).flatten ++
      [.saveEvent event]

theorem filter_queriesOf (settings : Settings) (event : Premis.Event) (repeats : Nat) :
    (queriesOf settings event repeats).filter Query.isCall =
      List.replicate (repeats + 1) (.saveEvent event) := by
  rw [queriesOf, List.filter_append, List.filter_flatten, List.map_replicate]
  show (List.replicate repeats [Query.saveEvent event]).flatten ++ [.saveEvent event] = _
  rw [List.flatten_replicate_singleton, List.replicate_succ']

theorem filterMap_queriesOf (settings : Settings) (event : Premis.Event) (repeats : Nat) :
    (queriesOf settings event repeats).filterMap Query.pause? =
      List.replicate repeats settings.retryDelay := by
  rw [queriesOf, List.filterMap_append, List.filterMap_flatten, List.map_replicate]
  show (List.replicate repeats [settings.retryDelay]).flatten ++ [] = _
  rw [List.flatten_replicate_singleton, List.append_nil]

/-- After some tries were made and while some are left, this many tries are repeated: all of them
fail at the gateway, and the try after them is the last, with the result of the run. -/
structure Repeated (settings : Settings) (event : Premis.Event)
    (results : Nat → Except Catalog.Failure Unit) (made left repeats : Nat)
    (run : Run σ (Except Catalog.Failure Unit)) : Prop where
  most : repeats ≤ left
  gateway : ∀ number, made < number → number ≤ made + repeats → FailedAtGateway (results number)
  last : repeats = left ∨ ¬ FailedAtGateway (results (made + repeats + 1))
  value : run.value = results (made + repeats + 1)
  queries : run.exchanges.map Exchange.query = queriesOf settings event repeats

theorem exists_repeated (world : World σ) (results : Nat → Except Catalog.Failure Unit)
    (settings : Settings) (event : Premis.Event) (left made : Nat) (state : σ) :
    ∃ repeats, Repeated settings event results made left repeats
      ((saveFrom settings event left).run (world.saving results) (state, made)) := by
  have lastTry {left made : Nat} {state : σ}
      (last : left = 0 ∨ ¬ FailedAtGateway (results (made + 1))) :
      Repeated settings event results made left 0
        ((saveFrom settings event left).run (world.saving results) (state, made)) := by
    rw [run_saveFrom_last world results settings event state last]
    exact ⟨Nat.zero_le left, fun number before after => absurd before (Nat.not_lt.mpr after),
      last.imp_left Eq.symm, rfl, rfl⟩
  induction left generalizing made state with
  | zero => exact ⟨0, lastTry (.inl rfl)⟩
  | succ left inductionHypothesis =>
    by_cases gateway : FailedAtGateway (results (made + 1))
    · obtain ⟨later, run⟩ := run_saveFrom_again world results settings event state gateway
      obtain ⟨repeats, rest⟩ := inductionHypothesis (made + 1) later
      have shift : made + (repeats + 1) = made + 1 + repeats := by omega
      refine ⟨repeats + 1, Nat.succ_le_succ rest.most, ?_, ?_, ?_, ?_⟩
      · intro number before after
        by_cases first : number = made + 1
        · rwa [first]
        · exact rest.gateway number (by omega) (by omega)
      · rw [shift]
        exact rest.last.imp_left (congrArg (· + 1))
      · rw [run, shift]
        exact rest.value
      · rw [run, queriesOf, List.replicate_succ, List.flatten_cons, List.append_assoc,
          ← queriesOf, ← rest.queries]
        rfl
    · exact ⟨0, lastTry (.inr gateway)⟩

/-! ### The count of tries -/

/-- There is room in 32 bits for one more try than those below a limit of 32 bits. -/
theorem toNat_next {attempt limit : UInt32} (more : attempt < limit) :
    (attempt + 1).toNat = attempt.toNat + 1 := by
  have below := UInt32.lt_iff_toNat_lt.mp more
  have bound := limit.toNat_lt
  rw [UInt32.toNat_add, UInt32.toNat_one]
  omega

/-- Tries to save an event, the first of which has the given number. The tries are counted in 32
bits; where the count would leave them, there is no result. -/
def countFrom (settings : Settings) (event : Premis.Event) (attempt : UInt32) :
    Program (Option (Except Catalog.Failure Unit)) := do
  match ← query (.saveEvent event) with
  | .ok () => return some (.ok ())
  | .error failure =>
    if more : failure.isBadGateway = true ∧ attempt < settings.attempts then
      query (.log (retryEntry settings event))
      query (.pause settings.retryDelay)
      if attempt.toNat + 1 < UInt32.size then countFrom settings event (attempt + 1)
      else return none
    else return some (.error failure)
termination_by settings.attempts.toNat - attempt.toNat
decreasing_by
  have below := UInt32.lt_iff_toNat_lt.mp more.2
  rw [toNat_next more.2]
  omega

theorem countFrom_eq (settings : Settings) (event : Premis.Event) {attempt : UInt32} {left : Nat}
    (count : left = settings.attempts.toNat - attempt.toNat) :
    countFrom settings event attempt = some <$> saveFrom settings event left := by
  induction left generalizing attempt with
  | zero =>
    have spent : ¬ attempt < settings.attempts := by
      rw [UInt32.lt_iff_toNat_lt]
      omega
    rw [countFrom, saveFrom]
    refine congrArg (ask (.saveEvent event)) (funext fun answer => ?_)
    cases answer with
    | ok => rfl
    | error failure => exact dif_neg fun more => spent more.2
  | succ left inductionHypothesis =>
    have more : attempt < settings.attempts := by
      rw [UInt32.lt_iff_toNat_lt]
      omega
    rw [countFrom, saveFrom]
    refine congrArg (ask (.saveEvent event)) (funext fun answer => ?_)
    cases answer with
    | ok => rfl
    | error failure =>
      show (if more : _ then _ else _) = some <$> (if _ then _ else _)
      by_cases gateway : failure.isBadGateway = true
      · have next := toNat_next more
        have within : attempt.toNat + 1 < UInt32.size := next ▸ (attempt + 1).toNat_lt
        rw [dif_pos ⟨gateway, more⟩, if_pos gateway, if_pos within]
        refine congrArg (ask _) (funext fun _ => congrArg (ask _) (funext fun _ => ?_))
        exact inductionHypothesis (by omega)
      · rw [dif_neg fun both => gateway both.1, if_neg gateway]
        rfl

/-! ### Saving an event -/

/-- What saving an event comes to when its tries meet with some results: this many tries, each for
the event and with a pause between each two. The last result counts, and no try follows on a final
failure; the event is stored if the last try succeeds, once, and not otherwise. -/
structure Retried (settings : Settings) (event : Premis.Event)
    (results : Nat → Except Catalog.Failure Unit) (tries : Nat)
    (run : Run σ (Except Catalog.Failure Unit)) : Prop where
  last : LastTry results (max 1 settings.attempts.toNat) tries
  value : run.value = results tries
  queries : run.exchanges.map Exchange.query = queriesOf settings event (tries - 1)
  calls : run.calls = List.replicate tries (.saveEvent event)
  pauses : pausesAlong run.exchanges = List.replicate (tries - 1) settings.retryDelay
  final : ∀ number failure, 1 ≤ number → results number = .error failure → FinalFailure failure →
    tries ≤ number
  stored : run.value = .ok () → run.savedEvents = [event]
  unstored : run.value ≠ .ok () → run.savedEvents = []

/-- The tries that are repeated lead to the last one of those that are granted. -/
theorem Repeated.lastTry {settings : Settings} {event : Premis.Event}
    {results : Nat → Except Catalog.Failure Unit} {repeats : Nat}
    {run : Run σ (Except Catalog.Failure Unit)}
    (repeated : Repeated settings event results 0 (settings.attempts.toNat - 1) repeats run) :
    LastTry results (max 1 settings.attempts.toNat) (repeats + 1) := by
  have most := repeated.most
  by_cases gateway : FailedAtGateway (results (repeats + 1))
  · obtain none | other := repeated.last
    · refine .inr ⟨fun number least within => ?_, by omega⟩
      by_cases last : number = repeats + 1
      · rwa [last]
      · exact repeated.gateway number (by omega) (by omega)
    · rw [Nat.zero_add] at other
      exact absurd gateway other
  · refine .inl ⟨⟨by omega, by omega, gateway⟩, ?_⟩
    rintro number ⟨least, -, other⟩
    by_contra before
    exact other (repeated.gateway number (by omega) (by omega))

/-- No try follows on a final failure. -/
theorem Repeated.le_of_final {settings : Settings} {event : Premis.Event}
    {results : Nat → Except Catalog.Failure Unit} {left repeats number : Nat}
    {failure : Catalog.Failure} {run : Run σ (Except Catalog.Failure Unit)}
    (repeated : Repeated settings event results 0 left repeats run) (least : 1 ≤ number)
    (result : results number = .error failure) (final : FinalFailure failure) :
    repeats + 1 ≤ number := by
  by_contra before
  have gateway := repeated.gateway number (by omega) (by omega)
  rw [result] at gateway
  exact final.not_failedAtGateway gateway

/-- In every world, an event is stored once if saving it succeeds, and otherwise not at all. -/
theorem savedEvents_saveEvent (world : World σ) (state : σ) (settings : Settings)
    (event : Premis.Event) :
    let run := (saveEvent settings event).run world state
    run.savedEvents = (run.value.toOption.map fun _ => event).toList := by
  intro run
  rw [Run.savedEvents_eq, ← savedAlong_dealings]
  exact (saving_of_yields (yields_run world state _)).savedAlong_eq

/-- **How often an event is tried.** In every world, and whatever results its tries meet with, an
event is tried up to the first result that is no failure of the gateway, or as often as is granted,
and that result counts. Counted in 32 bits, the tries are the same. -/
theorem retried_saveEvent (world : World σ) (state : σ) (settings : Settings) (event : Premis.Event)
    (results : Nat → Except Catalog.Failure Unit) :
    countFrom settings event 1 = some <$> saveEvent settings event ∧
      ∃ tries, Retried settings event results tries
        ((saveEvent settings event).run (world.saving results) (state, 0)) := by
  refine ⟨countFrom_eq settings event rfl, ?_⟩
  obtain ⟨repeats, repeated⟩ :=
    exists_repeated world results settings event (settings.attempts.toNat - 1) 0 state
  let run := (saveEvent settings event).run (world.saving results) (state, 0)
  have value : run.value = results (repeats + 1) := by
    rw [← Nat.zero_add repeats]
    exact repeated.value
  have queries : run.exchanges.map Exchange.query = queriesOf settings event repeats :=
    repeated.queries
  have saved : run.savedEvents = (run.value.toOption.map fun _ => event).toList :=
    savedEvents_saveEvent (world.saving results) (state, 0) settings event
  refine ⟨repeats + 1, repeated.lastTry, value, queries, ?calls, ?pauses,
    fun _ _ => repeated.le_of_final, ?stored, ?unstored⟩
  case calls =>
    show (run.exchanges.map Exchange.query).filter Query.isCall = _
    rw [queries, filter_queriesOf]
  case pauses =>
    show (run.exchanges.map Exchange.query).filterMap Query.pause? = _
    rw [queries, filterMap_queriesOf, Nat.add_sub_cancel]
  case stored =>
    intro success
    rw [saved, success]
    rfl
  case unstored =>
    intro refused
    rw [saved]
    cases result : run.value with
    | ok => exact absurd result refused
    | error failure => rfl

end Check

end Fixity
