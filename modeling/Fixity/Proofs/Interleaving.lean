/-
This file says what the programs of a window do between them. A run is cut into
events: a program under the window asks a query, or the first one, at its end,
leaves the window and its value is handed on. Programs go by their numbers in the
queue. Whatever the schedule, they leave in the order of the queue, each of them
once, and none asks before it is under the window; what one of them asks, taken out
of the run, is a way through that program alone.
-/

import Fixity.Proofs.Yields
import Fixity.Window
import Mathlib.Data.List.Dedup
import Mathlib.Data.List.Perm.Subperm

namespace Fixity.Window

open Program

/-! ### Events -/

/-- What happens while programs run side by side: a program asks, or it leaves and its value is
handed on with these exchanges. -/
inductive Event where
  | asked (number : Nat) (exchange : Exchange)
  | left (number : Nat) (exchanges : List Exchange)

namespace Event

/-- The exchanges of an event. -/
def exchanges : Event → List Exchange
  | asked _ exchange => [exchange]
  | left _ exchanges => exchanges

/-- The exchange of an event at which the program of a number asks. -/
def askedBy? (number : Nat) : Event → Option Exchange
  | asked other exchange => if other = number then some exchange else none
  | left _ _ => none

/-- The program that asks at an event. -/
def asker? : Event → Option Nat
  | asked number _ => some number
  | left _ _ => none

/-- The program that leaves at an event. -/
def leaver? : Event → Option Nat
  | asked _ _ => none
  | left number _ => some number

end Event

/-- The exchanges along some events. -/
def along (events : List Event) : List Exchange :=
  events.flatMap Event.exchanges

/-- What the program of a number asks along some events. -/
def askedBy (number : Nat) (events : List Event) : List Exchange :=
  events.filterMap (Event.askedBy? number)

/-- The programs that ask along some events, each as often as it does. -/
def askers (events : List Event) : List Nat :=
  events.filterMap Event.asker?

/-- The programs that leave along some events. -/
def leavers (events : List Event) : List Nat :=
  events.filterMap Event.leaver?

/-- The programs that have begun along some events and have not left, each of them once. -/
def underWay (events : List Event) : List Nat :=
  (askers events).dedup.filter fun number => number ∉ leavers events

section Events

variable (number other : Nat) (exchange : Exchange) (handed : List Exchange) (events : List Event)

@[simp]
theorem along_cons (event : Event) : along (event :: events) = event.exchanges ++ along events :=
  List.flatMap_cons

@[simp]
theorem along_append (first rest : List Event) : along (first ++ rest) = along first ++ along rest :=
  List.flatMap_append

theorem askedBy_asked_self :
    askedBy number (.asked number exchange :: events) = exchange :: askedBy number events :=
  List.filterMap_cons_some (if_pos rfl)

theorem askedBy_asked_of_ne {number other : Nat} (differ : other ≠ number) :
    askedBy number (.asked other exchange :: events) = askedBy number events :=
  List.filterMap_cons_none (if_neg differ)

@[simp]
theorem askedBy_left : askedBy number (.left other handed :: events) = askedBy number events :=
  List.filterMap_cons_none rfl

@[simp]
theorem askers_asked : askers (.asked number exchange :: events) = number :: askers events :=
  List.filterMap_cons_some rfl

@[simp]
theorem askers_left : askers (.left number handed :: events) = askers events :=
  List.filterMap_cons_none rfl

@[simp]
theorem leavers_asked : leavers (.asked number exchange :: events) = leavers events :=
  List.filterMap_cons_none rfl

@[simp]
theorem leavers_left : leavers (.left number handed :: events) = number :: leavers events :=
  List.filterMap_cons_some rfl

/-- What one program asks is a part of the run. -/
theorem sublist_along : (askedBy number events).Sublist (along events) := by
  induction events with
  | nil => exact .slnil
  | cons event rest inductionHypothesis =>
    rw [along_cons]
    cases event with
    | asked other exchange =>
      by_cases same : other = number
      · rw [same, askedBy_asked_self]
        exact inductionHypothesis.cons_cons exchange
      · rw [askedBy_asked_of_ne _ _ same]
        exact inductionHypothesis.cons exchange
    | left other handed =>
      rw [askedBy_left]
      exact inductionHypothesis.trans (List.sublist_append_right handed _)

end Events

/-! ### Interleavings -/

/-- The programs of a queue, the first of which has the given number, run side by side along some
events. They end with some values, which are handed on in their order and lead from one state to
another. -/
inductive Interleaving (width : Nat) (receive : β → α → Program β) :
    Nat → β → List (Program α) → List Event → List α → β → Prop where
  | done (number : Nat) (state : β) : Interleaving width receive number state [] [] [] state
  | ask {number place : Nat} {state result : β} {queue : List (Program α)} {query : Query}
      {next : query.Answer → Program α} {events : List Event} {values : List α}
      (under : place < width) (found : queue[place]? = some (.ask query next))
      (answer : query.Answer)
      (rest : Interleaving width receive number state (queue.set place (next answer)) events values
        result) :
      Interleaving width receive number state queue
        (.asked (number + place) ⟨query, answer⟩ :: events) values result
  | leave {number : Nat} {state handed result : β} {value : α} {queue : List (Program α)}
      {exchanges : List Exchange} {events : List Event} {values : List α}
      (received : (receive state value).Yields exchanges handed)
      (rest : Interleaving width receive (number + 1) handed queue events values result) :
      Interleaving width receive number state (.done value :: queue)
        (.left number exchanges :: events) (value :: values) result

namespace Interleaving

variable {width number : Nat} {receive : β → α → Program β} {state result : β}
  {queue : List (Program α)} {events : List Event} {values : List α}

theorem length_values
    (interleaving : Interleaving width receive number state queue events values result) :
    values.length = queue.length := by
  induction interleaving with
  | done => rfl
  | ask _ _ _ _ inductionHypothesis => rw [inductionHypothesis, List.length_set]
  | leave _ _ inductionHypothesis => rw [List.length_cons, List.length_cons, inductionHypothesis]

/-- The programs leave in their order, each of them once. -/
theorem leavers_eq
    (interleaving : Interleaving width receive number state queue events values result) :
    leavers events = List.range' number queue.length := by
  induction interleaving with
  | done => rfl
  | ask _ _ _ _ inductionHypothesis => rw [leavers_asked, inductionHypothesis, List.length_set]
  | leave _ _ inductionHypothesis =>
    rw [leavers_left, inductionHypothesis, List.length_cons, List.range'_succ]

/-- A program whose number is below that of the first has left already, and asks nothing. -/
theorem askedBy_eq_nil
    (interleaving : Interleaving width receive number state queue events values result)
    {other : Nat} (gone : other < number) : askedBy other events = [] := by
  induction interleaving with
  | done => rfl
  | ask _ _ _ _ inductionHypothesis =>
    rw [askedBy_asked_of_ne _ _ (by omega), inductionHypothesis gone]
  | leave _ _ inductionHypothesis => rw [askedBy_left, inductionHypothesis (by omega)]

/-- What one of the programs asks is a way through that program, to its value. -/
theorem exists_yields
    (interleaving : Interleaving width receive number state queue events values result)
    {place : Nat} {program : Program α} (found : queue[place]? = some program) :
    ∃ value, values[place]? = some value ∧
      program.Yields (askedBy (number + place) events) value := by
  induction interleaving generalizing place program with
  | done => cases found
  | @ask number turned _ _ queue query next _ _ _ asking answer _ inductionHypothesis =>
    by_cases same : turned = place
    · subst same
      obtain rfl := Option.some.inj (asking.symm.trans found)
      have present : turned < queue.length := (List.getElem?_eq_some_iff.mp asking).1
      obtain ⟨value, there, yields⟩ := inductionHypothesis (List.getElem?_set_self present)
      rw [askedBy_asked_self]
      exact ⟨value, there, .ask answer yields⟩
    · rw [askedBy_asked_of_ne _ _ (by omega)]
      exact inductionHypothesis ((List.getElem?_set_ne same).trans found)
  | @leave number _ _ _ value _ _ _ _ _ rest inductionHypothesis =>
    rw [askedBy_left]
    cases place with
    | zero =>
      obtain rfl := Option.some.inj found
      rw [Nat.add_zero, rest.askedBy_eq_nil number.lt_succ_self]
      exact ⟨value, rfl, .done value⟩
    | succ place =>
      obtain ⟨value, there, yields⟩ := inductionHypothesis found
      rw [Nat.succ_add_eq_add_succ] at yields
      exact ⟨value, there, yields⟩

/-- Where handing on a value leads to one state only, all values together do. -/
theorem eq_foldl
    (interleaving : Interleaving width receive number state queue events values result)
    {advance : β → α → β}
    (leads : ∀ {state value exchanges handed},
      (receive state value).Yields exchanges handed → handed = advance state value) :
    result = values.foldl advance state := by
  induction interleaving with
  | done => rfl
  | ask _ _ _ _ inductionHypothesis => exact inductionHypothesis
  | leave received _ inductionHypothesis =>
    rw [List.foldl_cons, ← leads received]
    exact inductionHypothesis

/-! ### The width of the window -/

/-- A program that asks is not further from those that have left than the window is wide. -/
theorem lt_of_mem_askers
    (interleaving : Interleaving width receive number state queue events values result)
    {before : List Event} (begun : before <+: events) {other : Nat}
    (asks : other ∈ askers before) :
    other < number + (leavers before).length + width := by
  induction interleaving generalizing before with
  | done =>
    rw [List.prefix_nil.mp begun] at asks
    cases asks
  | @ask number place _ _ _ _ _ _ _ under _ _ _ inductionHypothesis =>
    obtain rfl | ⟨before, rfl, shorter⟩ := List.prefix_cons_iff.mp begun
    · cases asks
    · rw [leavers_asked]
      rw [askers_asked, List.mem_cons] at asks
      obtain rfl | asks := asks
      · omega
      · exact inductionHypothesis shorter asks
  | leave _ _ inductionHypothesis =>
    obtain rfl | ⟨before, rfl, shorter⟩ := List.prefix_cons_iff.mp begun
    · cases asks
    · rw [askers_left] at asks
      have bound := inductionHypothesis shorter asks
      rw [leavers_left, List.length_cons]
      omega

/-- At no moment are more programs under way than the window is wide. -/
theorem length_underWay_le
    (interleaving : Interleaving width receive 0 state queue events values result)
    {before : List Event} (begun : before <+: events) : (underWay before).length ≤ width := by
  -- Those that have left are the first ones, since they left in their order.
  have gone : leavers before = List.range (leavers before).length := by
    have all : leavers before <+: List.range queue.length := by
      rw [List.range_eq_range', ← interleaving.leavers_eq]
      exact begun.filterMap _
    rw [List.prefix_iff_eq_take.mp all, List.take_range, List.length_range]
  have within : underWay before ⊆ List.range' (leavers before).length width := by
    intro other member
    simp only [underWay, List.mem_filter, List.mem_dedup, decide_eq_true_eq] at member
    obtain ⟨asks, stays⟩ := member
    have bound := interleaving.lt_of_mem_askers begun asks
    rw [gone, List.mem_range] at stays
    rw [List.mem_range'_1]
    omega
  have distinct : (underWay before).Nodup := (List.nodup_dedup _).filter _
  have counted := (List.Nodup.subperm distinct within).length_le
  rwa [List.length_range'] at counted

end Interleaving

/-! ### Every run is an interleaving -/

section Runs

variable {width : Nat} {receive : β → α → Program β}

/-- Along these exchanges one queue becomes another, which is as long, and what goes on with the
second queue is a way on from the first. -/
structure Advances (width : Nat) (receive : β → α → Program β) (first : List (Program α))
    (exchanges : List Exchange) (second : List (Program α)) : Prop where
  length : second.length = first.length
  extend : ∀ number state, ∃ asked, along asked = exchanges ∧ ∀ events values result,
    Interleaving width receive number state second events values result →
      Interleaving width receive number state first (asked ++ events) values result

theorem Advances.refl (queue : List (Program α)) : Advances width receive queue [] queue :=
  ⟨rfl, fun _ _ => ⟨[], rfl, fun _ _ _ => id⟩⟩

theorem Advances.trans {first second third : List (Program α)} {early late : List Exchange}
    (one : Advances width receive first early second)
    (two : Advances width receive second late third) :
    Advances width receive first (early ++ late) third := by
  refine ⟨two.length.trans one.length, fun number state => ?_⟩
  obtain ⟨asked, rfl, extend⟩ := one.extend number state
  obtain ⟨later, rfl, further⟩ := two.extend number state
  refine ⟨asked ++ later, along_append asked later, fun events values result interleaving => ?_⟩
  rw [List.append_assoc]
  exact extend _ _ _ (further _ _ _ interleaving)

/-- A program under the window that asks advances the queue. -/
theorem Advances.ask {queue : List (Program α)} {place : Nat} {query : Query}
    {next : query.Answer → Program α} (under : place < width)
    (found : queue[place]? = some (.ask query next)) (answer : query.Answer) :
    Advances width receive queue [⟨query, answer⟩] (queue.set place (next answer)) :=
  ⟨List.length_set, fun number _ =>
    ⟨[.asked (number + place) ⟨query, answer⟩], rfl, fun _ _ _ => .ask under found answer⟩⟩

theorem advances_of_turn {queue later : List (Program α)} {place : Nat}
    {exchanges : List Exchange} (yields : (turn width queue place).Yields exchanges later) :
    Advances width receive queue exchanges later := by
  rw [turn] at yields
  split at yields
  · split at yields
    · obtain _ | ⟨answer, ⟨⟩⟩ := yields
      exact .ask ‹_› ‹_› answer
    · obtain ⟨rfl, rfl⟩ := yields_pure_iff.mp yields
      exact .refl _
  · obtain ⟨rfl, rfl⟩ := yields_pure_iff.mp yields
    exact .refl _

theorem advances_of_turns {places : List Nat} {queue later : List (Program α)}
    {exchanges : List Exchange} (yields : (turns width queue places).Yields exchanges later) :
    Advances width receive queue exchanges later := by
  induction places generalizing queue exchanges with
  | nil =>
    obtain ⟨rfl, rfl⟩ := yields_pure_iff.mp yields
    exact .refl _
  | cons place rest inductionHypothesis =>
    obtain ⟨first, middle, last, turned, further, rfl⟩ := yields_bind_iff.mp yields
    exact (advances_of_turn turned).trans (inductionHypothesis further)

/-- The first program can run to its end. -/
theorem advances_of_yields (wide : 0 < width) {program : Program α} {rest : List (Program α)}
    {exchanges : List Exchange} {value : α} (yields : program.Yields exchanges value) :
    Advances width receive (program :: rest) exchanges (.done value :: rest) := by
  induction yields with
  | done value => exact .refl _
  | ask answer _ inductionHypothesis =>
    exact (Advances.ask wide List.getElem?_cons_zero answer).trans inductionHypothesis

theorem interleaving_of_await (wide : 0 < width) {count : Nat} (number : Nat)
    {schedule : Schedule} {state result : β} {queue : List (Program α)} {exchanges : List Exchange}
    (size : queue.length = count)
    (yields : (await width receive count schedule state queue).Yields exchanges result) :
    ∃ events values, Interleaving width receive number state queue events values result ∧
      along events = exchanges := by
  induction count generalizing number schedule state queue exchanges with
  | zero =>
    obtain ⟨rfl, rfl⟩ := yields_pure_iff.mp yields
    rw [List.length_eq_zero_iff.mp size]
    exact ⟨[], [], .done number result, rfl⟩
  | succ count inductionHypothesis =>
    obtain ⟨taken, later, last, turned, further, rfl⟩ := yields_bind_iff.mp yields
    have advances : Advances width receive queue taken later := advances_of_turns turned
    have length := advances.length
    cases later with
    | nil => cases length.trans size
    | cons first rest =>
      obtain ⟨own, value, others, finished, onward, rfl⟩ := yields_bind_iff.mp further
      obtain ⟨received, handed, remaining, handing, tail, rfl⟩ := yields_bind_iff.mp onward
      have shorter : rest.length = count := Nat.succ.inj (length.trans size)
      obtain ⟨events, values, interleaving, rfl⟩ :=
        inductionHypothesis (number + 1) shorter tail
      obtain ⟨asked, same, extend⟩ :=
        (advances.trans (advances_of_yields wide finished)).extend number state
      refine ⟨asked ++ .left number received :: events, value :: values,
        extend _ _ _ (.leave handing interleaving), ?_⟩
      rw [along_append, same, along_cons, List.append_assoc]
      rfl

/-- **Programs run side by side.** Every run of a queue is an interleaving of its programs, with at
least one of them under way. -/
theorem interleaving_of_run {concurrency : Nat} {schedule : Schedule} {state result : β}
    {queue : List (Program α)} {exchanges : List Exchange}
    (yields : (run concurrency schedule receive state queue).Yields exchanges result) :
    ∃ events values,
      Interleaving (max 1 concurrency) receive 0 state queue events values result ∧
        along events = exchanges :=
  interleaving_of_await (Nat.lt_of_lt_of_le Nat.one_pos (Nat.le_max_left 1 concurrency)) 0 rfl
    yields

end Runs

end Fixity.Window
