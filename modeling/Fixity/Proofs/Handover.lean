/-
This file says when it does not matter who receives the values of a window. What is
done with the values that left can reach the programs that are still under way only
through the world. Where handing on a value changes nothing in the world, the
programs of a queue have the same dealings and end with the same values whoever
receives them.
-/

import Fixity.Proofs.Interleaving

namespace Fixity

/-! ### Idle programs -/

/-- Wherever a program runs in a world, it leaves the state as it is and has no dealings. -/
structure Program.Idle (world : World σ) (program : Program α) : Prop where
  unmoved : ∀ state, (program.run world state).state = state
  silent : ∀ state, dealings (program.run world state).exchanges = []

namespace Program.Idle

variable {world : World σ}

theorem pure (value : α) : Idle world (Pure.pure value) :=
  ⟨fun _ => rfl, fun _ => rfl⟩

/-- A program in two idle parts is idle. -/
theorem bind {program : Program α} {next : α → Program β} (first : Idle world program)
    (rest : ∀ value, Idle world (next value)) : Idle world (program >>= next) := by
  refine ⟨fun state => ?unmoved, fun state => ?silent⟩ <;> rw [run_bind]
  case unmoved => exact ((rest _).unmoved _).trans (first.unmoved state)
  case silent =>
    rw [dealings_append, first.silent state]
    exact (rest _).silent _

end Program.Idle

namespace Window

open Program

/-! ### The values of a window -/

/-- What a run of a queue comes to: the world's last state, the dealings of the programs, and their
values, which leave one after the other. -/
structure Passes (width : Nat) (receive : β → α → Program β) (number : Nat) (state : β)
    (queue : List (Program α)) (run : Run σ β) (last : σ) (dealt : List Exchange)
    (values : List α) : Prop where
  ended : run.state = last
  asked : dealings run.exchanges = dealt
  interleaving : ∃ events,
    Interleaving width receive number state queue events values run.value ∧
      along events = run.exchanges

section Await

variable {width count : Nat} {queue rest : List (Program α)} {first : Program α}

/-- The turns, the first program to its end, the handing on of its value, and the remaining programs
follow each other in a run. -/
theorem run_await_succ (world : World σ) (outside : σ) (schedule : Schedule)
    (receive : β → α → Program β) (state : β)
    (turned : ((turns width queue (schedule 0)).run world outside).value = first :: rest) :
    let moved := (turns width queue (schedule 0)).run world outside
    let own := first.run world moved.state
    let handed := (receive state own.value).run world own.state
    let further := (await width receive count (fun number => schedule (number + 1)) handed.value
      rest).run world handed.state
    (await width receive (count + 1) schedule state queue).run world outside =
      ⟨further.value, further.state,
        moved.exchanges ++ (own.exchanges ++ (handed.exchanges ++ further.exchanges))⟩ := by
  simp only [await, run_bind, turned]

/-- Turns make a queue neither longer nor shorter. -/
theorem length_run_turns (width : Nat) (world : World σ) (outside : σ) (places : List Nat) :
    ((turns width queue places).run world outside).value.length = queue.length := by
  have advances : Advances width (fun (_ : Unit) _ => pure ()) queue _ _ :=
    advances_of_turns (yields_run world outside (turns width queue places))
  exact advances.length

/-- One round: where handing on the value changes nothing, the remaining programs go on in the state
that the first one leaves. -/
theorem passes_of_round (wide : 0 < width) {world : World σ} {number : Nat} {outside last : σ}
    {schedule : Schedule} {receive : β → α → Program β} {state : β} {dealt : List Exchange}
    {values : List α} (idle : ∀ state value, Idle world (receive state value))
    (turned : ((turns width queue (schedule 0)).run world outside).value = first :: rest) :
    let moved := (turns width queue (schedule 0)).run world outside
    let own := first.run world moved.state
    let handed := (receive state own.value).run world own.state
    Passes width receive (number + 1) handed.value rest
      ((await width receive count (fun number => schedule (number + 1)) handed.value rest).run world
        own.state) last dealt values →
    Passes width receive number state queue
      ((await width receive (count + 1) schedule state queue).run world outside) last
      (dealings moved.exchanges ++ (dealings own.exchanges ++ dealt)) (own.value :: values) := by
  intro moved own handed further
  have unmoved : handed.state = own.state := (idle state own.value).unmoved own.state
  rw [← unmoved] at further
  rw [run_await_succ world outside schedule receive state turned]
  refine { ended := further.ended, asked := ?asked, interleaving := ?interleaving }
  case asked =>
    rw [dealings_append, dealings_append, dealings_append, further.asked,
      (idle state own.value).silent own.state, List.nil_append]
  case interleaving =>
    obtain ⟨events, interleaving, along⟩ := further.interleaving
    have begun : Advances width receive queue moved.exchanges (first :: rest) :=
      turned ▸ advances_of_turns (yields_run world outside _)
    have ended := begun.trans (advances_of_yields wide (yields_run world moved.state first))
    obtain ⟨asked, same, extend⟩ := ended.extend number state
    have handing := yields_run world own.state (receive state own.value)
    refine ⟨asked ++ .left number handed.exchanges :: events,
      extend _ _ _ (.leave handing interleaving), ?_⟩
    rw [along_append, same, along_cons, along, List.append_assoc]
    rfl

/-- By induction on the values still to come: the turns and the first program do not know who
receives, so each round is the same for all receivers, and it leaves them in one state. -/
theorem exists_passes_of_await (wide : 0 < width) (schedule : Schedule) (world : World σ)
    (number : Nat) (outside : σ) (size : queue.length = count) :
    ∃ (last : σ) (dealt : List Exchange) (values : List α),
      ∀ {β : Type} (receive : β → α → Program β) (state : β),
        (∀ state value, Idle world (receive state value)) →
        Passes width receive number state queue
          ((await width receive count schedule state queue).run world outside) last dealt
          values := by
  induction count generalizing number outside schedule queue with
  | zero =>
    rw [List.length_eq_zero_iff.mp size]
    exact ⟨outside, [], [], fun receive state _ => ⟨rfl, rfl, [], .done number state, rfl⟩⟩
  | succ count inductionHypothesis =>
    have length := (length_run_turns width world outside (schedule 0)).trans size
    obtain ⟨first, rest, turned⟩ := List.exists_cons_of_length_eq_add_one length
    rw [turned] at length
    let moved := (turns width queue (schedule 0)).run world outside
    let own := first.run world moved.state
    obtain ⟨last, dealt, values, passes⟩ := inductionHypothesis
      (fun number => schedule (number + 1)) (number + 1) own.state (Nat.succ.inj length)
    exact ⟨last, dealings moved.exchanges ++ (dealings own.exchanges ++ dealt),
      own.value :: values, fun receive state idle =>
        passes_of_round wide idle turned (passes receive _ idle)⟩

end Await

/-- **Receivers are out of the way.** All receivers that leave the world as it is get the same
values, after the same dealings. -/
theorem exists_passes_of_run (concurrency : Nat) (schedule : Schedule) (world : World σ)
    (outside : σ) (queue : List (Program α)) :
    ∃ (last : σ) (dealt : List Exchange) (values : List α),
      ∀ {β : Type} (receive : β → α → Program β) (state : β),
        (∀ state value, Idle world (receive state value)) →
        Passes (max 1 concurrency) receive 0 state queue
          ((run concurrency schedule receive state queue).run world outside) last dealt values :=
  exists_passes_of_await (Nat.lt_of_lt_of_le Nat.one_pos (Nat.le_max_left 1 concurrency)) schedule
    world 0 outside rfl

end Window

end Fixity
