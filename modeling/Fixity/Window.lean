/-
This file defines how programs run side by side. A window of some width lies over
the head of a queue of programs. Those under it are under way, and the others have
not begun; the first of them leaves the window with its value before any other, so
the values come in the order of the queue. Which of the programs under way ask
queries meanwhile, and in which order, is the affair of a schedule.
-/

import Fixity.Program

namespace Fixity.Window

/-! ### Turns -/

/-- The places that get a turn while a value is awaited, by the number of the value. -/
abbrev Schedule := Nat → List Nat

/-- One turn: the program at a place asks its next query, if it is under way and not at its end. -/
def turn (width : Nat) (queue : List (Program α)) (place : Nat) : Program (List (Program α)) :=
  if place < width then
    match queue[place]? with
    | some (.ask query next) => .ask query fun answer => .done (queue.set place (next answer))
    | _ => return queue
  else return queue

/-- Several turns, in order. -/
def turns (width : Nat) (queue : List (Program α)) : List Nat → Program (List (Program α))
  | [] => return queue
  | place :: rest => do turns width (← turn width queue place) rest

/-! ### Whole queues -/

/-- Awaits the next `count` values of a queue and hands each of them on as it leaves the window.
After its turns the first program runs to its end. -/
def await (width : Nat) (receive : β → α → Program β) :
    (count : Nat) → Schedule → β → List (Program α) → Program β
  | 0, _, state, _ => return state
  | count + 1, schedule, state, queue => do
    match ← turns width queue (schedule 0) with
    | [] => return state
    | first :: rest =>
      let value ← first
      let state ← receive state value
      await width receive count (fun number => schedule (number + 1)) state rest

/-- Runs the programs of a queue side by side and hands their values on in order. At least one of
them is under way. -/
def run (concurrency : Nat) (schedule : Schedule) (receive : β → α → Program β) (state : β)
    (queue : List (Program α)) : Program β :=
  await (max 1 concurrency) receive queue.length schedule state queue

/-! ### Time

A program starts when there is room in the window, and leaves it when it and all programs before
it are at their ends. -/

/-- The time at which the last of some programs leaves the window, given the times at which the
programs before them left, the latest first, and how long each takes. -/
def leavingTime (width : Nat) (left : List Nat) : List Nat → Nat
  | [] => left.headD 0
  | duration :: rest =>
    let start := (left[width - 1]?).getD 0
    leavingTime width (max (left.headD 0) (start + duration) :: left) rest

/-- The time that programs take side by side when each alone takes the given time. -/
def elapsed (concurrency : Nat) (durations : List Nat) : Nat :=
  leavingTime (max 1 concurrency) [] durations

end Fixity.Window
