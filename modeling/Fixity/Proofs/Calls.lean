/-
This file reads two things off the exchanges of a run: the calls on the catalog and
the stores, in their order, and the time that the clock told first. Every call is a
dealing, so the calls of a run are those among its dealings.
-/

import Fixity.Proofs.Yields

namespace Fixity

/-! ### Calls -/

/-- The calls on the catalog and the stores along a list of exchanges, in order. -/
def callsAlong (exchanges : List Exchange) : List Query :=
  (exchanges.map Exchange.query).filter Query.isCall

@[simp]
theorem callsAlong_nil : callsAlong [] = [] := rfl

@[simp]
theorem callsAlong_cons (exchange : Exchange) (rest : List Exchange) :
    callsAlong (exchange :: rest) =
      if exchange.query.isCall then exchange.query :: callsAlong rest else callsAlong rest := by
  simp only [callsAlong, List.map_cons, List.filter_cons]

/-- Choosing a copy is the one dealing that is no call. -/
theorem Query.isDealing_of_isCall {query : Query} (call : query.isCall = true) :
    query.isDealing = true := by
  cases query <;> first | rfl | cases call

/-- Calls can be read off the dealings. -/
theorem callsAlong_dealings (exchanges : List Exchange) :
    callsAlong (dealings exchanges) = callsAlong exchanges := by
  induction exchanges with
  | nil => rfl
  | cons exchange rest inductionHypothesis =>
    rw [dealings_cons, callsAlong_cons]
    by_cases dealing : exchange.query.isDealing = true
    · rw [if_pos dealing, callsAlong_cons, inductionHypothesis]
    · have quiet : ¬ exchange.query.isCall = true :=
        fun call => dealing (Query.isDealing_of_isCall call)
      rw [if_neg dealing, if_neg quiet, inductionHypothesis]

/-! ### The clock -/

/-- The time that an exchange with the clock told. -/
def Exchange.time? : Exchange → Option Time.Timestamp
  | ⟨.now, time⟩ => some time
  | _ => none

/-- The time that the clock told first along a list of exchanges, if it was asked. -/
def firstTime? (exchanges : List Exchange) : Option Time.Timestamp :=
  exchanges.findSome? Exchange.time?

end Fixity
