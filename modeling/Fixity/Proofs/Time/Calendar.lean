/-
This file proves that day numbers and dates are inverse: the date of a day number
exists and has that number. A day within four hundred years is split by centuries, by
four years and by single years, each of which may be one day longer at its end; within
a year counted from March the months are those of a table.
-/

import Fixity.Time.Calendar

namespace Fixity.Time

/-! ### Days within four hundred years -/

/-- A day within four hundred years by its century, four years, year and day in the year. The last
day of a year that has one too many ends four years, and these a century only if it is the last. -/
structure Split (day century fourth year rest : Nat) : Prop where
  sum : day = 36524 * century + 1461 * fourth + 365 * year + rest
  century_le : century ≤ 3
  fourth_le : fourth ≤ 24
  year_le : year ≤ 3
  rest_le : rest ≤ 365
  leap : rest = 365 → year = 3 ∧ (fourth = 24 → century = 3)

theorem exists_split {day : Nat} (bounded : day < 146097) :
    ∃ century fourth year rest, Split day century fourth year rest := by
  let century := min (day / 36524) 3
  let inCentury := day - 36524 * century
  let fourth := inCentury / 1461
  let inFourth := inCentury % 1461
  let year := min (inFourth / 365) 3
  refine ⟨century, fourth, year, inFourth - 365 * year, ?_, ?_, ?_, ?_, ?_, ?_⟩ <;> omega

/-- The year of a day within four hundred years. -/
def yearInCycle (day : Nat) : Nat :=
  (day - day / 1460 + day / 36524 - day / 146096) / 365

/-- The days of the years before a year. -/
def daysBefore (year : Nat) : Nat :=
  365 * year + year / 4 - year / 100

variable {day century fourth year rest : Nat}

theorem Split.yearInCycle_eq (split : Split day century fourth year rest) :
    yearInCycle day = 100 * century + 4 * fourth + year := by
  obtain ⟨sum, century_le, fourth_le, year_le, rest_le, leap⟩ := split
  have centuries : day / 36524 = if day = 146096 then 4 else century := by
    split <;> omega
  have cycles : day / 146096 = if day = 146096 then 1 else 0 := by
    split <;> omega
  have fourths : day / 1460 = 25 * century + fourth +
      if 1460 ≤ 24 * century + fourth + 365 * year + rest then 1 else 0 := by
    split <;> omega
  rw [yearInCycle, centuries, cycles, fourths]
  split <;> split <;> omega

/-- The year of a day is one of four hundred, and the day lies in it; where the year has a day too
many, the next one is a leap year. -/
theorem Split.spec (split : Split day century fourth year rest) :
    yearInCycle day < 400 ∧ day = daysBefore (yearInCycle day) + rest ∧
      (rest = 365 → isLeapYear (yearInCycle day + 1) = true) := by
  have found := split.yearInCycle_eq
  obtain ⟨sum, century_le, fourth_le, year_le, rest_le, leap⟩ := split
  have fourths : (100 * century + 4 * fourth + year) / 4 = 25 * century + fourth := by omega
  have centuries : (100 * century + 4 * fourth + year) / 100 = century := by omega
  rw [found]
  refine ⟨by omega, ?_, fun last => ?_⟩
  · rw [daysBefore, fourths, centuries]
    omega
  · obtain ⟨rfl, ends⟩ := leap last
    simp only [isLeapYear, Bool.and_eq_true, Bool.or_eq_true, beq_iff_eq, bne_iff_ne]
    omega

/-! ### Days within a year -/

/-- The month of a day in a year from March, counted from March. -/
def marchMonth (rest : Nat) : Nat :=
  (5 * rest + 2) / 153

/-- The month of a day in a year from March. -/
def monthOf (rest : Nat) : Nat :=
  if marchMonth rest < 10 then marchMonth rest + 3 else marchMonth rest - 9

/-- The day of the month of a day in a year from March. -/
def dayOf (rest : Nat) : Nat :=
  rest - (153 * marchMonth rest + 2) / 5 + 1

theorem monthOf_spec {rest : Nat} (bounded : rest < 366) :
    1 ≤ monthOf rest ∧ monthOf rest ≤ 12 ∧ monthFromMarch (monthOf rest) = marchMonth rest ∧
      (153 * marchMonth rest + 2) / 5 + dayOf rest = rest + 1 := by
  unfold monthOf dayOf monthFromMarch marchMonth
  refine ⟨?_, ?_, ?_, ?_⟩ <;> (try split) <;> (try split) <;> omega

/-- Only the last day of a year from March can be one that its month does not have in every year. -/
theorem dayOf_spec {rest : Nat} (bounded : rest < 366) :
    1 ≤ dayOf rest ∧ (dayOf rest ≤ daysInMonth 1 (monthOf rest) ∨
      rest = 365 ∧ monthOf rest = 2 ∧ dayOf rest = 29) := by
  have each : ∀ rest < 366, 1 ≤ dayOf rest ∧ (dayOf rest ≤ daysInMonth 1 (monthOf rest) ∨
      rest = 365 ∧ monthOf rest = 2 ∧ dayOf rest = 29) := by decide +kernel
  exact each rest bounded

/-! ### Dates of day numbers -/

/-- Leap years repeat after four hundred years. -/
theorem isLeapYear_add (year cycles : Int) :
    isLeapYear (year + cycles * 400) = isLeapYear year := by
  have fourths : (year + cycles * 400) % 4 = year % 4 := by omega
  have centuries : (year + cycles * 400) % 100 = year % 100 := by omega
  have all : (year + cycles * 400) % 400 = year % 400 := by omega
  rw [isLeapYear, fourths, centuries, all]
  rfl

/-- No month is shorter than in a year that is no leap year. -/
theorem daysInMonth_le (year : Int) (month : Nat) :
    daysInMonth 1 month ≤ daysInMonth year month := by
  by_cases february : month = 2
  · subst february
    show 28 ≤ if isLeapYear year then 29 else 28
    split <;> decide
  · refine Nat.le_of_eq ?_
    unfold daysInMonth
    split <;> first | rfl | contradiction

/-- A day number from the first of March of year zero, by its four hundred years. -/
theorem ofNumber_eq (number : Int) :
    ∃ (cycles : Int) (day century fourth year rest : Nat), Split day century fourth year rest ∧
      number = cycles * cycle + day - marchOffset ∧
      Date.ofNumber number =
        ⟨if monthOf rest ≤ 2 then yearInCycle day + cycles * 400 + 1
          else yearInCycle day + cycles * 400, monthOf rest, dayOf rest⟩ := by
  have bounded : ((number + marchOffset) % cycle).toNat < 146097 := by
    unfold cycle
    omega
  obtain ⟨century, fourth, year, rest, split⟩ := exists_split bounded
  refine ⟨(number + marchOffset) / cycle, _, century, fourth, year, rest, split, ?_, ?_⟩
  · unfold cycle
    omega
  · have spec := split.spec.2.1
    have same : ((number + marchOffset) % cycle).toNat -
        daysBefore (yearInCycle ((number + marchOffset) % cycle).toNat) = rest := by omega
    rw [← same]
    rfl

theorem number_ofNumber (number : Int) : (Date.ofNumber number).number = number := by
  obtain ⟨cycles, day, century, fourth, year, rest, split, sum, date⟩ := ofNumber_eq number
  obtain ⟨small, before, -⟩ := split.spec
  obtain ⟨-, -, month, first⟩ := monthOf_spec (Nat.lt_succ_of_le split.rest_le)
  rw [date, Date.number]
  dsimp only
  have year : (if monthOf rest ≤ 2 then
      (if monthOf rest ≤ 2 then yearInCycle day + cycles * 400 + 1
        else yearInCycle day + cycles * 400) - 1
      else if monthOf rest ≤ 2 then yearInCycle day + cycles * 400 + 1
        else yearInCycle day + cycles * 400) = yearInCycle day + cycles * 400 := by
    split <;> omega
  rw [year, month]
  unfold daysBefore at before
  unfold cycle at sum ⊢
  omega

theorem exists_ofNumber (number : Int) : (Date.ofNumber number).exists = true := by
  obtain ⟨cycles, day, century, fourth, year, rest, split, sum, date⟩ := ofNumber_eq number
  have bounded := Nat.lt_succ_of_le split.rest_le
  obtain ⟨least, greatest, -, -⟩ := monthOf_spec bounded
  obtain ⟨first, last⟩ := dayOf_spec bounded
  rw [date, Date.exists]
  simp only [Bool.and_eq_true, decide_eq_true_eq]
  refine ⟨⟨⟨least, greatest⟩, first⟩, ?_⟩
  rcases last with common | ⟨last, february, leapDay⟩
  · exact Nat.le_trans common (daysInMonth_le _ _)
  · have leap : isLeapYear (yearInCycle day + cycles * 400 + 1) = true := by
      rw [Int.add_right_comm, isLeapYear_add]
      exact split.spec.2.2 last
    have days : daysInMonth (yearInCycle day + cycles * 400 + 1) 2 = 29 := if_pos leap
    rw [february, leapDay, if_pos (Nat.le_refl 2)]
    exact Nat.le_of_eq days.symm

end Fixity.Time
