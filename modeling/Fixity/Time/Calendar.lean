/-
This file numbers the days of the proleptic Gregorian calendar. Day zero is the
first of January 1970. A year is counted from March, so that a leap day is the
last day of its year and the days of four hundred years repeat.
-/

namespace Fixity.Time

/-! ### Dates -/

/-- A date by year, month and day of the month. -/
structure Date where
  year : Int
  month : Nat
  day : Nat
deriving Repr, DecidableEq

/-- Every fourth year is a leap year, except for centuries that four hundred does not divide. -/
def isLeapYear (year : Int) : Bool :=
  year % 4 == 0 && (year % 100 != 0 || year % 400 == 0)

/-- The length of a month. -/
def daysInMonth (year : Int) : Nat → Nat
  | 2 => if isLeapYear year then 29 else 28
  | 4 | 6 | 9 | 11 => 30
  | _ => 31

/-- The date exists. -/
def Date.exists (date : Date) : Bool :=
  1 ≤ date.month && date.month ≤ 12 && 1 ≤ date.day && date.day ≤ daysInMonth date.year date.month

/-! ### Day numbers -/

/-- The number of the day from the first of March of year zero to day zero. -/
def marchOffset : Int := 719468

/-- Days in four hundred years. -/
def cycle : Int := 146097

/-- The month counted from March. -/
def monthFromMarch (month : Nat) : Nat :=
  if 2 < month then month - 3 else month + 9

/-- The number of a date. -/
def Date.number (date : Date) : Int :=
  let year := if date.month ≤ 2 then date.year - 1 else date.year
  let inCycle := year % 400
  let ofYear : Int := (153 * monthFromMarch date.month + 2) / 5 + date.day - 1
  year / 400 * cycle + (inCycle * 365 + inCycle / 4 - inCycle / 100 + ofYear) - marchOffset

/-- The date of a day number. -/
def Date.ofNumber (number : Int) : Date :=
  let fromMarch := number + marchOffset
  let inCycle := (fromMarch % cycle).toNat
  let yearInCycle := (inCycle - inCycle / 1460 + inCycle / 36524 - inCycle / 146096) / 365
  let ofYear := inCycle - (365 * yearInCycle + yearInCycle / 4 - yearInCycle / 100)
  let marchMonth := (5 * ofYear + 2) / 153
  let day := ofYear - (153 * marchMonth + 2) / 5 + 1
  let month := if marchMonth < 10 then marchMonth + 3 else marchMonth - 9
  let year : Int := yearInCycle + fromMarch / cycle * 400
  ⟨if month ≤ 2 then year + 1 else year, month, day⟩

example : (Date.mk 1970 1 1).number = 0 := by decide
example : (Date.mk 2000 2 29).number = 11016 := by decide
example : Date.ofNumber 11016 = ⟨2000, 2, 29⟩ := by decide

end Fixity.Time
