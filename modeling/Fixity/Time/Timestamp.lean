/-
This file defines points in time in universal time, to the nanosecond. A leap
second is kept as such: it is the second after the fifty-ninth of its minute and
carries nanoseconds from one thousand million on. The dates reach from the first
day of the year -262143 to the last day of the year 262142.
-/

import Fixity.Text.Integer
import Fixity.Time.Calendar

namespace Fixity.Time

/-! ### Points in time -/

/-- The number of the first day. -/
def firstDay : Int := -96465292

/-- The number of the last day. -/
def lastDay : Int := 95026236

example : firstDay = (Date.mk (-262143) 1 1).number := by decide
example : lastDay = (Date.mk 262142 12 31).number := by decide

/-- Nanoseconds in a second. -/
def nanosPerSecond : Nat := 1000000000

/-- A point in time: the number of the day, the second of the day, and the nanosecond. -/
structure Timestamp where
  day : Int
  second : Nat
  nano : Nat
  firstDay_le : firstDay ≤ day := by decide
  le_lastDay : day ≤ lastDay := by decide
  second_lt : second < 86400 := by decide
  nano_lt : nano < 2 * nanosPerSecond := by decide
  leap : nanosPerSecond ≤ nano → second % 60 = 59 := by decide
deriving DecidableEq

namespace Timestamp

/-- The first second of 1970. -/
def epoch : Timestamp := { day := 0, second := 0, nano := 0 }

instance : Inhabited Timestamp := ⟨epoch⟩

/-- The point in time lies in a leap second. -/
def isLeap (t : Timestamp) : Bool :=
  nanosPerSecond ≤ t.nano

/-! ### Order -/

/-- The position on a line of half-nanosecond marks, on which a leap second follows the second
before it. -/
def position (t : Timestamp) : Int :=
  (t.day * 86400 + t.second) * 2000000000 + t.nano

instance : LT Timestamp := ⟨fun a b => a.position < b.position⟩
instance : LE Timestamp := ⟨fun a b => a.position ≤ b.position⟩
instance (a b : Timestamp) : Decidable (a < b) := inferInstanceAs (Decidable (a.position < b.position))
instance (a b : Timestamp) : Decidable (a ≤ b) := inferInstanceAs (Decidable (a.position ≤ b.position))

/-- Two points in time at one position are the same. -/
theorem eq_of_position_eq {a b : Timestamp} (same : a.position = b.position) : a = b := by
  have secondA := a.second_lt
  have secondB := b.second_lt
  have nanoA := a.nano_lt
  have nanoB := b.nano_lt
  simp only [position, nanosPerSecond] at *
  have second : a.day = b.day ∧ a.second = b.second ∧ a.nano = b.nano := by omega
  obtain ⟨day, second, nano⟩ := second
  cases a
  cases b
  simp_all

/-! ### Building -/

/-- The point in time at a second counted from the epoch, unless its day is out of reach. -/
def ofSeconds? (seconds : Int) (nano : Nat) (small : nano < nanosPerSecond) : Option Timestamp :=
  if reach : firstDay ≤ seconds / 86400 ∧ seconds / 86400 ≤ lastDay then
    some {
      day := seconds / 86400
      second := (seconds % 86400).toNat
      nano
      firstDay_le := reach.1
      le_lastDay := reach.2
      second_lt := by omega
      nano_lt := by omega
      leap := by omega }
  else none

/-- Seconds since the epoch, leap seconds not counted. -/
def seconds (t : Timestamp) : Int :=
  t.day * 86400 + t.second

/-- Moves a point in time back by whole seconds. Time that is moved out of a leap second leaves
it by the end that lies in the direction of the move. -/
def back? (t : Timestamp) (seconds : Int) : Option Timestamp :=
  if leap : nanosPerSecond ≤ t.nano then
    if seconds = 0 then some t
    else
      ofSeconds? ((if 0 < seconds then t.seconds + 1 else t.seconds) - seconds)
        (t.nano - nanosPerSecond) (by have := t.nano_lt; omega)
  else ofSeconds? (t.seconds - seconds) t.nano (by omega)

/-! ### Writing -/

/-- A year in at least four digits; outside of the years 0 to 9999 it carries its sign. -/
def writeYear (year : Int) : List Char :=
  if 0 ≤ year ∧ year ≤ 9999 then Text.writePadded 4 year.toNat
  else (if year < 0 then '-' else '+') :: Text.writePadded 4 year.natAbs

/-- The fraction of a second in the fewest digits among none, three, six and nine. -/
def writeFraction (nanos : Nat) : List Char :=
  if nanos = 0 then []
  else if nanos % 1000000 = 0 then '.' :: Text.writePadded 3 (nanos / 1000000)
  else if nanos % 1000 = 0 then '.' :: Text.writePadded 6 (nanos / 1000)
  else '.' :: Text.writePadded 9 nanos

/-- Date and time to the second, a leap second being the sixtieth. -/
def writeSeconds (t : Timestamp) : List Char :=
  let date := Date.ofNumber t.day
  writeYear date.year ++ '-' :: Text.writePadded 2 date.month ++
    '-' :: Text.writePadded 2 date.day ++ 'T' :: Text.writePadded 2 (t.second / 3600) ++
    ':' :: Text.writePadded 2 (t.second / 60 % 60) ++
    ':' :: Text.writePadded 2 (t.second % 60 + t.nano / nanosPerSecond)

/-- The text of a point in time, with its fraction. -/
def text (t : Timestamp) : String :=
  String.ofList (t.writeSeconds ++ writeFraction (t.nano % nanosPerSecond) ++ ['Z'])

/-- The text of a point in time without its fraction, which is cut off. -/
def textToSeconds (t : Timestamp) : String :=
  String.ofList (t.writeSeconds ++ ['Z'])

end Timestamp

end Fixity.Time
