/-
This file reads points in time from text. The form is that of RFC 3339, taken
leniently: blanks may stand between the parts, numbers may lack leading zeros, a
signed year may have any number of digits, and the offset may be written with or
without its colon. What the text says must be a date that exists, and the moment
it names must be within reach.
-/

import Fixity.Text.Ascii
import Fixity.Text.Blank
import Fixity.Time.Timestamp

namespace Fixity.Time.Reading

open Text

/-! ### Steps

A step takes what it reads from the front of the text and leaves the rest. -/

/-- The text after leading blanks and one given character. -/
def mark (c : Char) (text : List Char) : Option (List Char) :=
  match trimStart text with
  | d :: rest => if d = c then some rest else none
  | [] => none

/-- The value of decimal digits. -/
def digitsValue (digits : List Char) : Nat :=
  digits.foldl (fun value c => 10 * value + (c.toNat - 0x30)) 0

/-- The character is a decimal digit. -/
def isDigit (c : Char) : Bool :=
  (decimalDigit c).isSome

/-- A number of at least one and at most `most` digits. -/
def number (most : Nat) (text : List Char) : Option (Nat × List Char) :=
  let digits := (text.take most).takeWhile isDigit
  if digits.isEmpty then none else some (digitsValue digits, text.drop digits.length)

/-- A number of any length. -/
def longNumber (text : List Char) : Option (Nat × List Char) :=
  number text.length text

/-- A number of one or two digits after leading blanks, within bounds. -/
def field (least greatest : Nat) (text : List Char) : Option (Nat × List Char) := do
  let (value, rest) ← number 2 (trimStart text)
  if least ≤ value ∧ value ≤ greatest then some (value, rest) else none

/-- A year: with a sign any number of digits, without a sign at most four. -/
def year (text : List Char) : Option (Int × List Char) :=
  match trimStart text with
  | '-' :: rest => (longNumber rest).map fun (value, rest) => (-(value : Int), rest)
  | '+' :: rest => (longNumber rest).map fun (value, rest) => ((value : Int), rest)
  | rest => (number 4 rest).map fun (value, rest) => ((value : Int), rest)

/-- The fraction of a second in nanoseconds, if a point follows. Digits past the ninth are
skipped. -/
def fraction (text : List Char) : Option (Nat × List Char) :=
  match text with
  | '.' :: rest => do
    let (value, after) ← number 9 rest
    let used := rest.length - after.length
    some (value * Nat.pow 10 (9 - used), after.dropWhile isDigit)
  | _ => some (0, text)

/-- Two digits. -/
def twoDigits : List Char → Option (Nat × List Char)
  | a :: b :: rest => if isDigit a && isDigit b then some (digitsValue [a, b], rest) else none
  | _ => none

/-- A sign: plus, hyphen-minus or the minus sign. -/
def sign : List Char → Option (Int × List Char)
  | '+' :: rest => some (1, rest)
  | '-' :: rest => some (-1, rest)
  | '\u2212' :: rest => some (-1, rest)
  | _ => none

/-- Hours and minutes after the sign of an offset. Colons and blanks may stand between them. -/
def hoursAndMinutes (text : List Char) : Option (Nat × List Char) := do
  let (hours, rest) ← twoDigits text
  let (minutes, rest) ← twoDigits (rest.dropWhile fun c => c == ':' || isBlank c)
  if minutes < 60 then some (hours * 3600 + minutes * 60, rest) else none

/-- The offset from universal time in seconds. -/
def offset (text : List Char) : Option (Int × List Char) :=
  if lowerAscii (text.take 3) = ['u', 't', 'c'] then some (0, text.drop 3)
  else
    match text with
    | 'Z' :: rest | 'z' :: rest => some (0, rest)
    | _ => do
      let (direction, rest) ← sign text
      let (seconds, rest) ← hoursAndMinutes rest
      if seconds < 86400 then some (direction * seconds, rest) else none

/-! ### The whole text -/

/-- A date: year, month and day between hyphens. -/
def date (text : List Char) : Option (Date × List Char) := do
  let (year, rest) ← year text
  let (month, rest) ← field 1 12 (← mark '-' rest)
  let (day, rest) ← field 1 31 (← mark '-' rest)
  let date : Date := ⟨year, month, day⟩
  if date.exists then some (date, rest) else none

/-- What separates a date from a time. -/
def separator : List Char → Option (List Char)
  | 'T' :: rest | 't' :: rest | ' ' :: rest => some rest
  | _ => none

/-- A time of day: its second, where the sixtieth of a minute stands for the fifty-ninth, and its
nanoseconds, which the sixtieth raises by a whole second. -/
def timeOfDay (text : List Char) : Option ((Nat × Nat) × List Char) := do
  let (hour, rest) ← field 0 23 text
  let (minute, rest) ← field 0 59 (← mark ':' rest)
  let (second, rest) ← field 0 60 (← mark ':' rest)
  let (nanos, rest) ← fraction rest
  let start := hour * 3600 + minute * 60
  if second = 60 then some ((start + 59, nanos + nanosPerSecond), rest)
  else some ((start + second, nanos), rest)

/-- The point in time with the given parts, if its day is within reach. -/
def assemble (day : Int) (second nano : Nat) : Option Timestamp :=
  if valid : (firstDay ≤ day ∧ day ≤ lastDay) ∧ second < 86400 ∧ nano < 2 * nanosPerSecond ∧
      (nanosPerSecond ≤ nano → second % 60 = 59) then
    some {
      day, second, nano
      firstDay_le := valid.1.1
      le_lastDay := valid.1.2
      second_lt := valid.2.1
      nano_lt := valid.2.2.1
      leap := valid.2.2.2 }
  else none

/-- The moment that a local date, second of the day and offset name. The local date itself must
be within reach, too. -/
def moment (date : Date) (second nano : Nat) (offset : Int) : Option Timestamp :=
  let day := date.number
  if firstDay ≤ day ∧ day ≤ lastDay then
    let seconds := day * 86400 + second - offset
    assemble (seconds / 86400) (seconds % 86400).toNat nano
  else none

/-- Reads a point in time from the whole text. -/
def timestamp? (text : List Char) : Option Timestamp := do
  let (date, rest) ← date text
  let ((second, nano), rest) ← timeOfDay (← separator rest)
  let (offset, rest) ← offset (trimStart rest)
  if (trimStart rest).isEmpty then moment date second nano offset else none

end Fixity.Time.Reading

namespace Fixity.Time

/-- Reads a point in time from a string. -/
def Timestamp.ofString? (text : String) : Option Timestamp :=
  Reading.timestamp? text.toList

end Fixity.Time
