/-
This file proves that points in time are read back from their texts. Every part of a
text is a number in front of a mark, and the reader of the part takes the number and
leaves the mark: the year with its sign, the sixtieth second of a minute with a leap
second, and the fraction in as many digits as it has.
-/

import Fixity.Proofs.Text.Blanks
import Fixity.Proofs.Text.Decimal
import Fixity.Proofs.Time.Calendar
import Fixity.Time.Reading

namespace Fixity.Time.Reading

open Text

/-! ### Numbers -/

/-- The text does not go on with a digit. -/
def Stops (rest : List Char) : Prop :=
  ∀ c tail, rest = c :: tail → c.isDigit = false

theorem stops_cons {c : Char} (mark : c.isDigit = false) (tail : List Char) : Stops (c :: tail) := by
  rintro _ _ ⟨⟩
  exact mark

theorem isDigit_eq (c : Char) : isDigit c = c.isDigit :=
  isSome_decimalDigit c

theorem Stops.takeWhile_eq {rest : List Char} (stops : Stops rest) (n : Nat) :
    (rest.take n).takeWhile isDigit = [] := by
  cases n with
  | zero => rfl
  | succ n =>
    cases rest with
    | nil => rfl
    | cons c tail =>
      rw [List.take_succ_cons, List.takeWhile_cons, isDigit_eq, stops c tail rfl]
      rfl

theorem Stops.dropWhile_eq {rest : List Char} (stops : Stops rest) :
    rest.dropWhile isDigit = rest := by
  cases rest with
  | nil => rfl
  | cons c tail =>
    rw [List.dropWhile_cons, isDigit_eq, stops c tail rfl]
    rfl

/-- The digits in front of what is no digit are the number that is read. -/
theorem number_append {digits rest : List Char} {most : Nat} (present : digits ≠ [])
    (each : ∀ c ∈ digits, c.isDigit = true) (short : digits.length ≤ most) (stops : Stops rest) :
    number most (digits ++ rest) = some (Nat.ofDigitChars 10 digits 0, rest) := by
  have found : ((digits ++ rest).take most).takeWhile isDigit = digits := by
    rw [List.take_append, List.take_of_length_le short, List.takeWhile_append_of_pos,
      stops.takeWhile_eq, List.append_nil]
    intro c member
    rw [isDigit_eq, each c member]
  have empty : digits.isEmpty = false := by simpa using present
  rw [number, found, empty, List.drop_left]
  rfl

theorem number_writePadded {width most n : Nat} {rest : List Char}
    (short : (writePadded width n).length ≤ most) (stops : Stops rest) :
    number most (writePadded width n ++ rest) = some (n, rest) := by
  obtain ⟨c, digits, cons, -⟩ := exists_cons_writePadded width n
  have present : writePadded width n ≠ [] := by
    rw [cons]
    exact List.cons_ne_nil c digits
  rw [number_append present (fun c => isDigit_of_mem_writePadded) short stops,
    ofDigitChars_writePadded]

theorem trimStart_writePadded (width n : Nat) (rest : List Char) :
    trimStart (writePadded width n ++ rest) = writePadded width n ++ rest := by
  obtain ⟨c, digits, cons, digit⟩ := exists_cons_writePadded width n
  rw [cons, List.cons_append, trimStart_cons (isBlank_of_isDigit digit)]

/-- A field of two digits is read. -/
theorem field_writePadded {least greatest n : Nat} {rest : List Char} (small : n < 100)
    (within : least ≤ n ∧ n ≤ greatest) (stops : Stops rest) :
    field least greatest (writePadded 2 n ++ rest) = some (n, rest) := by
  have short : (writePadded 2 n).length ≤ 2 :=
    Nat.le_of_eq (length_writePadded (by decide) small)
  rw [field, trimStart_writePadded, number_writePadded short stops]
  exact if_pos within

/-! ### Years -/

theorem longNumber_writePadded {width n : Nat} {rest : List Char} (stops : Stops rest) :
    longNumber (writePadded width n ++ rest) = some (n, rest) := by
  refine number_writePadded ?_ stops
  rw [List.length_append]
  exact Nat.le_add_right _ _

/-- A year is read, with the sign that it may carry. -/
theorem year_writeYear (y : Int) {rest : List Char} (stops : Stops rest) :
    year (Timestamp.writeYear y ++ rest) = some (y, rest) := by
  unfold Timestamp.writeYear
  by_cases plain : 0 ≤ y ∧ y ≤ 9999
  · have small : y.toNat < 10000 := by omega
    have short : (writePadded 4 y.toNat).length ≤ 4 :=
      Nat.le_of_eq (length_writePadded (by decide) small)
    have read : number 4 (writePadded 4 y.toNat ++ rest) = some (y.toNat, rest) :=
      number_writePadded short stops
    rw [if_pos plain, year, trimStart_writePadded]
    obtain ⟨c, digits, cons, digit⟩ := exists_cons_writePadded 4 y.toNat
    rw [cons] at read ⊢
    split
    · next same =>
      cases same
      cases digit
    · next same =>
      cases same
      cases digit
    · rw [read]
      exact congrArg (fun value => some (value, rest)) (Int.toNat_of_nonneg plain.1)
  · rw [if_neg plain]
    by_cases negative : y < 0
    · rw [if_pos negative]
      show (longNumber (writePadded 4 y.natAbs ++ rest)).map _ = _
      have value : -(y.natAbs : Int) = y := by omega
      rw [longNumber_writePadded stops]
      exact congrArg (fun value => some (value, rest)) value
    · rw [if_neg negative]
      show (longNumber (writePadded 4 y.natAbs ++ rest)).map _ = _
      have value : (y.natAbs : Int) = y := by omega
      rw [longNumber_writePadded stops]
      exact congrArg (fun value => some (value, rest)) value

/-! ### Fractions -/

/-- A fraction of as many digits as it has up to nine is read. -/
theorem fraction_writePadded {width n : Nat} {rest : List Char} (positive : 0 < width)
    (most : width ≤ 9) (small : n < Nat.pow 10 width) (stops : Stops rest) :
    fraction ('.' :: writePadded width n ++ rest) =
      some (n * Nat.pow 10 (9 - width), rest) := by
  have length : (writePadded width n).length = width := length_writePadded positive small
  have read : number 9 (writePadded width n ++ rest) = some (n, rest) :=
    number_writePadded (by omega) stops
  have used : (writePadded width n ++ rest).length - rest.length = width := by
    rw [List.length_append, length]
    omega
  have after : rest.dropWhile isDigit = rest := stops.dropWhile_eq
  rw [List.cons_append, fraction, read]
  simp only [Option.bind_eq_bind, Option.bind_some, used, after]

theorem fraction_writeFraction {nanos : Nat} (small : nanos < 1000000000) (rest : List Char) :
    fraction (Timestamp.writeFraction nanos ++ 'Z' :: rest) = some (nanos, 'Z' :: rest) := by
  have stops : Stops ('Z' :: rest) := stops_cons rfl rest
  unfold Timestamp.writeFraction
  by_cases none : nanos = 0
  · rw [if_pos none, none]
    rfl
  · rw [if_neg none]
    by_cases thousandths : nanos % 1000000 = 0
    · have fewer : nanos / 1000000 < 1000 := by omega
      have whole : nanos / 1000000 * 1000000 = nanos := by omega
      rw [if_pos thousandths, fraction_writePadded (by decide) (by decide) fewer stops]
      exact congrArg (fun value => some (value, 'Z' :: rest)) whole
    · rw [if_neg thousandths]
      by_cases millionths : nanos % 1000 = 0
      · have fewer : nanos / 1000 < 1000000 := by omega
        have whole : nanos / 1000 * 1000 = nanos := by omega
        rw [if_pos millionths, fraction_writePadded (by decide) (by decide) fewer stops]
        exact congrArg (fun value => some (value, 'Z' :: rest)) whole
      · rw [if_neg millionths, fraction_writePadded (by decide) (by decide) small stops]
        exact congrArg (fun value => some (value, 'Z' :: rest)) (Nat.mul_one nanos)

/-! ### Dates and times -/

theorem mark_cons {c : Char} (visible : isBlank c = false) (rest : List Char) :
    mark c (c :: rest) = some rest := by
  rw [mark, trimStart_cons visible]
  exact if_pos rfl

/-- A date that exists is read. -/
theorem date_append {d : Date} (real : d.exists = true) {rest : List Char} (stops : Stops rest) :
    date (Timestamp.writeYear d.year ++ '-' :: (writePadded 2 d.month ++
      '-' :: (writePadded 2 d.day ++ rest))) = some (d, rest) := by
  have bounds : ((1 ≤ d.month ∧ d.month ≤ 12) ∧ 1 ≤ d.day) ∧
      d.day ≤ daysInMonth d.year d.month := by
    simpa only [Date.exists, Bool.and_eq_true, decide_eq_true_eq] using real
  have longest : daysInMonth d.year d.month ≤ 31 := by
    unfold daysInMonth
    split <;> (try split) <;> decide
  have hyphen (tail : List Char) : Stops ('-' :: tail) := stops_cons rfl tail
  have visible : isBlank '-' = false := rfl
  unfold date
  rw [year_writeYear d.year (hyphen _)]
  simp only [Option.bind_eq_bind, Option.bind_some, mark_cons visible]
  rw [field_writePadded (by omega) bounds.1.1 (hyphen _)]
  simp only [Option.bind_some, mark_cons visible]
  rw [field_writePadded (by omega) ⟨bounds.1.2, by omega⟩ stops]
  exact if_pos real

/-- A time of day is read; the sixtieth second of a minute is a leap second. -/
theorem timeOfDay_append (hour minute second nanos : Nat) (hours : hour < 24) (minutes : minute < 60)
    (seconds : second < 60) (small : nanos < 2000000000)
    (leap : 1000000000 ≤ nanos → second = 59) (rest : List Char) :
    timeOfDay (writePadded 2 hour ++ ':' :: (writePadded 2 minute ++
      ':' :: (writePadded 2 (second + nanos / 1000000000) ++
        (Timestamp.writeFraction (nanos % 1000000000) ++ 'Z' :: rest)))) =
      some ((hour * 3600 + minute * 60 + second, nanos), 'Z' :: rest) := by
  have colon (tail : List Char) : Stops (':' :: tail) := stops_cons rfl tail
  have visible : isBlank ':' = false := rfl
  have stops : Stops (Timestamp.writeFraction (nanos % 1000000000) ++ 'Z' :: rest) := by
    unfold Timestamp.writeFraction
    split <;> (try split) <;> (try split) <;> exact stops_cons rfl _
  unfold timeOfDay
  rw [field_writePadded (by omega) ⟨Nat.zero_le _, by omega⟩ (colon _)]
  simp only [Option.bind_eq_bind, Option.bind_some, mark_cons visible]
  rw [field_writePadded (by omega) ⟨Nat.zero_le _, by omega⟩ (colon _)]
  simp only [Option.bind_some, mark_cons visible]
  rw [field_writePadded (by omega) ⟨Nat.zero_le _, by omega⟩ stops]
  simp only [Option.bind_some]
  rw [fraction_writeFraction (Nat.mod_lt _ (by decide))]
  simp only [Option.bind_some]
  by_cases late : nanosPerSecond ≤ nanos
  · unfold nanosPerSecond at late
    have sixtieth : second + nanos / 1000000000 = 60 := by omega
    have whole : nanos % 1000000000 + nanosPerSecond = nanos := by
      unfold nanosPerSecond
      omega
    rw [if_pos sixtieth, whole, leap late]
  · unfold nanosPerSecond at late
    have none : nanos / 1000000000 = 0 := by omega
    rw [if_neg (by omega), none, Nat.add_zero, Nat.mod_eq_of_lt (by omega)]

/-! ### Points in time -/

/-- The day, the second and the nanosecond of a point in time make it. -/
theorem moment_ofNumber (t : Timestamp) :
    moment (Date.ofNumber t.day) t.second t.nano 0 = some t := by
  have second := t.second_lt
  have day : (t.day * 86400 + t.second - 0) / 86400 = t.day := by omega
  have inDay : ((t.day * 86400 + t.second - 0) % 86400).toNat = t.second := by omega
  rw [moment, number_ofNumber]
  dsimp only
  rw [if_pos ⟨t.firstDay_le, t.le_lastDay⟩, day, inDay, assemble,
    dif_pos ⟨⟨t.firstDay_le, t.le_lastDay⟩, second, t.nano_lt, t.leap⟩]

/-- **Points in time are read back.** Every one within reach, leap seconds included, is what its text
says. -/
theorem ofString?_text (t : Timestamp) : Timestamp.ofString? t.text = some t := by
  have second := t.second_lt
  have clock : t.second / 3600 * 3600 + t.second / 60 % 60 * 60 + t.second % 60 = t.second := by
    omega
  have read := timeOfDay_append (t.second / 3600) (t.second / 60 % 60) (t.second % 60) t.nano
    (by omega) (by omega) (by omega) t.nano_lt t.leap []
  rw [clock] at read
  unfold Timestamp.ofString? timestamp? Timestamp.text Timestamp.writeSeconds nanosPerSecond
  simp only [String.toList_ofList, List.append_assoc, List.cons_append]
  rw [date_append (exists_ofNumber t.day) (stops_cons rfl _)]
  simp only [Option.bind_eq_bind, Option.bind_some, separator]
  rw [read]
  exact moment_ofNumber t

end Fixity.Time.Reading
