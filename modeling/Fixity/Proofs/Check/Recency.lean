/-
This file says when a file counts as checked recently. The cutoff lies a span of
days before the present. It exists if the span can be measured in milliseconds and
if the calendar reaches the cutoff, and a check is recent if it came later than the
cutoff. Counted in words of 64 bits, no difference and no sum on the way to this
verdict leaves its word.
-/

import Fixity.Check.Pass
import Fixity.Proofs.Time.Moving

namespace Fixity.Check

/-! ### The cutoff -/

/-- A span of seconds can be measured: its milliseconds are a number of 63 bits and a sign. -/
def Representable (span : Int) : Prop :=
  (span * 1000).natAbs < 0x8000000000000000

instance (span : Int) : Decidable (Representable span) :=
  inferInstanceAs (Decidable (_ < _))

theorem representable_iff {span : Int} :
    Representable span ↔ -longestSpan ≤ span ∧ span ≤ longestSpan := by
  rw [Representable, longestSpan]
  omega

/-- The span of some days, in seconds. -/
def spanOf (days : Int64) : Int :=
  days.toInt * secondsPerDay

theorem cutoff?_of_representable {days : Int64} (measured : Representable (spanOf days))
    (now : Time.Timestamp) : cutoff? days now = now.back? (spanOf days) :=
  if_pos (representable_iff.mp measured)

theorem cutoff?_of_not_representable {days : Int64} (endless : ¬ Representable (spanOf days))
    (now : Time.Timestamp) : cutoff? days now = none :=
  if_neg (mt representable_iff.mpr endless)

/-- The cutoff has the seconds of the present less those of the span, and the nanosecond of the
present. -/
theorem cutoff?_eq_some_iff {days : Int64} {now cutoff : Time.Timestamp}
    (noLeap : now.isLeap = false) :
    cutoff? days now = some cutoff ↔
      Representable (spanOf days) ∧ cutoff.seconds = now.seconds - spanOf days ∧
        cutoff.nano = now.nano := by
  by_cases measured : Representable (spanOf days)
  · rw [cutoff?_of_representable measured, Time.Timestamp.back?_eq_some_iff noLeap,
      and_iff_right measured]
  · rw [cutoff?_of_not_representable measured]
    exact iff_of_false (Option.some_ne_none cutoff).symm fun found => measured found.1

theorem exists_cutoff?_iff {days : Int64} {now : Time.Timestamp} (noLeap : now.isLeap = false) :
    (∃ cutoff, cutoff? days now = some cutoff) ↔
      Representable (spanOf days) ∧ Time.InReach (now.seconds - spanOf days) := by
  by_cases measured : Representable (spanOf days)
  · rw [cutoff?_of_representable measured, Time.Timestamp.exists_back?_iff noLeap,
      and_iff_right measured]
  · rw [cutoff?_of_not_representable measured]
    exact iff_of_false (fun ⟨cutoff, found⟩ => Option.some_ne_none cutoff found.symm)
      fun found => measured found.1

/-! ### Words of 64 bits -/

/-- The word of 64 bits for a number, if there is one. -/
def word? (number : Int) : Option Int64 :=
  if Int64.minValue.toInt ≤ number ∧ number ≤ Int64.maxValue.toInt then some (Int64.ofInt number)
  else none

theorem exists_word? {number : Int} (least : -0x8000000000000000 ≤ number)
    (greatest : number < 0x8000000000000000) :
    ∃ word, word? number = some word ∧ word.toInt = number := by
  refine ⟨Int64.ofInt number, if_pos ⟨?_, ?_⟩, Int64.toInt_ofInt_of_le least greatest⟩
  · exact least
  · exact Int.le_of_lt_add_one greatest

theorem toInt_of_word? {number : Int} {word : Int64} (found : word? number = some word) :
    word.toInt = number := by
  rw [word?] at found
  split at found
  · rename_i within
    obtain ⟨⟩ := found
    exact Int64.toInt_ofInt_of_le within.1 (Int.lt_add_one_of_le within.2)
  · cases found

/-- The day and the second of the day that lie a span before a moment, counted in words. There is no
result where a difference or a sum leaves its word; there is none in the result where the calendar
does not reach the day. -/
def backInWords (now : Time.Timestamp) (span : Int64) : Option (Option (Int64 × Int64)) := do
  let far ← word? (now.second - span.toInt)
  let second ← word? (far.toInt % secondsPerDay)
  let day ← word? (now.day + (far.toInt - second.toInt) / secondsPerDay)
  return if Time.firstDay ≤ day.toInt ∧ day.toInt ≤ Time.lastDay then some (day, second) else none

/-- A moment comes before another: their days are compared, then their seconds of the day, then
their nanoseconds. -/
def precedes (day second : Int64) (nano : Nat) (last : Time.Timestamp) : Bool :=
  day.toInt < last.day || day.toInt == last.day &&
    (second.toInt < last.second || second.toInt == last.second && nano < last.nano)

/-- The day of the cutoff and its second of the day, counted in words. A product that leaves its
word is known to do so, and there is no cutoff then. -/
def cutoffInWords (days : Int64) (now : Time.Timestamp) : Option (Option (Int64 × Int64)) :=
  match word? (spanOf days) with
  | none => some none
  | some span =>
    if -longestSpan ≤ span.toInt ∧ span.toInt ≤ longestSpan then backInWords now span
    else some none

/-- The verdict on a file, counted in words. -/
def recentInWords (settings : Settings) (file : Catalog.File) (now : Time.Timestamp) :
    Option Bool :=
  if settings.isEndToEndTest then some false
  else
    (cutoffInWords settings.maxDays now).map fun cutoff? =>
      match cutoff?, file.lastFixityCheck with
      | some (day, second), some last => precedes day second now.nano last
      | _, _ => false

/-- Two words are the day of a moment and its second of the day. -/
structure Counts (day second : Int64) (seconds : Int) : Prop where
  least : 0 ≤ second.toInt
  greatest : second.toInt < 86400
  sum : day.toInt * 86400 + second.toInt = seconds

/-- Within the spans that can be measured, no difference and no sum leaves its word. -/
theorem exists_backInWords (now : Time.Timestamp) {span : Int64}
    (measured : Representable span.toInt) :
    ∃ day second, Counts day second (now.seconds - span.toInt) ∧
      backInWords now span =
        some (if Time.InReach (now.seconds - span.toInt) then some (day, second) else none) := by
  have bounds := representable_iff.mp measured
  have first := now.firstDay_le
  have last := now.le_lastDay
  have early := now.second_lt
  simp only [longestSpan, Time.firstDay, Time.lastDay] at bounds first last
  obtain ⟨far, farWord, farValue⟩ :=
    @exists_word? (now.second - span.toInt) (by omega) (by omega)
  obtain ⟨second, secondWord, secondValue⟩ :=
    @exists_word? (far.toInt % secondsPerDay) (by rw [secondsPerDay]; omega)
      (by rw [secondsPerDay]; omega)
  rw [secondsPerDay] at secondValue
  obtain ⟨day, dayWord, dayValue⟩ :=
    @exists_word? (now.day + (far.toInt - second.toInt) / secondsPerDay)
      (by rw [secondsPerDay]; omega) (by rw [secondsPerDay]; omega)
  rw [secondsPerDay] at dayValue
  have sum : day.toInt * 86400 + second.toInt = now.seconds - span.toInt := by
    rw [Time.Timestamp.seconds]
    omega
  have carried : (now.seconds - span.toInt) / 86400 = day.toInt := by omega
  refine ⟨day, second, ⟨by omega, by omega, sum⟩, ?_⟩
  simp only [Time.inReach_iff, carried]
  rw [backInWords, farWord]
  show (word? (far.toInt % secondsPerDay)).bind _ = _
  rw [secondWord]
  show (word? (now.day + (far.toInt - second.toInt) / secondsPerDay)).bind _ = _
  rw [dayWord]
  rfl

/-- Counted in words there is a cutoff if and only if there is one, and it is the same. -/
theorem cutoffInWords_spec (days : Int64) {now : Time.Timestamp} (noLeap : now.isLeap = false) :
    cutoff? days now = none ∧ cutoffInWords days now = some none ∨
      ∃ cutoff day second, cutoff? days now = some cutoff ∧ now.nano = cutoff.nano ∧
        Counts day second cutoff.seconds ∧ cutoffInWords days now = some (some (day, second)) := by
  rw [cutoffInWords]
  by_cases measured : Representable (spanOf days)
  · have bounds := representable_iff.mp measured
    rw [longestSpan] at bounds
    obtain ⟨span, word, value⟩ := @exists_word? (spanOf days) (by omega) (by omega)
    rw [← value] at measured
    obtain ⟨day, second, counts, inWords⟩ := exists_backInWords now measured
    rw [word]
    dsimp only
    rw [if_pos (representable_iff.mp measured), inWords]
    rw [value] at measured counts ⊢
    by_cases reach : Time.InReach (now.seconds - spanOf days)
    · obtain ⟨cutoff, found⟩ := (exists_cutoff?_iff noLeap).mpr ⟨measured, reach⟩
      obtain ⟨-, seconds, nano⟩ := (cutoff?_eq_some_iff noLeap).mp found
      exact .inr ⟨cutoff, day, second, found, nano.symm, seconds ▸ counts,
        congrArg some (if_pos reach)⟩
    · refine .inl ⟨Option.eq_none_iff_forall_ne_some.mpr fun cutoff found => ?_,
        congrArg some (if_neg reach)⟩
      exact reach ((exists_cutoff?_iff noLeap).mp ⟨cutoff, found⟩).2
  · refine .inl ⟨cutoff?_of_not_representable measured now, ?_⟩
    -- What cannot be measured may fit into a word all the same.
    cases word : word? (spanOf days) with
    | none => rfl
    | some span =>
      refine if_neg ?_
      rwa [toInt_of_word? word, ← representable_iff]

theorem Counts.precedes_eq {day second : Int64} {cutoff : Time.Timestamp}
    (counts : Counts day second cutoff.seconds) (last : Time.Timestamp) :
    precedes day second cutoff.nano last = decide (cutoff < last) := by
  obtain ⟨least, greatest, sum⟩ := counts
  have early := last.second_lt
  rw [Bool.eq_iff_iff, decide_eq_true_iff, Time.Timestamp.lt_iff, ← sum, Time.Timestamp.seconds,
    precedes]
  simp only [Bool.or_eq_true, Bool.and_eq_true, decide_eq_true_eq, beq_iff_eq]
  omega

theorem recentInWords_eq (settings : Settings) (file : Catalog.File) {now : Time.Timestamp}
    (noLeap : now.isLeap = false) :
    recentInWords settings file now = some (recentlyChecked settings file now) := by
  rw [recentInWords, recentlyChecked]
  cases settings.isEndToEndTest with
  | true => rfl
  | false =>
    rw [if_neg Bool.false_ne_true, Bool.not_false, Bool.true_and]
    obtain ⟨none, inWords⟩ | ⟨cutoff, day, second, found, nano, counts, inWords⟩ :=
      cutoffInWords_spec settings.maxDays noLeap
    · rw [none, inWords]
      rfl
    · rw [found, inWords, nano]
      cases file.lastFixityCheck with
      | none => rfl
      | some last => exact congrArg some (counts.precedes_eq last)

/-! ### The verdict -/

/-- **When a file counts as checked recently.** Outside of leap seconds, a file was checked recently
if and only if this is no test run from end to end, the file was checked at all, the span of days
can be measured, the calendar reaches the present less the span, and the check came later than that,
by a nanosecond at least. The verdict that is counted in words of 64 bits is the same, for every
number of days. -/
theorem recentlyChecked_iff (settings : Settings) (file : Catalog.File) {now : Time.Timestamp}
    (noLeap : now.isLeap = false) :
    recentInWords settings file now = some (recentlyChecked settings file now) ∧
    (recentlyChecked settings file now = true ↔
      settings.isEndToEndTest = false ∧ ∃ last, file.lastFixityCheck = some last ∧
        Representable (spanOf settings.maxDays) ∧
        Time.InReach (now.seconds - spanOf settings.maxDays) ∧
        (now.seconds - spanOf settings.maxDays < last.seconds ∨
          now.seconds - spanOf settings.maxDays = last.seconds ∧ now.nano < last.nano)) := by
  refine ⟨recentInWords_eq settings file noLeap, ?_⟩
  rw [recentlyChecked, Bool.and_eq_true, Bool.not_eq_true']
  refine and_congr_right fun _ => ?_
  constructor
  · intro recent
    split at recent
    · rename_i cutoff last found checked
      obtain ⟨measured, reach⟩ := (exists_cutoff?_iff noLeap).mp ⟨cutoff, found⟩
      obtain ⟨-, seconds, nano⟩ := (cutoff?_eq_some_iff noLeap).mp found
      rw [decide_eq_true_iff, Time.Timestamp.lt_iff, seconds, nano] at recent
      exact ⟨last, checked, measured, reach, recent⟩
    · cases recent
  · rintro ⟨last, checked, measured, reach, recent⟩
    obtain ⟨cutoff, found⟩ := (exists_cutoff?_iff noLeap).mpr ⟨measured, reach⟩
    obtain ⟨-, seconds, nano⟩ := (cutoff?_eq_some_iff noLeap).mp found
    rw [found, checked]
    dsimp only
    rwa [decide_eq_true_iff, Time.Timestamp.lt_iff, seconds, nano]

/-- A file that was checked at a moment. -/
def checkedFile (last : Time.Timestamp) : Catalog.File where
  id := 1
  identifier := "example.edu/bag/data/file"
  uuid := "file"
  size := 1
  storageOption := "Standard"
  lastFixityCheck := some last
  institutionId := 1
  intellectualObjectId := 1
  createdAt := .epoch
  updatedAt := .epoch

/-- A moment at noon. -/
def noon : Time.Timestamp :=
  { day := 19800, second := 43200, nano := 5 }

/-- Ninety days are over with the last nanosecond of them; a span of the least number of days cannot
be measured. -/
theorem recentlyChecked_iff_noon :
    noon.isLeap = false ∧
      recentlyChecked {} (checkedFile { day := 19710, second := 43200, nano := 6 }) noon = true ∧
      recentlyChecked {} (checkedFile { day := 19710, second := 43200, nano := 5 }) noon = false ∧
      recentInWords { maxDays := Int64.minValue } (checkedFile noon) noon = some false := by
  have noLeap : noon.isLeap = false := by decide
  refine ⟨noLeap, ?_, ?_, ?_⟩
  · refine (recentlyChecked_iff _ _ noLeap).2.mpr ⟨rfl, _, rfl, ?_, ?_, .inr ?_⟩
    all_goals decide +kernel
  · refine Bool.eq_false_iff.mpr fun recent => ?_
    obtain ⟨-, last, ⟨⟩, -, -, late⟩ := (recentlyChecked_iff _ _ noLeap).2.mp recent
    exact absurd late (by decide +kernel)
  · rw [(recentlyChecked_iff _ _ noLeap).1]
    refine congrArg some (Bool.eq_false_iff.mpr fun recent => ?_)
    obtain ⟨-, last, -, measured, -⟩ := (recentlyChecked_iff _ _ noLeap).2.mp recent
    exact absurd measured (by decide +kernel)

end Fixity.Check
