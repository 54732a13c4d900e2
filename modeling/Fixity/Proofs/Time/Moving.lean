/-
This file says which point in time lies some seconds before another. Outside of leap
seconds, to move by whole seconds is to subtract them from the seconds since the
epoch and to leave the nanosecond alone; it succeeds as long as the day is one that
the calendar reaches.
-/

import Fixity.Time.Timestamp

namespace Fixity.Time

/-- A second since the epoch lies on one of the days from the first of January of the year -262143
to the last of December of the year 262142. -/
def InReach (seconds : Int) : Prop :=
  (Date.mk (-262143) 1 1).number * 86400 ≤ seconds ∧
    seconds < ((Date.mk 262142 12 31).number + 1) * 86400

instance (seconds : Int) : Decidable (InReach seconds) :=
  inferInstanceAs (Decidable (_ ∧ _))

theorem inReach_iff {seconds : Int} :
    InReach seconds ↔ firstDay ≤ seconds / 86400 ∧ seconds / 86400 ≤ lastDay := by
  have first : (Date.mk (-262143) 1 1).number = -96465292 := by decide
  have last : (Date.mk 262142 12 31).number = 95026236 := by decide
  rw [InReach, first, last, firstDay, lastDay]
  omega

namespace Timestamp

theorem inReach_seconds (t : Timestamp) : InReach t.seconds := by
  have first := t.firstDay_le
  have last := t.le_lastDay
  have second := t.second_lt
  rw [inReach_iff, seconds]
  omega

/-- Points in time are ordered by their seconds, and within a second by their nanoseconds. -/
theorem lt_iff {a b : Timestamp} :
    a < b ↔ a.seconds < b.seconds ∨ a.seconds = b.seconds ∧ a.nano < b.nano := by
  have nanoA := a.nano_lt
  have nanoB := b.nano_lt
  rw [nanosPerSecond] at nanoA nanoB
  show (a.day * 86400 + a.second) * 2000000000 + a.nano <
    (b.day * 86400 + b.second) * 2000000000 + b.nano ↔ _
  rw [seconds, seconds]
  omega

theorem eq_of_seconds_eq {a b : Timestamp} (seconds : a.seconds = b.seconds)
    (nano : a.nano = b.nano) : a = b := by
  refine eq_of_position_eq ?_
  show a.seconds * 2000000000 + a.nano = b.seconds * 2000000000 + b.nano
  rw [seconds, nano]

theorem ofSeconds?_eq_some_iff {seconds : Int} {nano : Nat} {small : nano < nanosPerSecond}
    {t : Timestamp} :
    ofSeconds? seconds nano small = some t ↔ t.seconds = seconds ∧ t.nano = nano := by
  constructor
  · intro built
    rw [ofSeconds?] at built
    split at built
    · obtain ⟨⟩ := built
      refine ⟨?_, rfl⟩
      show seconds / 86400 * 86400 + ((seconds % 86400).toNat : Int) = seconds
      omega
    · cases built
  · rintro ⟨rfl, rfl⟩
    rw [ofSeconds?, dif_pos (inReach_iff.mp t.inReach_seconds), Option.some.injEq]
    refine eq_of_seconds_eq ?_ rfl
    show t.seconds / 86400 * 86400 + ((t.seconds % 86400).toNat : Int) = t.seconds
    omega

theorem exists_ofSeconds?_iff {seconds : Int} {nano : Nat} {small : nano < nanosPerSecond} :
    (∃ t, ofSeconds? seconds nano small = some t) ↔ InReach seconds := by
  constructor
  · rintro ⟨t, built⟩
    rw [← (ofSeconds?_eq_some_iff.mp built).1]
    exact t.inReach_seconds
  · intro reach
    exact ⟨_, dif_pos (inReach_iff.mp reach)⟩

section Back

variable {now : Timestamp} (noLeap : now.isLeap = false) (span : Int)
include noLeap

theorem back?_eq_ofSeconds? :
    now.back? span =
      ofSeconds? (now.seconds - span) now.nano
        (Nat.lt_of_not_le (of_decide_eq_false noLeap)) :=
  dif_neg (of_decide_eq_false noLeap)

/-- Outside of leap seconds, the point in time that lies some seconds before is the one with so many
seconds less and the same nanosecond. -/
theorem back?_eq_some_iff {earlier : Timestamp} :
    now.back? span = some earlier ↔
      earlier.seconds = now.seconds - span ∧ earlier.nano = now.nano := by
  rw [back?_eq_ofSeconds? noLeap, ofSeconds?_eq_some_iff]

/-- There is such a point in time if and only if its second lies in reach. -/
theorem exists_back?_iff :
    (∃ earlier, now.back? span = some earlier) ↔ InReach (now.seconds - span) := by
  rw [back?_eq_ofSeconds? noLeap, exists_ofSeconds?_iff]

end Back

end Timestamp

end Fixity.Time
