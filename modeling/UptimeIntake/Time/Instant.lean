import UptimeIntake.Time.Calendar

/-!
# Instants

A point of UTC with nanosecond precision, leap seconds included. A leap second is the second before
it with `10⁹` or more nanoseconds, and may stand behind any second. A clock shows `:60` for it
behind a second `:59`, and behind any other second the second that follows. Instants span the years
-262143 to 262142.
-/

set_option autoImplicit false

namespace UptimeIntake

def Instant.firstSecond : Int := Calendar.yearStart (-262143) * 86400

def Instant.lastSecond : Int := Calendar.yearStart 262143 * 86400 - 1

structure Instant where
  /-- Seconds since 1970-01-01T00:00:00Z, without leap seconds. -/
  secs : Int
  /-- Nanoseconds, `10⁹` and more in a leap second. -/
  nanos : Nat
  nanos_lt : nanos < 2000000000
  first_le : Instant.firstSecond ≤ secs
  le_last : secs ≤ Instant.lastSecond
  deriving DecidableEq

namespace Instant

def ofParts? (secs : Int) (nanos : Nat) : Option Instant :=
  if h : nanos < 2000000000 ∧ firstSecond ≤ secs ∧ secs ≤ lastSecond then
    some ⟨secs, nanos, h.1, h.2.1, h.2.2⟩
  else none

def isLeapSecond (t : Instant) : Bool :=
  1000000000 ≤ t.nanos

/-- The first instant is earlier. A leap second comes after the second before it and before the
second after it. -/
def before (s t : Instant) : Bool :=
  s.secs < t.secs || (s.secs = t.secs && s.nanos < t.nanos)

instance : LE Instant where
  le s t := s.secs < t.secs ∨ s.secs = t.secs ∧ s.nanos ≤ t.nanos

theorem le_iff_before_eq_false {s t : Instant} : s ≤ t ↔ t.before s = false := by
  have unfolded : s ≤ t ↔ s.secs < t.secs ∨ s.secs = t.secs ∧ s.nanos ≤ t.nanos := Iff.rfl
  simp only [unfolded, before, Bool.or_eq_false_iff, Bool.and_eq_false_iff,
    decide_eq_false_iff_not]
  omega

/-- The instant `delta` seconds earlier, if it is in range. From a leap second, going back counts
from the following second and going forward from the second before; a zero `delta` changes
nothing. -/
def minusSeconds? (t : Instant) (delta : Int) : Option Instant :=
  if delta = 0 then some t
  else if t.nanos < 1000000000 then ofParts? (t.secs - delta) t.nanos
  else if 0 < delta then ofParts? (t.secs + 1 - delta) (t.nanos - 1000000000)
  else ofParts? (t.secs - delta) (t.nanos - 1000000000)

/-- The last second ends a minute. -/
theorem lastSecond_mod : lastSecond % 60 = 59 := by decide

/-- The start of the second that a clock shows at the instant. -/
def floorSecond (t : Instant) : Instant where
  secs := if t.isLeapSecond = true ∧ t.secs % 60 ≠ 59 then t.secs + 1 else t.secs
  nanos := if t.isLeapSecond = true ∧ t.secs % 60 = 59 then 1000000000 else 0
  nanos_lt := by split <;> decide
  first_le := by
    have first_le := t.first_le
    split <;> omega
  le_last := by
    have le_last := t.le_last
    have ends := lastSecond_mod
    split <;> omega

/-- A clock shows the same second at the two instants, a leap second `:60` being one of its own. -/
def SameSecond (s t : Instant) : Prop :=
  s.floorSecond = t.floorSecond

instance (s t : Instant) : Decidable (SameSecond s t) :=
  inferInstanceAs (Decidable (_ = _))

end Instant

end UptimeIntake
