import Mathlib.Data.List.Basic
import UptimeIntake.Proofs.Time.Gregorian
import UptimeIntake.Proofs.Time.Rfc3339

/-!
# Local times

The texts that give the second of an instant on a clock ahead of UTC or behind it, and what is read
of them. The offset is a number of whole minutes less than a day, and carries into the date wherever
the clock has passed midnight.
-/

set_option autoImplicit false

namespace UptimeIntake.Rfc3339

open Text Calendar

/-! ## Texts of an instant -/

/-- The text is the time of day as `HH:MM:SS`. A leap second counts one more than the second before
it. -/
def IsTimeOfDay (second : Nat) (leap : Bool) (text : List Char) : Prop :=
  ∃ hour minute last, text = hour ++ ':' :: (minute ++ ':' :: last) ∧
    Decimal.IsField 2 (second / 3600) hour ∧ Decimal.IsField 2 (second / 60 % 60) minute ∧
    Decimal.IsField 2 (second % 60 + leap.toNat) last

/-- The text is the date and the time of day of an instant on a clock that is `offset` seconds ahead
of UTC, in one of the years 0 to 9999. -/
def IsClockTime (t : Instant) (offset : Int) (separator : Char) (text : List Char) : Prop :=
  ∃ (date : Date) (day time : List Char), text = day ++ separator :: time ∧
    date.FallsOn ((t.secs + offset) / 86400) ∧ (0 ≤ date.year ∧ date.year ≤ 9999) ∧
    date.IsWritten day ∧ IsTimeOfDay ((t.secs + offset) % 86400).toNat t.isLeapSecond time

/-- The text is the UTC text of an instant, `YYYY-MM-DDTHH:MM:SSZ`. -/
def IsUtc (t : Instant) (text : List Char) : Prop :=
  ∃ time, text = time ++ ['Z'] ∧ IsClockTime t 0 'T' time

/-- The text is a fraction of a second with any number of digits, none included. -/
def IsFraction (text : List Char) : Prop :=
  text = [] ∨ ∃ digits, text = '.' :: digits ∧ digits ≠ [] ∧ ∀ c ∈ digits, c.isDigit = true

/-- The text is an offset from UTC in seconds: UTC by a name, or whole minutes less than a day as
`+hh:mm` or `-hh:mm`. UTC has both signs. -/
inductive IsOffset : Int → List Char → Prop
  | utc {text : List Char} : text = ['Z'] ∨ text = ['z'] ∨ text = ['U', 'T', 'C'] → IsOffset 0 text
  | signed {offset : Int} {sign : Char} {hours minutes : List Char} :
      sign = '+' ∧ 0 ≤ offset ∨ sign = '-' ∧ offset ≤ 0 → offset % 60 = 0 →
      offset.natAbs < 86400 → Decimal.IsField 2 (offset.natAbs / 3600) hours →
      Decimal.IsField 2 (offset.natAbs / 60 % 60) minutes →
      IsOffset offset (sign :: (hours ++ ':' :: minutes))

/-- The text gives the second of an instant, on some clock and to some fraction. -/
def IsStamp (t : Instant) (text : List Char) : Prop :=
  ∃ offset separator time fraction behind, text = time ++ fraction ++ behind ∧
    (separator = 'T' ∨ separator = 't' ∨ separator = ' ') ∧
    IsClockTime t offset separator time ∧ IsFraction fraction ∧ IsOffset offset behind

variable {t : Instant} {offset : Int} {separator : Char} {text rest : List Char} {second : Nat}
  {leap : Bool}

/-! ## Reading them -/

private theorem IsTimeOfDay.eq_timeOfDay (isTime : IsTimeOfDay second leap text) :
    text = timeOfDay second leap := by
  obtain ⟨hour, minute, last, rfl, isHour, isMinute, isLast⟩ := isTime
  rw [timeOfDay, List.append_assoc, List.cons_append, isHour.eq_field, isMinute.eq_field,
    isLast.eq_field]

private theorem isTimeOfDay_timeOfDay (leap : Bool) (inDay : second < 86400) :
    IsTimeOfDay second leap (timeOfDay second leap) := by
  have leap_le := Bool.toNat_le leap
  refine ⟨_, _, _, ?_, Decimal.isField_field (by omega), Decimal.isField_field (by omega),
    Decimal.isField_field (by omega)⟩
  rw [timeOfDay, List.append_assoc, List.cons_append]

private theorem IsClockTime.eq_date_timeOfDay (isTime : IsClockTime t offset separator text) :
    text = date (.ofDay ((t.secs + offset) / 86400)) ++
      separator :: timeOfDay ((t.secs + offset) % 86400).toNat t.isLeapSecond := by
  obtain ⟨d, day, time, rfl, falls, ⟨first, last⟩, isDay, isTime⟩ := isTime
  rw [isDay.eq_date first last, isTime.eq_timeOfDay, Date.fallsOn_iff_eq_ofDay.1 falls]

theorem IsClockTime.year (isTime : IsClockTime t offset separator text) :
    0 ≤ (Date.ofDay ((t.secs + offset) / 86400)).year ∧
      (Date.ofDay ((t.secs + offset) / 86400)).year ≤ 9999 := by
  obtain ⟨d, _, _, _, falls, years, _⟩ := isTime
  rwa [Date.fallsOn_iff_eq_ofDay.1 falls] at years

/-- In the years 0 to 9999 nothing else is written. -/
theorem isUtc_write {d : Date} (falls : d.FallsOn (t.secs / 86400)) (first : 0 ≤ d.year)
    (last : d.year ≤ 9999) : IsUtc t (write t) := by
  have written : write t = date d ++ 'T' :: timeOfDay (t.secs % 86400).toNat t.isLeapSecond ++
      ['Z'] := by rw [write, Date.fallsOn_iff_eq_ofDay.1 falls]
  refine ⟨_, written, d, _, _, rfl, ?_, ⟨first, last⟩, ?_, ?_⟩
  · rwa [Int.add_zero]
  · exact Date.isWritten_date falls.isValid_and_toDay.1 first last
  · rw [Int.add_zero]
    exact isTimeOfDay_timeOfDay _ (by omega)

/-- What stands behind the time of day is not a part of it. -/
theorem IsOffset.exists_cons (isOffset : IsOffset offset text) :
    ∃ c cs, text = c :: cs ∧ c.isDigit = false ∧ c ≠ '.' ∧ isBlank c = false := by
  cases isOffset with
  | utc isName => rcases isName with rfl | rfl | rfl <;> exact ⟨_, _, rfl, by decide⟩
  | signed isSign =>
      rcases isSign with ⟨rfl, _⟩ | ⟨rfl, _⟩
      · exact ⟨_, _, rfl, by decide⟩
      · exact ⟨_, _, rfl, by decide⟩

theorem twoDigits?_of_isField {n : Nat} (isField : Decimal.IsField 2 n text) (rest : List Char) :
    twoDigits? (text ++ rest) = some (n, rest) := by
  obtain ⟨a, b, rfl⟩ := List.length_eq_two.1 isField.length
  have first := isField.digits a List.mem_cons_self
  have second := isField.digits b (List.mem_cons_of_mem a List.mem_cons_self)
  rw [List.cons_append, List.cons_append, List.nil_append, twoDigits?, if_pos ⟨first, second⟩,
    isField.value]

private theorem hoursMinutes?_of_isField {h m : Nat} {hours minutes : List Char}
    (isHours : Decimal.IsField 2 h hours) (isMinutes : Decimal.IsField 2 m minutes) (fits : m < 60) :
    hoursMinutes? (hours ++ ':' :: minutes) = some ((h : Int) * 3600 + m * 60, []) := by
  have readHours := twoDigits?_of_isField isHours (':' :: minutes)
  have readMinutes := twoDigits?_of_isField isMinutes []
  rw [List.append_nil] at readMinutes
  have behindMark : (':' :: minutes).dropWhile (fun c => c = ':' || isBlank c) = minutes := by
    obtain ⟨a, b, rfl⟩ := List.length_eq_two.1 isMinutes.length
    have isDigit := isMinutes.digits a List.mem_cons_self
    have noMark : a ≠ ':' := by
      rintro rfl
      cases isDigit
    simp [noMark, not_isBlank_of_isDigit isDigit]
  simp only [hoursMinutes?, bind, Option.bind, readHours, behindMark, readMinutes, if_pos fits]
  rfl

theorem IsOffset.offset? (isOffset : IsOffset offset text) : offset? text = some (offset, []) := by
  cases isOffset with
  | utc isName => rcases isName with rfl | rfl | rfl <;> rfl
  | signed isSign whole within isHours isMinutes =>
      have read := hoursMinutes?_of_isField isHours isMinutes (Nat.mod_lt _ (by decide))
      rcases isSign with ⟨rfl, notNegative⟩ | ⟨rfl, notPositive⟩
      · have isOffset : ((offset.natAbs / 3600 : Nat) : Int) * 3600 +
            (offset.natAbs / 60 % 60 : Nat) * 60 = offset := by omega
        exact read.trans (by rw [isOffset])
      · have isOffset : -(((offset.natAbs / 3600 : Nat) : Int) * 3600 +
            (offset.natAbs / 60 % 60 : Nat) * 60) = offset := by omega
        exact (congrArg (Option.map _) read).trans (congrArg (fun s => some (s, [])) isOffset)

theorem IsOffset.bounds (isOffset : IsOffset offset text) :
    offset % 60 = 0 ∧ -86400 < offset ∧ offset < 86400 := by
  cases isOffset with
  | utc => decide
  | signed _ whole within =>
      refine ⟨whole, ?_⟩
      omega

private theorem fraction?_point {run : List Char} (split : Decimal.split 9 text = (run, rest))
    (nonempty : run ≠ []) : fraction? ('.' :: text) =
      some (Decimal.value run * Nat.pow 10 (9 - run.length), rest.dropWhile Char.isDigit) := by
  rw [fraction?, split]
  cases run with
  | nil => exact absurd rfl nonempty
  | cons => rfl

/-- Nine digits are less than a second. -/
theorem nanos_lt {run : List Char} (isRun : ∀ c ∈ run, c.isDigit = true) (within : run.length ≤ 9) :
    Decimal.value run * Nat.pow 10 (9 - run.length) < 1000000000 := by
  have isProduct : 10 ^ run.length * 10 ^ (9 - run.length) = 1000000000 := by
    rw [← Nat.pow_add, Nat.add_sub_cancel' within]
  rw [← isProduct]
  exact Nat.mul_lt_mul_of_pos_right (Decimal.value_lt isRun) (Nat.pow_pos (by decide))

/-- Digits behind the ninth are skipped. -/
theorem IsFraction.exists_fraction? {c : Char} (isFraction : IsFraction text) (cs : List Char)
    (noDigit : c.isDigit = false) (noPoint : c ≠ '.') :
    ∃ nanos < 1000000000, fraction? (text ++ c :: cs) = some (nanos, c :: cs) := by
  rcases isFraction with rfl | ⟨digits, rfl, nonempty, areDigits⟩
  · refine ⟨0, by decide, ?_⟩
    rw [List.nil_append, fraction?]
    rintro _ ⟨⟩
    exact noPoint rfl
  · have front : ∀ d ∈ digits.take 9, d.isDigit = true :=
      fun d member => areDigits d (List.mem_of_mem_take member)
    have skipped : ∀ d ∈ digits.drop 9, d.isDigit = true :=
      fun d member => areDigits d (List.mem_of_mem_drop member)
    have ends : (digits.take 9).length = 9 ∨ Decimal.EndsRun (digits.drop 9 ++ c :: cs) := by
      rcases Nat.lt_or_ge digits.length 9 with short | long
      · rw [List.drop_eq_nil_of_le (Nat.le_of_lt short)]
        exact .inr (Decimal.endsRun_cons cs noDigit)
      · exact .inl (by rw [List.length_take, Nat.min_eq_left long])
    have length := List.length_take_le 9 digits
    have split := Decimal.split_append front length ends
    rw [← List.append_assoc, List.take_append_drop] at split
    have someDigit : digits.take 9 ≠ [] := by
      rw [ne_eq, List.take_eq_nil_iff, not_or]
      exact ⟨by decide, nonempty⟩
    have read := fraction?_point split someDigit
    rw [List.dropWhile_append_of_pos skipped, List.dropWhile_cons_of_neg (by simp [noDigit])] at read
    exact ⟨_, nanos_lt front length, read⟩

theorem IsTimeOfDay.shown {shown : Nat} {leap' : Bool} (minute : shown / 60 = second / 60)
    (last : shown % 60 + leap'.toNat = second % 60 + leap.toNat)
    (isTime : IsTimeOfDay second leap text) : IsTimeOfDay shown leap' text := by
  have hour : shown / 3600 = second / 3600 := by omega
  rwa [IsTimeOfDay, hour, minute, last]

theorem IsClockTime.floorSecond (whole : offset % 60 = 0)
    (isTime : IsClockTime t offset separator text) :
    IsClockTime t.floorSecond offset separator text := by
  obtain ⟨date, day, time, rfl, falls, years, isDay, isTime⟩ := isTime
  obtain ⟨sameDay, minute, last⟩ := t.clock_floorSecond whole
  exact ⟨date, day, time, rfl, sameDay ▸ falls, years, isDay, isTime.shown minute last⟩

private theorem exists_sameSecond (t : Instant) {nanos : Nat} (small : nanos < 1000000000) :
    ∃ u : Instant, u.SameSecond t ∧
      Instant.ofParts? t.secs (nanos + 1000000000 * t.isLeapSecond.toNat) = some u := by
  have leap_le := Bool.toNat_le t.isLeapSecond
  let u : Instant := ⟨t.secs, nanos + 1000000000 * t.isLeapSecond.toNat, by omega, t.first_le,
    t.le_last⟩
  refine ⟨u, Instant.sameSecond_of_parts rfl ?_, Instant.ofParts?_parts u⟩
  cases leap : t.isLeapSecond with
  | true => exact decide_eq_true (by simp only [u, leap, Bool.toNat_true]; omega)
  | false => exact decide_eq_false (by simp only [u, leap, Bool.toNat_false]; omega)

/-- What is read of a text for an instant whose leap second ends a minute. -/
theorem exists_read?_of_ends {fraction behind : List Char}
    (ends : t.isLeapSecond = true → t.secs % 60 = 59)
    (isSeparator : separator = 'T' ∨ separator = 't' ∨ separator = ' ')
    (isTime : IsClockTime t offset separator text) (isFraction : IsFraction fraction)
    (isOffset : IsOffset offset behind) :
    ∃ u : Instant, u.SameSecond t ∧ read? (text ++ fraction ++ behind) = some u := by
  obtain ⟨c, cs, shape, noDigit, noPoint, visible⟩ := isOffset.exists_cons
  obtain ⟨nanos, small, readFraction⟩ := isFraction.exists_fraction? cs noDigit noPoint
  obtain ⟨whole, within⟩ := isOffset.bounds
  have years := isTime.year
  have readClock := clock?_timeOfDay t.isLeapSecond
    (show ((t.secs + offset) % 86400).toNat < 86400 by omega) readFraction
  have readOffset : Rfc3339.offset? (trimStart behind) = some (offset, []) := by
    rw [shape, trimStart_cons cs visible, ← shape, isOffset.offset?]
  have readInstant := instant?_clockAt ends nanos whole within (by omega)
  rw [← shape] at readClock
  have written : text ++ fraction ++ behind = date (.ofDay ((t.secs + offset) / 86400)) ++
      separator :: (timeOfDay ((t.secs + offset) % 86400).toNat t.isLeapSecond ++
        (fraction ++ behind)) := by
    rw [isTime.eq_date_timeOfDay]
    simp
  obtain ⟨u, sameSecond, made⟩ := exists_sameSecond t small
  refine ⟨u, sameSecond, ?_⟩
  rw [written, read?, date?_date (ofDay_isValid _)]
  simp only [bind, Option.bind, separator?, if_pos isSeparator, readClock, readOffset]
  exact readInstant.trans made

theorem IsStamp.exists_read? (isStamp : IsStamp t text) :
    ∃ u : Instant, u.SameSecond t ∧ read? text = some u := by
  obtain ⟨offset, separator, time, fraction, behind, rfl, isSeparator, isTime, isFraction,
    isOffset⟩ := isStamp
  have isShown := isTime.floorSecond isOffset.bounds.1
  obtain ⟨u, sameSecond, reads⟩ := exists_read?_of_ends
    Instant.secs_mod_of_isLeapSecond_floorSecond isSeparator isShown isFraction isOffset
  exact ⟨u, sameSecond.trans t.sameSecond_floorSecond, reads⟩

end UptimeIntake.Rfc3339
