import UptimeIntake.Proofs.Text.Decimal
import UptimeIntake.Proofs.Time.Calendar
import UptimeIntake.Proofs.Time.Instant
import UptimeIntake.Time.Rfc3339

/-!
# Written times read back

An instant that is written and read again is the start of its second; a leap second stays one.
Each part is read off the front of the text, whatever stands behind it.
-/

set_option autoImplicit false

namespace UptimeIntake

open Text Calendar

namespace Rfc3339

/-! ## Parts of a text -/

theorem trimStart_cons {c : Char} (cs : List Char) (visible : isBlank c = false) :
    trimStart (c :: cs) = c :: cs := by
  simp [trimStart, visible]

theorem not_isBlank_of_isDigit {c : Char} (isDigit : c.isDigit = true) : isBlank c = false := by
  have range := Decimal.toNat_of_isDigit isDigit
  simp only [isBlank, Bool.or_eq_false_iff, Bool.and_eq_false_iff, decide_eq_false_iff_not,
    beq_eq_false_iff_ne]
  omega

theorem mark?_cons {c : Char} (cs : List Char) (visible : isBlank c = false) :
    mark? c (c :: cs) = some cs := by
  simp [mark?, trimStart_cons cs visible]

theorem exists_field_cons {width : Nat} (positive : width ≠ 0) (n : Nat) :
    ∃ c cs, Decimal.field width n = c :: cs ∧ c.isDigit = true := by
  cases shape : Decimal.field width n with
  | nil => exact absurd (by rw [← Decimal.length_field width n, shape]; rfl) positive
  | cons c cs =>
      exact ⟨c, cs, rfl, Decimal.isDigit_of_mem_field (by rw [shape]; exact List.mem_cons_self)⟩

private theorem trimStart_field {width : Nat} (positive : width ≠ 0) (n : Nat) (rest : List Char) :
    trimStart (Decimal.field width n ++ rest) = Decimal.field width n ++ rest := by
  obtain ⟨c, cs, shape, isDigit⟩ := exists_field_cons positive n
  rw [shape]
  exact trimStart_cons _ (not_isBlank_of_isDigit isDigit)

theorem number?_field {width n : Nat} (positive : width ≠ 0) (fits : n < 10 ^ width)
    (rest : List Char) : number? width (Decimal.field width n ++ rest) = some (n, rest) := by
  rw [number?, trimStart_field positive, Decimal.read?_field positive fits]

/-! ## Years -/

theorem read?_signed {digits rest : List Char} (areDigits : ∀ c ∈ digits, c.isDigit = true)
    (nonempty : digits ≠ []) (ends : Decimal.EndsRun rest) :
    Decimal.read? (digits ++ rest).length (digits ++ rest) = some (Decimal.value digits, rest) := by
  refine Decimal.read?_append areDigits nonempty ?_ (.inr ends)
  rw [List.length_append]
  exact Nat.le_add_right _ _

/-- The digits of a year without its sign. -/
def yearDigits (size : Nat) : List Char :=
  if size < 10000 then Decimal.field 4 size else Decimal.digits size

theorem yearDigits_spec (size : Nat) :
    (∀ c ∈ yearDigits size, c.isDigit = true) ∧ yearDigits size ≠ [] ∧
      Decimal.value (yearDigits size) = size := by
  unfold yearDigits
  split
  · next short =>
      obtain ⟨c, cs, shape, _⟩ := exists_field_cons (show 4 ≠ 0 by decide) size
      refine ⟨fun _ => Decimal.isDigit_of_mem_field, ?_, Decimal.value_field short⟩
      rw [shape]
      exact List.cons_ne_nil c cs
  · exact ⟨fun _ => Decimal.isDigit_of_mem_digits, Decimal.digits_ne_nil size,
      Decimal.value_digits size⟩

private theorem year?_year (y : Int) {rest : List Char} (ends : Decimal.EndsRun rest) :
    year? (year y ++ rest) = some (y, rest) := by
  obtain ⟨areDigits, nonempty, value⟩ := yearDigits_spec y.natAbs
  have written : year y =
      if y < 0 then '-' :: yearDigits y.natAbs
      else if 9999 < y then '+' :: yearDigits y.natAbs
      else yearDigits y.natAbs := rfl
  rw [written]
  split
  · next negative =>
      have read := read?_signed areDigits nonempty ends
      simp only [year?, List.cons_append, trimStart_cons _ (show isBlank '-' = false by decide), read,
        value, Option.map_some, Option.some.injEq, Prod.mk.injEq, and_true]
      omega
  split
  · next large =>
      have read := read?_signed areDigits nonempty ends
      simp only [year?, List.cons_append, trimStart_cons _ (show isBlank '+' = false by decide), read,
        value, Option.map_some, Option.some.injEq, Prod.mk.injEq, and_true]
      omega
  · next notNegative notLarge =>
      have short : y.natAbs < 10 ^ 4 := by omega
      have read := Decimal.read?_field (show 4 ≠ 0 by decide) short rest
      have isField : yearDigits y.natAbs = Decimal.field 4 y.natAbs := if_pos short
      obtain ⟨c, cs, shape, isDigit⟩ := exists_field_cons (show 4 ≠ 0 by decide) y.natAbs
      rw [shape] at read
      rw [isField, shape, year?, List.cons_append,
        trimStart_cons _ (not_isBlank_of_isDigit isDigit)]
      split
      · next same => cases same; cases isDigit
      · next same => cases same; cases isDigit
      · rw [← List.cons_append, read]
        simp only [Option.map_some, Option.some.injEq, Prod.mk.injEq, and_true]
        omega

/-! ## Dates and times -/

theorem date?_date {d : Date} (valid : d.IsValid) (rest : List Char) :
    date? (date d ++ rest) = some (d, rest) := by
  have day_lt := Date.day_lt valid
  obtain ⟨⟨_, month⟩, _, _⟩ := valid
  have written : date d ++ rest =
      year d.year ++ ('-' :: (Decimal.field 2 d.month ++ ('-' :: (Decimal.field 2 d.day ++ rest)))) := by
    simp [date]
  have yearRead := year?_year d.year
    (Decimal.endsRun_cons (Decimal.field 2 d.month ++ ('-' :: (Decimal.field 2 d.day ++ rest)))
      (show '-'.isDigit = false by decide))
  rw [written, date?, yearRead]
  simp only [bind, Option.bind, mark?_cons _ (show isBlank '-' = false by decide),
    number?_field (show 2 ≠ 0 by decide) (show d.month < 10 ^ 2 by omega),
    number?_field (show 2 ≠ 0 by decide) (show d.day < 10 ^ 2 by omega)]
  rfl

theorem clock?_timeOfDay {second : Nat} (leap : Bool) (inDay : second < 86400)
    {rest behind : List Char} {nanos : Nat} (fraction : fraction? rest = some (nanos, behind)) :
    clock? (timeOfDay second leap ++ rest) =
      some (⟨second / 3600, second / 60 % 60, second % 60 + leap.toNat, nanos⟩, behind) := by
  have leap_le : leap.toNat ≤ 1 := Bool.toNat_le leap
  have written : timeOfDay second leap ++ rest =
      Decimal.field 2 (second / 3600) ++ (':' :: (Decimal.field 2 (second / 60 % 60) ++
        (':' :: (Decimal.field 2 (second % 60 + leap.toNat) ++ rest)))) := by
    simp [timeOfDay]
  rw [written, clock?]
  simp only [bind, Option.bind, mark?_cons _ (show isBlank ':' = false by decide),
    number?_field (show 2 ≠ 0 by decide) (show second / 3600 < 10 ^ 2 by omega),
    number?_field (show 2 ≠ 0 by decide) (show second / 60 % 60 < 10 ^ 2 by omega),
    number?_field (show 2 ≠ 0 by decide) (show second % 60 + leap.toNat < 10 ^ 2 by omega),
    fraction]
  rfl

/-! ## Instants -/

/-- The year of an instant is in range. -/
theorem year_inRange (t : Instant) :
    -262143 ≤ (Date.ofDay (t.secs / 86400)).year ∧ (Date.ofDay (t.secs / 86400)).year ≤ 262142 := by
  have first_le := t.first_le
  have le_last := t.le_last
  simp only [Instant.firstSecond, Instant.lastSecond] at first_le le_last
  have low : -262143 ≤ yearOf (t.secs / 86400) := le_yearOf (by omega)
  have high : yearOf (t.secs / 86400) < 262143 := yearOf_lt (by omega)
  exact ⟨low, by simp only [Date.ofDay]; omega⟩

/-- The time of day of an instant as written. -/
def clockOf (t : Instant) : Clock :=
  let second := (t.secs % 86400).toNat
  ⟨second / 3600, second / 60 % 60, second % 60 + t.isLeapSecond.toNat, 0⟩

/-- The time of day in the second of an instant on a clock that is `offset` seconds ahead of UTC. -/
def clockAt (t : Instant) (offset : Int) (nanos : Nat) : Clock :=
  let second := ((t.secs + offset) % 86400).toNat
  ⟨second / 3600, second / 60 % 60, second % 60 + t.isLeapSecond.toNat, nanos⟩

/-- An offset of whole minutes leaves the second of the minute alone, and so a leap second that ends
a minute does so on every clock. -/
theorem instant?_clockAt {t : Instant} (ends : t.isLeapSecond = true → t.secs % 60 = 59)
    {offset : Int} (nanos : Nat) (whole : offset % 60 = 0)
    (within : -86400 < offset ∧ offset < 86400)
    (inRange : -262143 ≤ (Date.ofDay ((t.secs + offset) / 86400)).year ∧
      (Date.ofDay ((t.secs + offset) / 86400)).year ≤ 262142) :
    instant? (Date.ofDay ((t.secs + offset) / 86400)) (clockAt t offset nanos) offset =
      Instant.ofParts? t.secs (nanos + 1000000000 * t.isLeapSecond.toNat) := by
  have isSum : (t.secs + offset) / 86400 * 86400 + ((t.secs + offset) % 86400).toNat =
      t.secs + offset := by omega
  have leap_le : t.isLeapSecond.toNat ≤ 1 := Bool.toNat_le _
  have clockValid : (clockAt t offset nanos).IsValid := by
    simp only [clockAt, Clock.IsValid]
    omega
  rw [instant?, if_pos ⟨ofDay_isValid _, clockValid, inRange, within⟩, toDay_ofDay]
  cases leap : t.isLeapSecond with
  | true =>
      have last := ends leap
      have isSixty : (clockAt t offset nanos).second = 60 := by
        simp only [clockAt, leap, Bool.toNat_true]
        omega
      have secs : (t.secs + offset) / 86400 * 86400 + (((clockAt t offset nanos).hour * 3600 +
          (clockAt t offset nanos).minute * 60 + 59 : Nat) : Int) - offset = t.secs := by
        simp only [clockAt]
        omega
      simp only [if_pos isSixty]
      exact congrArg₂ Instant.ofParts? secs rfl
  | false =>
      have notSixty : (clockAt t offset nanos).second ≠ 60 := by
        simp only [clockAt, leap, Bool.toNat_false]
        omega
      have secs : (t.secs + offset) / 86400 * 86400 + (((clockAt t offset nanos).hour * 3600 +
          (clockAt t offset nanos).minute * 60 + (clockAt t offset nanos).second : Nat) : Int) -
            offset = t.secs := by
        simp only [clockAt, leap, Bool.toNat_false]
        omega
      simp only [if_neg notSixty]
      exact congrArg₂ Instant.ofParts? secs rfl

private theorem instant?_floorSecond (t : Instant) :
    instant? (Date.ofDay (t.floorSecond.secs / 86400)) (clockOf t.floorSecond) 0 =
      some t.floorSecond := by
  have isClock : clockAt t.floorSecond 0 0 = clockOf t.floorSecond := by
    rw [clockAt, clockOf, Int.add_zero]
  have inRange := year_inRange t.floorSecond
  rw [← Int.add_zero t.floorSecond.secs] at inRange
  have read := instant?_clockAt Instant.secs_mod_of_isLeapSecond_floorSecond 0 (by decide) (by decide)
    inRange
  rwa [isClock, Int.add_zero, Nat.zero_add, ← Instant.nanos_floorSecond,
    Instant.ofParts?_parts] at read

/-- The text has the minute and the second of the clock. -/
theorem timeOfDay_eq {shown second : Nat} {leap leap' : Bool} (minute : shown / 60 = second / 60)
    (last : shown % 60 + leap.toNat = second % 60 + leap'.toNat) :
    timeOfDay shown leap = timeOfDay second leap' := by
  have hour : shown / 3600 = second / 3600 := by omega
  rw [timeOfDay, timeOfDay, hour, minute, last]

/-- Only the second that a clock shows is written. -/
theorem write_floorSecond (t : Instant) : write t.floorSecond = write t := by
  have whole : (0 : Int) % 60 = 0 := by decide
  obtain ⟨day, minute, last⟩ := t.clock_floorSecond whole
  simp only [Int.add_zero] at day minute last
  rw [write, write, day, timeOfDay_eq minute last]

theorem read?_write (t : Instant) : read? (write t) = some t.floorSecond := by
  have inDay : (t.floorSecond.secs % 86400).toNat < 86400 := by omega
  have written : write t.floorSecond = date (Date.ofDay (t.floorSecond.secs / 86400)) ++
      ('T' :: (timeOfDay (t.floorSecond.secs % 86400).toNat t.floorSecond.isLeapSecond ++
        ['Z'])) := by
    simp [write]
  have clock : clock? (timeOfDay (t.floorSecond.secs % 86400).toNat t.floorSecond.isLeapSecond ++
      ['Z']) = some (clockOf t.floorSecond, ['Z']) := clock?_timeOfDay _ inDay rfl
  have offset : offset? (trimStart ['Z']) = some (0, []) := by decide
  rw [← write_floorSecond, written, read?, date?_date (ofDay_isValid _)]
  simp only [bind, Option.bind, separator?, true_or, if_true, clock, offset]
  exact instant?_floorSecond t

theorem write_eq_iff {s t : Instant} : write s = write t ↔ s.SameSecond t := by
  constructor
  · intro same
    have read := congrArg read? same
    rwa [read?_write, read?_write, Option.some.injEq] at read
  · intro same
    rw [← write_floorSecond s, same, write_floorSecond]

end Rfc3339

namespace Calendar.Date

/-! ## The form of a date -/

/-- The text is the date as `YYYY-MM-DD`. -/
def IsWritten (date : Date) (text : List Char) : Prop :=
  ∃ year month day, text = year ++ '-' :: (month ++ '-' :: day) ∧
    Decimal.IsField 4 date.year.toNat year ∧ Decimal.IsField 2 date.month month ∧
    Decimal.IsField 2 date.day day

variable {date : Date} {text : List Char}

theorem IsWritten.length (written : date.IsWritten text) : text.length = 10 := by
  obtain ⟨year, month, day, rfl, isYear, isMonth, isDay⟩ := written
  simp only [List.length_append, List.length_cons, isYear.length, isMonth.length, isDay.length]

theorem rfc3339_date (first : 0 ≤ date.year) (last : date.year ≤ 9999) :
    Rfc3339.date date = Decimal.field 4 date.year.toNat ++
      '-' :: (Decimal.field 2 date.month ++ '-' :: Decimal.field 2 date.day) := by
  have size : date.year.natAbs = date.year.toNat := by omega
  have year : Rfc3339.year date.year = Decimal.field 4 date.year.toNat := by
    unfold Rfc3339.year
    simp only [if_neg (Int.not_lt.2 first), if_neg (Int.not_lt.2 last), size]
    exact if_pos (by omega)
  rw [Rfc3339.date, year, List.append_assoc, List.cons_append]

/-- In the years 0 to 9999 nothing else is written. -/
theorem isWritten_date (valid : date.IsValid) (first : 0 ≤ date.year) (last : date.year ≤ 9999) :
    date.IsWritten (Rfc3339.date date) := by
  have lastMonth := valid.1.2
  have day_lt := day_lt valid
  exact ⟨_, _, _, rfc3339_date first last, Decimal.isField_field (by omega),
    Decimal.isField_field (by omega), Decimal.isField_field (by omega)⟩

theorem IsWritten.eq_date (written : date.IsWritten text) (first : 0 ≤ date.year)
    (last : date.year ≤ 9999) : text = Rfc3339.date date := by
  obtain ⟨year, month, day, rfl, isYear, isMonth, isDay⟩ := written
  rw [rfc3339_date first last, isYear.eq_field, isMonth.eq_field, isDay.eq_field]

end Calendar.Date

end UptimeIntake
