/-!
# The proleptic Gregorian calendar

Dates and day numbers, counted from 1970-01-01, in both directions and for all years. The year
of a day is found from the mean length of a year, corrected by at most one.
-/

set_option autoImplicit false

namespace UptimeIntake.Calendar

/-- A year has a 29th of February. -/
def isLeap (year : Int) : Bool :=
  year % 4 = 0 && (year % 100 ≠ 0 || year % 400 = 0)

/-- The number of days of a month, which is counted from 1. -/
def monthLength (leap : Bool) : Nat → Nat
  | 2 => if leap then 29 else 28
  | 4 | 6 | 9 | 11 => 30
  | _ => 31

/-- The number of days of a year before a month. -/
def monthStart (leap : Bool) : Nat → Nat
  | 0 | 1 => 0
  | month + 1 => monthStart leap month + monthLength leap month

/-- The day number of the first of January. -/
def yearStart (year : Int) : Int :=
  365 * (year - 1970) + ((year - 1) / 4 - (year - 1) / 100 + (year - 1) / 400) - 477

structure Date where
  /-- The year; year 0 is the year before year 1. -/
  year : Int
  /-- The month, from 1. -/
  month : Nat
  /-- The day of the month, from 1. -/
  day : Nat
  deriving DecidableEq, Repr

def Date.IsValid (date : Date) : Prop :=
  (1 ≤ date.month ∧ date.month ≤ 12) ∧
    (1 ≤ date.day ∧ date.day ≤ monthLength (isLeap date.year) date.month)

instance (date : Date) : Decidable date.IsValid :=
  inferInstanceAs (Decidable (_ ∧ _))

def Date.toDay (date : Date) : Int :=
  yearStart date.year + monthStart (isLeap date.year) date.month + (date.day : Int) - 1

def yearOf (day : Int) : Int :=
  let mean := 1970 + day * 400 / 146097
  if day < yearStart mean then mean - 1
  else if day < yearStart (mean + 1) then mean
  else mean + 1

/-- The month in which the day at `offset` of a year lies, the first day having offset 0. -/
def monthOf (leap : Bool) (offset : Nat) : Nat :=
  1 + (List.range 11).countP fun i => monthStart leap (i + 2) ≤ offset

def Date.ofDay (day : Int) : Date :=
  let year := yearOf day
  let offset := (day - yearStart year).toNat
  let month := monthOf (isLeap year) offset
  ⟨year, month, offset - monthStart (isLeap year) month + 1⟩

end UptimeIntake.Calendar
