import UptimeIntake.Proofs.Time.Calendar
import Mathlib.Data.Int.Init

/-!
# Counting days by dates

Dates follow one another by the rules of the Gregorian calendar, without end in both directions, and
the first of January 1970 is day 0. The date of a day number is the one that this count reaches.
-/

set_option autoImplicit false

namespace UptimeIntake.Calendar.Date

/-- The day after. -/
def next (date : Date) : Date :=
  if date.day < monthLength (isLeap date.year) date.month then { date with day := date.day + 1 }
  else if date.month < 12 then ⟨date.year, date.month + 1, 1⟩
  else ⟨date.year + 1, 1, 1⟩

/-- Counted from the first of January 1970, the day has the number. -/
inductive FallsOn : Date → Int → Prop where
  | epoch : FallsOn ⟨1970, 1, 1⟩ 0
  | next {date number} : FallsOn date number → FallsOn date.next (number + 1)
  | previous {date number} : date.IsValid → FallsOn date.next number → FallsOn date (number - 1)

variable {date : Date} {number : Int}

/-! ## The next day -/

theorem next_isValid (valid : date.IsValid) : date.next.IsValid := by
  obtain ⟨⟨firstMonth, lastMonth⟩, firstDay, lastDay⟩ := valid
  unfold next
  split
  · next inMonth => exact ⟨⟨firstMonth, lastMonth⟩, Nat.succ_pos _, inMonth⟩
  split
  · next inYear => exact ⟨⟨Nat.succ_pos _, inYear⟩, Nat.le_refl 1, (monthLength_bounds _ _).1⟩
  · exact ⟨⟨Nat.le_refl 1, Nat.le_of_ble_eq_true rfl⟩, Nat.le_refl 1, (monthLength_bounds _ _).1⟩

private theorem monthStart_succ (leap : Bool) {month : Nat} (first : 1 ≤ month) :
    monthStart leap (month + 1) = monthStart leap month + monthLength leap month := by
  cases month with
  | zero => cases first
  | succ month => rfl

private theorem monthStart_december (leap : Bool) :
    monthStart leap 12 + monthLength leap 12 = yearLength leap := by
  cases leap <;> rfl

theorem toDay_next (valid : date.IsValid) : date.next.toDay = date.toDay + 1 := by
  obtain ⟨⟨firstMonth, lastMonth⟩, firstDay, lastDay⟩ := valid
  unfold next
  split
  · next inMonth =>
      simp only [toDay]
      omega
  · next lastOfMonth =>
      have isLast : date.day = monthLength (isLeap date.year) date.month := by omega
      split
      · next inYear =>
          simp only [toDay, monthStart_succ _ firstMonth]
          omega
      · next lastOfYear =>
          have december : date.month = 12 := by omega
          have length := monthStart_december (isLeap date.year)
          have start := yearStart_succ date.year
          rw [december] at isLast
          simp only [toDay, december, monthStart]
          simp only [monthStart] at length
          omega

/-! ## Every day has one date -/

private theorem monthOf_monthStart (leap : Bool) {month offset : Nat} (first : 1 ≤ month)
    (last : month ≤ 12)
    (inMonth : offset < monthLength leap month) : monthOf leap (monthStart leap month + offset) = month := by
  have all : ∀ leap, ∀ month < 13, 1 ≤ month → ∀ offset < monthLength leap month,
      monthOf leap (monthStart leap month + offset) = month := by decide +kernel
  exact all leap month (Nat.lt_succ_of_le last) first offset inMonth

theorem inYear (valid : date.IsValid) :
    yearStart date.year ≤ date.toDay ∧ date.toDay < yearStart (date.year + 1) := by
  obtain ⟨⟨firstMonth, lastMonth⟩, firstDay, lastDay⟩ := valid
  have all : ∀ leap, ∀ month < 13, 1 ≤ month →
      monthStart leap month + monthLength leap month ≤ yearLength leap := by decide
  have fits := all (isLeap date.year) date.month (by omega) firstMonth
  have start := yearStart_succ date.year
  simp only [toDay]
  omega

theorem ofDay_toDay (valid : date.IsValid) : ofDay date.toDay = date := by
  obtain ⟨started, notOver⟩ := inYear valid
  have year : yearOf date.toDay = date.year := by
    have low := le_yearOf started
    have high := yearOf_lt notOver
    omega
  obtain ⟨⟨firstMonth, lastMonth⟩, firstDay, lastDay⟩ := valid
  have offset : (date.toDay - yearStart date.year).toNat =
      monthStart (isLeap date.year) date.month + (date.day - 1) := by
    simp only [toDay]
    omega
  have month := monthOf_monthStart (isLeap date.year) firstMonth lastMonth
    (show date.day - 1 < monthLength (isLeap date.year) date.month by omega)
  have day : monthStart (isLeap date.year) date.month + (date.day - 1) -
      monthStart (isLeap date.year) date.month + 1 = date.day := by omega
  simp only [ofDay, year, offset, month, day]

/-! ## The count -/

theorem fallsOn_ofDay (number : Int) : (ofDay number).FallsOn number := by
  induction number using Int.induction_on with
  | zero => exact .epoch
  | succ n earlier =>
      have isNext : (ofDay n).next = ofDay (n + 1) := by
        rw [← ofDay_toDay (next_isValid (ofDay_isValid n)), toDay_next (ofDay_isValid n), toDay_ofDay]
      exact isNext ▸ earlier.next
  | pred n later =>
      have isNext : (ofDay (-n - 1)).next = ofDay (-n) := by
        rw [← ofDay_toDay (next_isValid (ofDay_isValid (-n - 1))), toDay_next (ofDay_isValid _),
          toDay_ofDay, Int.sub_add_cancel]
      exact .previous (ofDay_isValid _) (isNext ▸ later)

theorem FallsOn.isValid_and_toDay (falls : date.FallsOn number) :
    date.IsValid ∧ date.toDay = number := by
  induction falls with
  | epoch => exact ⟨by decide, by decide⟩
  | next _ ih =>
      obtain ⟨valid, isDay⟩ := ih
      exact ⟨next_isValid valid, by rw [toDay_next valid, isDay]⟩
  | previous valid _ ih =>
      have isNext := toDay_next valid
      exact ⟨valid, by omega⟩

theorem fallsOn_iff_eq_ofDay : date.FallsOn number ↔ date = ofDay number := by
  constructor
  · intro falls
    obtain ⟨valid, isDay⟩ := falls.isValid_and_toDay
    rw [← isDay, ofDay_toDay valid]
  · intro isDate
    exact isDate ▸ fallsOn_ofDay number

end UptimeIntake.Calendar.Date
