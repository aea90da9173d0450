import UptimeIntake.Time.Calendar

/-!
# The calendar in both directions

Every day number is a date that exists, and counting the days up to this date gives the number
back. The year found from the mean length of a year is off by at most one, so that the three
candidates cover all days.
-/

set_option autoImplicit false

namespace UptimeIntake.Calendar

/-! ## Years -/

theorem isLeap_iff (year : Int) :
    isLeap year = true ↔ year % 4 = 0 ∧ (year % 100 ≠ 0 ∨ year % 400 = 0) := by
  simp [isLeap]

def yearLength (leap : Bool) : Nat :=
  if leap then 366 else 365

theorem yearStart_succ (year : Int) :
    yearStart (year + 1) = yearStart year + yearLength (isLeap year) := by
  cases leap : isLeap year with
  | true =>
      have rule := (isLeap_iff year).1 leap
      simp only [yearStart, yearLength, if_true]
      omega
  | false =>
      have rule := mt (isLeap_iff year).2 (by simp [leap])
      simp only [yearStart, yearLength, Bool.false_eq_true, if_false]
      omega

theorem yearStart_mono {first second : Int} (ordered : first ≤ second) :
    yearStart first ≤ yearStart second := by
  obtain ⟨years, rfl⟩ := Int.le.dest ordered
  clear ordered
  induction years with
  | zero => simp
  | succ years ih =>
      have next := yearStart_succ (first + years)
      rw [Int.natCast_succ, ← Int.add_assoc]
      omega

/-- The year of a day: the day is not before its start and before that of the next. -/
theorem yearOf_spec (day : Int) :
    yearStart (yearOf day) ≤ day ∧ day < yearStart (yearOf day + 1) := by
  have low : yearStart (1970 + day * 400 / 146097 - 1) ≤ day := by
    simp only [yearStart]
    omega
  have high : day < yearStart (1970 + day * 400 / 146097 + 1 + 1) := by
    simp only [yearStart]
    omega
  simp only [yearOf]
  generalize 1970 + day * 400 / 146097 = mean at low high
  split
  · next before => exact ⟨low, by rwa [Int.sub_add_cancel]⟩
  split
  · next notBefore before => exact ⟨Int.not_lt.1 notBefore, before⟩
  · next _ notBefore => exact ⟨Int.not_lt.1 notBefore, high⟩

theorem le_yearOf {year day : Int} (reached : yearStart year ≤ day) : year ≤ yearOf day := by
  rcases Int.lt_or_le (yearOf day) year with later | within
  · have notReached := yearStart_mono (show yearOf day + 1 ≤ year from later)
    have spec := yearOf_spec day
    omega
  · exact within

theorem yearOf_lt {year day : Int} (notReached : day < yearStart year) : yearOf day < year := by
  rcases Int.lt_or_le (yearOf day) year with within | reached
  · exact within
  · have started := yearStart_mono reached
    have spec := yearOf_spec day
    omega

/-! ## Months -/

theorem monthLength_bounds (leap : Bool) (month : Nat) :
    1 ≤ monthLength leap month ∧ monthLength leap month ≤ 31 := by
  unfold monthLength
  split <;> (try split) <;> decide

/-- The month of a day of the year: it exists, and the day lies in it. -/
theorem monthOf_spec (leap : Bool) {offset : Nat} (inYear : offset < yearLength leap) :
    (1 ≤ monthOf leap offset ∧ monthOf leap offset ≤ 12) ∧
      monthStart leap (monthOf leap offset) ≤ offset ∧
      offset < monthStart leap (monthOf leap offset) +
        monthLength leap (monthOf leap offset) := by
  have all : ∀ leap, ∀ day < yearLength leap,
      (1 ≤ monthOf leap day ∧ monthOf leap day ≤ 12) ∧
        monthStart leap (monthOf leap day) ≤ day ∧
        day < monthStart leap (monthOf leap day) + monthLength leap (monthOf leap day) := by
    decide +kernel
  exact all leap offset inYear

/-! ## Dates -/

theorem Date.day_lt {date : Date} (valid : date.IsValid) : date.day < 100 := by
  have longest := (monthLength_bounds (isLeap date.year) date.month).2
  exact Nat.lt_of_le_of_lt (Nat.le_trans valid.2.2 longest) (by decide)

theorem offset_lt (day : Int) : (day - yearStart (yearOf day)).toNat < yearLength (isLeap (yearOf day)) := by
  have spec := yearOf_spec day
  rw [yearStart_succ] at spec
  omega

theorem ofDay_isValid (day : Int) : (Date.ofDay day).IsValid := by
  obtain ⟨month, first, last⟩ := monthOf_spec _ (offset_lt day)
  refine ⟨month, ?_⟩
  simp only [Date.ofDay]
  omega

theorem toDay_ofDay (day : Int) : (Date.ofDay day).toDay = day := by
  obtain ⟨month, first, last⟩ := monthOf_spec _ (offset_lt day)
  have spec := yearOf_spec day
  simp only [Date.toDay, Date.ofDay]
  omega

end UptimeIntake.Calendar
