import UptimeIntake.Time.Instant

/-!
# Instants in seconds and nanoseconds

An instant is its two numbers. Its second is the part that written times keep, and taking seconds
away from it is a subtraction of whole numbers wherever the result is in range.
-/

set_option autoImplicit false

namespace UptimeIntake.Instant

theorem eq_of_parts_eq : ∀ {s t : Instant}, s.secs = t.secs → s.nanos = t.nanos → s = t
  | ⟨_, _, _, _, _⟩, ⟨_, _, _, _, _⟩, rfl, rfl => rfl

theorem ofParts?_parts (t : Instant) : ofParts? t.secs t.nanos = some t := by
  rw [ofParts?, dif_pos ⟨t.nanos_lt, t.first_le, t.le_last⟩]

theorem parts_of_ofParts? {secs : Int} {nanos : Nat} {t : Instant}
    (made : ofParts? secs nanos = some t) : t.secs = secs ∧ t.nanos = nanos := by
  unfold ofParts? at made
  split at made
  · cases made
    exact ⟨rfl, rfl⟩
  · cases made

theorem ofParts?_eq_none_iff {secs : Int} {nanos : Nat} (ordinary : nanos < 1000000000) :
    ofParts? secs nanos = none ↔ secs < firstSecond ∨ lastSecond < secs := by
  unfold ofParts?
  split
  · next inRange =>
      obtain ⟨_, first, last⟩ := inRange
      simp only [reduceCtorEq, false_iff]
      omega
  · next outside =>
      simp only [true_iff]
      apply Decidable.byContradiction
      intro inRange
      exact outside ⟨by omega, by omega, by omega⟩

/-! ## Order -/

theorem le_trans {s t u : Instant} (first : s ≤ t) (second : t ≤ u) : s ≤ u := by
  have le_iff (s t : Instant) : s ≤ t ↔ s.secs < t.secs ∨ s.secs = t.secs ∧ s.nanos ≤ t.nanos :=
    Iff.rfl
  rw [le_iff] at first second ⊢
  omega

/-! ## Seconds -/

theorem isLeapSecond_eq_false_iff {t : Instant} :
    t.isLeapSecond = false ↔ t.nanos < 1000000000 := by
  rw [isLeapSecond, decide_eq_false_iff_not, Nat.not_le]

theorem isLeapSecond_eq_true_iff {t : Instant} :
    t.isLeapSecond = true ↔ 1000000000 ≤ t.nanos := by
  rw [isLeapSecond, decide_eq_true_iff]

theorem nanos_floorSecond (t : Instant) :
    t.floorSecond.nanos = 1000000000 * t.floorSecond.isLeapSecond.toNat := by
  by_cases shown : t.isLeapSecond = true ∧ t.secs % 60 = 59
  · have nanos : t.floorSecond.nanos = 1000000000 := if_pos shown
    simp [isLeapSecond, nanos]
  · have nanos : t.floorSecond.nanos = 0 := if_neg shown
    simp [isLeapSecond, nanos]

theorem isLeapSecond_floorSecond_iff {t : Instant} :
    t.floorSecond.isLeapSecond = true ↔ t.isLeapSecond = true ∧ t.secs % 60 = 59 := by
  by_cases shown : t.isLeapSecond = true ∧ t.secs % 60 = 59
  · have nanos : t.floorSecond.nanos = 1000000000 := if_pos shown
    exact iff_of_true (isLeapSecond_eq_true_iff.2 (Nat.le_of_eq nanos.symm)) shown
  · have nanos : t.floorSecond.nanos = 0 := if_neg shown
    refine iff_of_false (fun leap => ?_) shown
    rw [isLeapSecond_eq_true_iff, nanos] at leap
    cases leap

/-- The second that a clock shows begins at the second itself, or one later if it is a leap second
that the clock does not show as `:60`. -/
theorem secs_floorSecond (t : Instant) :
    t.floorSecond.secs = t.secs ∧ t.floorSecond.isLeapSecond = t.isLeapSecond ∧
        (t.isLeapSecond = true → t.secs % 60 = 59) ∨
      t.floorSecond.secs = t.secs + 1 ∧ t.floorSecond.isLeapSecond = false ∧
        t.isLeapSecond = true ∧ t.secs % 60 ≠ 59 := by
  by_cases between : t.isLeapSecond = true ∧ t.secs % 60 ≠ 59
  · refine .inr ⟨if_pos between, Bool.eq_false_iff.2 fun leap => ?_, between⟩
    exact between.2 (isLeapSecond_floorSecond_iff.1 leap).2
  · have ends (leap : t.isLeapSecond = true) : t.secs % 60 = 59 :=
      Decidable.byContradiction fun inside => between ⟨leap, inside⟩
    refine .inl ⟨if_neg between, Bool.eq_iff_iff.2 ?_, ends⟩
    rw [isLeapSecond_floorSecond_iff]
    exact ⟨And.left, fun leap => ⟨leap, ends leap⟩⟩

/-- In the second that a clock shows, a leap second ends a minute. -/
theorem secs_mod_of_isLeapSecond_floorSecond {t : Instant}
    (leap : t.floorSecond.isLeapSecond = true) : t.floorSecond.secs % 60 = 59 := by
  rcases t.secs_floorSecond with ⟨secs, sameLeap, ends⟩ | ⟨_, noLeap, _⟩
  · rw [secs]
    exact ends (sameLeap.symm.trans leap)
  · rw [noLeap] at leap
    cases leap

/-- An instant at the start of a second that a clock shows. -/
theorem floorSecond_eq_self {t : Instant} (ends : t.isLeapSecond = true → t.secs % 60 = 59)
    (nanos : t.nanos = 1000000000 * t.isLeapSecond.toNat) : t.floorSecond = t := by
  rcases t.secs_floorSecond with ⟨secs, sameLeap, _⟩ | ⟨_, _, leap, last⟩
  · exact eq_of_parts_eq secs (by rw [nanos_floorSecond, sameLeap, nanos])
  · exact absurd (ends leap) last

@[simp] theorem floorSecond_floorSecond (t : Instant) : t.floorSecond.floorSecond = t.floorSecond :=
  floorSecond_eq_self secs_mod_of_isLeapSecond_floorSecond (nanos_floorSecond t)

theorem sameSecond_of_parts {s t : Instant} (secs : s.secs = t.secs)
    (leap : s.isLeapSecond = t.isLeapSecond) : s.SameSecond t := by
  refine eq_of_parts_eq ?_ ?_ <;> simp only [floorSecond, secs, leap]

theorem sameSecond_floorSecond (t : Instant) : t.floorSecond.SameSecond t :=
  floorSecond_floorSecond t

/-- On a clock that is whole minutes ahead of UTC the instant has the date, the minute and the
second of the second that is shown. -/
theorem clock_floorSecond (t : Instant) {offset : Int} (whole : offset % 60 = 0) :
    let shown := ((t.floorSecond.secs + offset) % 86400).toNat
    let second := ((t.secs + offset) % 86400).toNat
    (t.floorSecond.secs + offset) / 86400 = (t.secs + offset) / 86400 ∧
      shown / 60 = second / 60 ∧
      shown % 60 + t.floorSecond.isLeapSecond.toNat = second % 60 + t.isLeapSecond.toNat := by
  intro shown second
  rcases t.secs_floorSecond with ⟨secs, sameLeap, _⟩ | ⟨secs, noLeap, leap, last⟩
  · simp only [shown, second, secs, sameLeap, and_self]
  · simp only [shown, second, secs, noLeap, leap, Bool.toNat_false, Bool.toNat_true]
    omega

/-! ## Subtraction -/

/-- Away from leap seconds only whole seconds are taken away, whatever the sign. -/
theorem parts_minusSeconds? {t earlier : Instant} {delta : Int} (ordinary : t.isLeapSecond = false)
    (reached : t.minusSeconds? delta = some earlier) :
    earlier.secs = t.secs - delta ∧ earlier.nanos = t.nanos := by
  have small := isLeapSecond_eq_false_iff.1 ordinary
  by_cases zero : delta = 0
  · rw [minusSeconds?, if_pos zero] at reached
    cases reached
    exact ⟨by omega, rfl⟩
  · rw [minusSeconds?, if_neg zero, if_pos small] at reached
    exact parts_of_ofParts? reached

/-- Going back from a leap second starts at the second behind it. -/
theorem parts_minusSeconds?_of_pos {t earlier : Instant} {delta : Int} (positive : 0 < delta)
    (reached : t.minusSeconds? delta = some earlier) :
    earlier.secs = t.secs + t.isLeapSecond.toNat - delta ∧
      earlier.nanos = t.nanos - 1000000000 * t.isLeapSecond.toNat := by
  cases leap : t.isLeapSecond with
  | false =>
      obtain ⟨secs, nanos⟩ := parts_minusSeconds? leap reached
      simp only [Bool.toNat_false]
      omega
  | true =>
      have large := isLeapSecond_eq_true_iff.1 leap
      rw [minusSeconds?, if_neg (Int.ne_of_gt positive), if_neg (Nat.not_lt.2 large),
        if_pos positive] at reached
      obtain ⟨secs, nanos⟩ := parts_of_ofParts? reached
      simp only [Bool.toNat_true]
      omega

/-- Going back leaves the range at its lower end only. -/
theorem minusSeconds?_eq_none_iff {t : Instant} {delta : Int} (notNegative : 0 ≤ delta) :
    t.minusSeconds? delta = none ↔ t.secs + t.isLeapSecond.toNat - delta < firstSecond := by
  have first := t.first_le
  have last := t.le_last
  have leap_lt := t.nanos_lt
  by_cases zero : delta = 0
  · rw [minusSeconds?, if_pos zero]
    simp only [reduceCtorEq, false_iff]
    omega
  rw [minusSeconds?, if_neg zero]
  cases leap : t.isLeapSecond with
  | false =>
      have small := isLeapSecond_eq_false_iff.1 leap
      rw [if_pos small, ofParts?_eq_none_iff small, Bool.toNat_false]
      omega
  | true =>
      have large := isLeapSecond_eq_true_iff.1 leap
      have positive : 0 < delta := by omega
      rw [if_neg (Nat.not_lt.2 large), if_pos positive, ofParts?_eq_none_iff (by omega),
        Bool.toNat_true]
      omega

theorem minusSeconds?_antitone {t near far : Instant} {less more : Int} (notNegative : 0 ≤ less)
    (ordered : less ≤ more) (nearReached : t.minusSeconds? less = some near)
    (farReached : t.minusSeconds? more = some far) : far ≤ near := by
  have le_iff : far ≤ near ↔ far.secs < near.secs ∨ far.secs = near.secs ∧ far.nanos ≤ near.nanos :=
    Iff.rfl
  rw [le_iff]
  rcases Int.le_iff_eq_or_lt.1 notNegative with rfl | positive
  · obtain rfl : t = near := Option.some.inj nearReached
    rcases Int.le_iff_eq_or_lt.1 ordered with rfl | positive
    · obtain rfl : t = far := Option.some.inj farReached
      exact .inr ⟨rfl, Nat.le_refl _⟩
    · obtain ⟨secs, nanos⟩ := parts_minusSeconds?_of_pos positive farReached
      have leap_le := Bool.toNat_le t.isLeapSecond
      omega
  · obtain ⟨nearSecs, nearNanos⟩ := parts_minusSeconds?_of_pos positive nearReached
    obtain ⟨farSecs, farNanos⟩ :=
      parts_minusSeconds?_of_pos (Int.lt_of_lt_of_le positive ordered) farReached
    omega

/-! ## Distance -/

/-- The instant lies more than `delta` seconds after `now`. Seconds are compared first, so that a
leap second lies before the second that follows it. -/
def IsAhead (delta : Int) (now t : Instant) : Prop :=
  now.secs + delta < t.secs ∨ now.secs + delta = t.secs ∧ now.nanos < t.nanos

instance (delta : Int) (now t : Instant) : Decidable (IsAhead delta now t) :=
  inferInstanceAs (Decidable (_ ∨ _))

/-- Nanoseconds since the start of 1970, without leap seconds. -/
def nanoseconds (t : Instant) : Int :=
  t.secs * 1000000000 + t.nanos

theorem isAhead_iff_nanoseconds {delta : Int} {now t : Instant} (clock : now.isLeapSecond = false)
    (ordinary : t.isLeapSecond = false) :
    IsAhead delta now t ↔ now.nanoseconds + delta * 1000000000 < t.nanoseconds := by
  have small := isLeapSecond_eq_false_iff.1 clock
  have small' := isLeapSecond_eq_false_iff.1 ordinary
  simp only [IsAhead, nanoseconds]
  omega

end UptimeIntake.Instant
