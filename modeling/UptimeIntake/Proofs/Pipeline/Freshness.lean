import UptimeIntake.Proofs.Pipeline.Stages
import UptimeIntake.Proofs.Time.Instant

/-!
# Freshness on whole numbers

The tolerated skew is a word that is read with a sign, and it is taken off the creation time
before the clock is looked at. So the check can leave the range of instants, and settings in the
upper half of the words tolerate less than nothing. Everywhere else it decides as whole seconds
and nanoseconds do.
-/

set_option autoImplicit false

namespace UptimeIntake

/-! ## The skew -/

namespace LimitsConfig

theorem toInt_toInt64 (word : UInt64) :
    word.toInt64.toInt =
      if 2 * word.toNat < UInt64.size then (word.toNat : Int) else word.toNat - UInt64.size :=
  BitVec.toInt_eq_toNat_cond word.toBitVec

theorem timeDiffDelta?_eq_some {c : LimitsConfig} (isSpan : c.timeDiffDeltaSecs.toNat ≤ maxSpanSecs) :
    c.timeDiffDelta? = some (c.timeDiffDeltaSecs.toNat : Int) := by
  have bound : 2 * maxSpanSecs < UInt64.size := by decide
  have asRead : c.timeDiffDeltaSecs.toInt64.toInt = c.timeDiffDeltaSecs.toNat := by
    rw [toInt_toInt64, if_pos (by omega)]
  rw [timeDiffDelta?, asRead, Int.natAbs_natCast, if_pos isSpan]

/-- Settings in the lower half of the words are read as they stand, the others as too low by all
words. -/
theorem skew_eq {c : LimitsConfig} {skew : Int} (isSpan : c.timeDiffDelta? = some skew) :
    skew = if 2 * c.timeDiffDeltaSecs.toNat < UInt64.size then (c.timeDiffDeltaSecs.toNat : Int)
      else c.timeDiffDeltaSecs.toNat - UInt64.size := by
  simp only [timeDiffDelta?] at isSpan
  split at isSpan
  · rw [← toInt_toInt64]
    exact (Option.some.inj isSpan).symm
  · cases isSpan

end LimitsConfig

namespace Pipeline

variable {p : Pipeline} {now : Instant} {s : Submission}

/-- The skew can be taken off an instant; a leap second counts as the second behind it. -/
def Reaches (p : Pipeline) (t : Instant) : Prop :=
  Instant.firstSecond ≤
    t.secs + t.isLeapSecond.toNat - (p.config.limits.timeDiffDeltaSecs.toNat : Int)

instance (p : Pipeline) (t : Instant) : Decidable (p.Reaches t) :=
  inferInstanceAs (Decidable (_ ≤ _))

def withSkew (p : Pipeline) (secs : UInt64) : Pipeline :=
  { p with config := { p.config with limits := { p.config.limits with timeDiffDeltaSecs := secs } } }

private theorem skew_withSkew (p : Pipeline) (secs : UInt64) :
    (p.withSkew secs).config.limits.timeDiffDeltaSecs = secs := rfl

/-! ## The range -/

theorem earliest?_eq_none_iff (isSpan : p.config.limits.timeDiffDeltaSecs.toNat ≤ maxSpanSecs) :
    p.earliest? s = none ↔ ¬ p.Reaches s.data.createdAt := by
  rw [earliest?, LimitsConfig.timeDiffDelta?_eq_some isSpan, Option.bind_some,
    Instant.minusSeconds?_eq_none_iff (Int.natCast_nonneg _), Reaches, Int.not_le]

variable {σ : Type}

theorem process_eq_outOfRange_iff (p : Pipeline) (call : Call) (state : PipelineState σ) :
    (p.process call state).1 = .refused .outOfRange ↔
      ∃ s, Writes call.body s ∧ p.LetsIn s.submitter ∧ p.earliest? s = none := by
  constructor
  · intro overflowed
    obtain ⟨stage, fails, earlier⟩ := exists_failsFirst_of_refused overflowed
    cases fails with
    | overflow writes overflows =>
        obtain ⟨t, writes', isIn⟩ := earlier .registration (by decide)
        obtain rfl := writes.unique writes'
        exact ⟨_, writes, isIn, overflows⟩
  · rintro ⟨s, writes, isIn, overflows⟩
    have overflowsFirst : p.FailsFirst call state.attempts .freshness .outOfRange := by
      refine ⟨.overflow writes overflows, passes_before writes _ (fun _ => isIn) ?_ ?_⟩
      · exact fun before => absurd before (by decide)
      · exact fun before => absurd before (by decide)
    cases outcome : (p.process call state).1 with
    | accepted report =>
        obtain ⟨t, writes', _, timely, _⟩ := passes_of_accepted outcome
        obtain rfl := writes.unique writes'
        obtain ⟨earliest, reached, _⟩ := timely
        rw [overflows] at reached
        cases reached
    | refused cause =>
        obtain ⟨_, failsFirst⟩ := exists_failsFirst_of_refused outcome
        rw [failsFirst.unique overflowsFirst]

theorem process_of_outOfRange {call : Call} {state : PipelineState σ}
    (overflowed : (p.process call state).1 = .refused .outOfRange) :
    (p.process call state).2 = state := by
  rcases process_cases p call state with ⟨_, failed, shape⟩ | ⟨s, checked, full, shape⟩ |
    ⟨s, checked, room, shape⟩
  · rw [shape]
  · rw [shape] at overflowed
    cases overflowed
  · rw [shape] at overflowed
    cases overflowed

/-! ## The law -/

theorem checkFreshness_eq_future_iff {skew : Int} (isSpan : p.config.limits.timeDiffDelta? = some skew)
    (ordinary : s.data.createdAt.isLeapSecond = false)
    (answered : p.checkFreshness now s ≠ .error .outOfRange) :
    p.checkFreshness now s = .error (.rejected .futureTimestamp) ↔
      Instant.IsAhead skew now s.data.createdAt := by
  rw [checkFreshness_eq] at answered ⊢
  cases reached : p.earliest? s with
  | none =>
      rw [reached] at answered
      exact absurd rfl answered
  | some earliest =>
      have subtracted : s.data.createdAt.minusSeconds? skew = some earliest := by
        rwa [earliest?, isSpan, Option.bind_some] at reached
      obtain ⟨secs, nanos⟩ := Instant.parts_minusSeconds? ordinary subtracted
      have isLater : now.before earliest = true ↔ Instant.IsAhead skew now s.data.createdAt := by
        simp only [Instant.before, Instant.IsAhead, Bool.or_eq_true, Bool.and_eq_true,
          decide_eq_true_eq, secs, nanos]
        omega
      rw [← isLater]
      cases later : now.before earliest with
      | true => simp [later]
      | false => simp [later]

private theorem exists_skew_of_answered (answered : p.checkFreshness now s ≠ .error .outOfRange) :
    ∃ skew, p.config.limits.timeDiffDelta? = some skew := by
  cases isSpan : p.config.limits.timeDiffDelta? with
  | some skew => exact ⟨skew, rfl⟩
  | none =>
      have unreached : p.earliest? s = none := by rw [earliest?, isSpan, Option.bind_none]
      rw [checkFreshness_eq, unreached] at answered
      exact absurd rfl answered

/-! ## A wider skew -/

variable {secs : UInt64}

private theorem check_withSkew {body : Bytes} (checked : p.check now body = .ok s)
    (timely : (p.withSkew secs).IsTimely now s) : (p.withSkew secs).check now body = .ok s := by
  obtain ⟨writes, isIn, _, authentic⟩ := check_eq_ok_iff.1 checked
  exact check_eq_ok_iff.2 ⟨writes, isIn, timely, authentic⟩

private theorem process_eq_of_check_eq {q : Pipeline} {call : Call}
    (same : p.check call.now call.body = q.check call.now call.body) (sameQuota : p.quota = q.quota)
    (state : PipelineState σ) : p.process call state = q.process call state := by
  simp only [process, accept, same, sameQuota]

private theorem timely_withSkew {skew wider : Int} {earliest : Instant}
    (isSpan : p.config.limits.timeDiffDelta? = some skew)
    (isWiderSpan : (p.withSkew secs).config.limits.timeDiffDelta? = some wider)
    (notNegative : 0 ≤ skew) (ordered : skew ≤ wider) (timely : p.IsTimely now s)
    (reached : (p.withSkew secs).earliest? s = some earliest) :
    (p.withSkew secs).IsTimely now s := by
  obtain ⟨near, nearReached, nearTimely⟩ := timely
  refine ⟨earliest, reached, ?_⟩
  rw [earliest?, isSpan, Option.bind_some] at nearReached
  rw [earliest?, isWiderSpan, Option.bind_some] at reached
  have further := Instant.minusSeconds?_antitone notNegative ordered nearReached reached
  exact Instant.le_trans further nearTimely

/-- A submission that is accepted stays so when the skew grows within the lower half of the words,
unless the skew then leads out of range. -/
theorem process_withSkew {call : Call} {state : PipelineState σ} {report : SaveReport}
    (wider : p.config.limits.timeDiffDeltaSecs.toNat ≤ secs.toNat)
    (lower : 2 * secs.toNat < UInt64.size)
    (accepted : (p.process call state).1 = .accepted report) :
    (p.withSkew secs).process call state = p.process call state ∨
      (p.withSkew secs).process call state = (.refused .outOfRange, state) := by
  obtain ⟨s, writes, isIn, timely, authentic, room⟩ := passes_of_accepted accepted
  have checked : p.check call.now call.body = .ok s :=
    check_eq_ok_iff.2 ⟨writes, isIn, timely, authentic⟩
  cases reached : (p.withSkew secs).earliest? s with
  | none =>
      right
      have overflowed : ((p.withSkew secs).process call state).1 = .refused .outOfRange :=
        (process_eq_outOfRange_iff _ call state).2 ⟨s, writes, isIn, reached⟩
      exact Prod.ext overflowed (process_of_outOfRange overflowed)
  | some earliest =>
      left
      obtain ⟨skew, isSpan⟩ : ∃ skew, p.config.limits.timeDiffDelta? = some skew := by
        obtain ⟨_, near, _⟩ := timely
        obtain ⟨skew, isSpan, _⟩ := Option.bind_eq_some_iff.1 near
        exact ⟨skew, isSpan⟩
      obtain ⟨more, isWiderSpan, _⟩ := Option.bind_eq_some_iff.1 reached
      have skew_eq := LimitsConfig.skew_eq isSpan
      have more_eq := LimitsConfig.skew_eq isWiderSpan
      rw [if_pos (by omega)] at skew_eq
      rw [skew_withSkew, if_pos lower] at more_eq
      have stillTimely : (p.withSkew secs).IsTimely call.now s :=
        timely_withSkew isSpan isWiderSpan (by omega) (by omega) timely reached
      have same : (p.withSkew secs).check call.now call.body = p.check call.now call.body := by
        rw [check_withSkew checked stillTimely, checked]
      exact process_eq_of_check_eq same rfl state

/-! ## Results -/

/-- With a skew that is a span of time, a call is answered unless its submitter is let in and the
skew leads the creation time out of the range of instants. Then nothing has changed. -/
theorem answered_iff_creation_time_reaches (p : Pipeline)
    (isSpan : p.config.limits.timeDiffDeltaSecs.toNat ≤ maxSpanSecs) (call : Call)
    (state : PipelineState σ) :
    (((∃ report, (p.process call state).1 = .accepted report) ∨
        ∃ cause, (p.process call state).1 = .refused (.rejected cause)) ↔
      ∀ s, Writes call.body s → p.LetsIn s.submitter → p.Reaches s.data.createdAt) ∧
    ((p.process call state).1 = .refused .outOfRange ↔
      ∃ s, Writes call.body s ∧ p.LetsIn s.submitter ∧ ¬ p.Reaches s.data.createdAt) ∧
    ((p.process call state).1 = .refused .outOfRange → (p.process call state).2 = state) ∧
    ∀ t : Instant,
      (∃ earliest, p.config.limits.timeDiffDelta?.bind t.minusSeconds? = some earliest) ↔
        p.Reaches t := by
  have overflowed : (p.process call state).1 = .refused .outOfRange ↔
      ∃ s, Writes call.body s ∧ p.LetsIn s.submitter ∧ ¬ p.Reaches s.data.createdAt := by
    simp only [process_eq_outOfRange_iff, earliest?_eq_none_iff isSpan]
  refine ⟨?_, overflowed, process_of_outOfRange, fun t => ?_⟩
  · constructor
    · intro answered s writes isIn
      apply Decidable.byContradiction
      intro leaves
      have outside := overflowed.2 ⟨s, writes, isIn, leaves⟩
      rw [outside] at answered
      rcases answered with ⟨_, same⟩ | ⟨_, same⟩
      · cases same
      · cases same
    · intro reaches
      cases outcome : (p.process call state).1 with
      | accepted report => exact .inl ⟨report, rfl⟩
      | refused cause =>
          cases cause with
          | rejected cause => exact .inr ⟨cause, rfl⟩
          | outOfRange =>
              obtain ⟨s, writes, isIn, leaves⟩ := overflowed.1 outcome
              exact absurd (reaches s writes isIn) leaves
  · rw [LimitsConfig.timeDiffDelta?_eq_some isSpan, Option.bind_some,
      ← Option.ne_none_iff_exists', ne_eq,
      Instant.minusSeconds?_eq_none_iff (Int.natCast_nonneg _), Reaches, Int.not_lt]

private def secondStart (secs : Int) (inRange : (Instant.ofParts? secs 0).isSome = true) :
    Instant :=
  (Instant.ofParts? secs 0).get inRange

private def firstInstant : Instant :=
  secondStart Instant.firstSecond (by decide)

private def untouched : PipelineState Unit := ⟨.empty, []⟩

/-- The usual settings, and a submission created in the first second of all. -/
theorem unanswered_in_first_second :
    let p := unguarded {} ⟨1, 10⟩
    p.config.validate = .ok () ∧ p.config.limits.timeDiffDeltaSecs.toNat ≤ maxSpanSecs ∧
      (p.process ⟨bareBody "-262143-01-01T00:00:00Z", "", firstInstant, 0⟩ untouched).1 =
        .refused .outOfRange := by
  refine ⟨rfl, by decide, ?_⟩
  decide +kernel

theorem answered_iff_creation_time_reaches_at_edge :
    let p := unguarded {} ⟨1, 10⟩
    let call := fun time => Call.mk (bareBody time) "" firstInstant 0
    p.config.limits.timeDiffDeltaSecs.toNat ≤ maxSpanSecs ∧
      (∃ s, Writes (bareBody "-262143-01-01T00:04:59Z") s ∧ ¬ p.Reaches s.data.createdAt) ∧
      (p.process (call "-262143-01-01T00:05:00Z") untouched).1 = .accepted ⟨[]⟩ ∧
      ∀ s, Writes (bareBody "-262143-01-01T00:05:00Z") s → p.Reaches s.data.createdAt := by
  intro p call
  have isSpan : p.config.limits.timeDiffDeltaSecs.toNat ≤ maxSpanSecs := by decide
  have early : (p.process (call "-262143-01-01T00:04:59Z") untouched).1 = .refused .outOfRange := by
    decide +kernel
  have late : (p.process (call "-262143-01-01T00:05:00Z") untouched).1 = .accepted ⟨[]⟩ := by
    decide +kernel
  obtain ⟨_, overflowed, _, _⟩ := answered_iff_creation_time_reaches p isSpan (call _) untouched
  obtain ⟨answered, _, _, _⟩ := answered_iff_creation_time_reaches p isSpan (call _) untouched
  obtain ⟨s, writes, _, leaves⟩ := overflowed.1 early
  refine ⟨isSpan, ⟨s, writes, leaves⟩, late, fun s writes => ?_⟩
  exact answered.1 (.inl ⟨_, late⟩) s writes (.inl rfl)

/-- Where the check answers, it refuses a creation time exactly if it lies further ahead of the
clock than the skew, which is the setting in the lower half of the words and negative in the upper
half. Within the lower half a larger setting refuses nothing that was accepted. -/
theorem future_iff_ahead_by_signed_skew (p : Pipeline) :
    (∀ now s, s.data.createdAt.isLeapSecond = false →
      p.checkFreshness now s ≠ .error .outOfRange →
      (2 * p.config.limits.timeDiffDeltaSecs.toNat < UInt64.size →
        (p.checkFreshness now s = .error (.rejected .futureTimestamp) ↔
          Instant.IsAhead p.config.limits.timeDiffDeltaSecs.toNat now s.data.createdAt) ∧
        (now.isLeapSecond = false →
          (p.checkFreshness now s = .error (.rejected .futureTimestamp) ↔
            now.nanoseconds + p.config.limits.timeDiffDeltaSecs.toNat * 1000000000 <
              s.data.createdAt.nanoseconds))) ∧
      (UInt64.size ≤ 2 * p.config.limits.timeDiffDeltaSecs.toNat →
        (p.checkFreshness now s = .error (.rejected .futureTimestamp) ↔
          Instant.IsAhead (p.config.limits.timeDiffDeltaSecs.toNat - UInt64.size) now
            s.data.createdAt))) ∧
    ∀ (secs : UInt64) (call : Call) (state : PipelineState σ) (report : SaveReport),
      p.config.limits.timeDiffDeltaSecs.toNat ≤ secs.toNat → 2 * secs.toNat < UInt64.size →
      (p.process call state).1 = .accepted report →
        (p.withSkew secs).process call state = p.process call state ∨
          (p.withSkew secs).process call state = (.refused .outOfRange, state) := by
  refine ⟨fun now s ordinary answered => ?_, fun secs call state report => process_withSkew⟩
  obtain ⟨skew, isSpan⟩ := exists_skew_of_answered answered
  have law := checkFreshness_eq_future_iff isSpan ordinary answered
  have asRead := LimitsConfig.skew_eq isSpan
  constructor
  · intro lower
    rw [if_pos lower] at asRead
    subst asRead
    refine ⟨law, fun clock => ?_⟩
    rw [law, Instant.isAhead_iff_nanoseconds clock ordinary]
  · intro upper
    rw [if_neg (Nat.not_lt.2 upper)] at asRead
    subst asRead
    exact law

private def present : Instant :=
  secondStart 1709287200 (by decide)

private def ahead : Instant :=
  secondStart 1709287501 (by decide)

private def submissionAt (createdAt : Instant) : Submission :=
  ⟨.zero 32, .zero 64, ⟨"p", [1], createdAt, none, none, none⟩⟩

/-- The largest setting tolerates minus one second: a submission created at this moment is refused,
although a skew of five minutes lets it pass. -/
theorem widest_skew_refuses_present :
    let p := unguarded { timeDiffDeltaSecs := 18446744073709551615 } ⟨1, 10⟩
    let call := Call.mk (bareBody "2024-03-01T10:00:00Z") "" present 0
    p.config.validate = .ok () ∧ present.isLeapSecond = false ∧
      p.checkFreshness present (submissionAt present) = .error (.rejected .futureTimestamp) ∧
      ¬ Instant.IsAhead 18446744073709551615 present present ∧
      (p.process call untouched).1 = .refused (.rejected .futureTimestamp) ∧
      ((p.withSkew 300).process call untouched).1 = .accepted ⟨[]⟩ := by
  refine ⟨rfl, by decide, rfl, by decide, ?_, ?_⟩
  · decide +kernel
  · decide +kernel

theorem future_iff_ahead_by_signed_skew_at_edge :
    let p := unguarded {} ⟨1, 10⟩
    let call := Call.mk (bareBody "2024-03-01T10:05:00Z") "" present 0
    p.checkFreshness present (submissionAt ahead) = .error (.rejected .futureTimestamp) ∧
      Instant.IsAhead 300 present ahead ∧
      (p.process call untouched).1 = .accepted ⟨[]⟩ ∧
      ((p.withSkew 600).process call untouched = p.process call untouched ∨
        (p.withSkew 600).process call untouched = (.refused .outOfRange, untouched)) := by
  intro p call
  obtain ⟨law, monotone⟩ := future_iff_ahead_by_signed_skew (σ := Unit) p
  have refused : p.checkFreshness present (submissionAt ahead) =
      .error (.rejected .futureTimestamp) := rfl
  have accepted : (p.process call untouched).1 = .accepted ⟨[]⟩ := by decide +kernel
  obtain ⟨lower, _⟩ := law present (submissionAt ahead) (by decide) (by rw [refused]; simp)
  obtain ⟨isAhead, _⟩ := lower (by decide)
  exact ⟨refused, isAhead.1 refused, accepted,
    monotone 600 call untouched ⟨[]⟩ (by decide) (by decide) accepted⟩

end Pipeline

end UptimeIntake
