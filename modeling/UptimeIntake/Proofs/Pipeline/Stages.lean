import UptimeIntake.Proofs.Pipeline.Checks

/-!
# The order of the stages

The six stages that a body passes before it is saved. The first that fails decides the outcome;
only a body that passes all is accepted, and only then is anything saved or recorded.
-/

set_option autoImplicit false

namespace UptimeIntake

inductive Stage where
  | decoding
  | fields
  | registration
  | freshness
  | signature
  | quota
  deriving DecidableEq

def Stage.rank : Stage → Nat
  | decoding => 0
  | fields => 1
  | registration => 2
  | freshness => 3
  | signature => 4
  | quota => 5

theorem Stage.rank_injective {first second : Stage} (same : first.rank = second.rank) :
    first = second := by
  cases first <;> cases second <;> first | rfl | cases same

namespace Pipeline

/-- A call passes a stage. A stage behind that of the fields is passed by the submission that the
body writes. -/
def Passes (p : Pipeline) (call : Call) (attempts : AttemptTable) : Stage → Prop
  | .decoding => ∃ r, Request.decode? call.body = some r
  | .fields => ∃ s, Writes call.body s
  | .registration => ∃ s, Writes call.body s ∧ p.LetsIn s.submitter
  | .freshness => ∃ s, Writes call.body s ∧ p.IsTimely call.now s
  | .signature => ∃ s, Writes call.body s ∧ p.IsAuthentic s
  | .quota => ∃ s, Writes call.body s ∧ p.HasRoom call.moment attempts s.submitter

/-- A call fails a stage, with what it is then told. -/
inductive Fails (p : Pipeline) (call : Call) (attempts : AttemptTable) : Stage → Refusal → Prop
  | decoding : Request.decode? call.body = none →
      Fails p call attempts .decoding (.rejected .decode)
  | fields {r} : Request.decode? call.body = some r → r.Lacks →
      Fails p call attempts .fields (.rejected .missingFields)
  | registration {s} : Writes call.body s → ¬ p.LetsIn s.submitter →
      Fails p call attempts .registration (.rejected (.notRegistered s.submitter))
  | overflow {s} : Writes call.body s → p.earliest? s = none →
      Fails p call attempts .freshness .outOfRange
  | freshness {s earliest} : Writes call.body s → p.earliest? s = some earliest →
      ¬ earliest ≤ call.now → Fails p call attempts .freshness (.rejected .futureTimestamp)
  | verifier {s} : Writes call.body s → p.config.verifySignatureDisabled = false →
      p.verifier = none →
      Fails p call attempts .signature (.rejected (.internal "no signature verifier"))
  | signature {s verify} : Writes call.body s → p.config.verifySignatureDisabled = false →
      p.verifier = some verify → verify (p.signatureQuery s) = false →
      Fails p call attempts .signature (.rejected .invalidSignature)
  | quota {s} : Writes call.body s → ¬ p.HasRoom call.moment attempts s.submitter →
      Fails p call attempts .quota (.rejected .rateLimited)

/-- The stage fails and all before it are passed. -/
def FailsFirst (p : Pipeline) (call : Call) (attempts : AttemptTable) (stage : Stage)
    (cause : Refusal) : Prop :=
  p.Fails call attempts stage cause ∧
    ∀ earlier : Stage, earlier.rank < stage.rank → p.Passes call attempts earlier

variable {p : Pipeline} {call : Call} {attempts : AttemptTable} {stage : Stage} {cause : Refusal}

theorem Writes.decoded {body : Bytes} {s : Submission} (writes : Writes body s) :
    ∃ r, Request.decode? body = some r := by
  obtain ⟨r, decoded, _⟩ := writes
  exact ⟨r, decoded⟩

theorem Fails.not_passes (fails : p.Fails call attempts stage cause) :
    ¬ p.Passes call attempts stage := by
  intro passes
  cases fails with
  | decoding undecoded =>
      obtain ⟨r, decoded⟩ := passes
      rw [undecoded] at decoded
      cases decoded
  | fields decoded lacks =>
      obtain ⟨s, r, decoded', completes⟩ := passes
      obtain rfl := Option.some.inj (decoded.symm.trans decoded')
      exact completes.not_lacks lacks
  | registration writes out =>
      obtain ⟨s, writes', isIn⟩ := passes
      exact out (writes'.unique writes ▸ isIn)
  | overflow writes overflows =>
      obtain ⟨s, writes', earliest, reached, _⟩ := passes
      rw [writes'.unique writes, overflows] at reached
      cases reached
  | freshness writes reached late =>
      obtain ⟨s, writes', earliest, reached', timely⟩ := passes
      rw [writes'.unique writes, reached] at reached'
      exact late (Option.some.inj reached' ▸ timely)
  | verifier _ enabled missing =>
      obtain ⟨s, _, disabled | ⟨verify, present, _⟩⟩ := passes
      · rw [enabled] at disabled
        cases disabled
      · rw [missing] at present
        cases present
  | signature writes enabled present refused =>
      obtain ⟨s, writes', disabled | ⟨verify, present', accepts⟩⟩ := passes
      · rw [enabled] at disabled
        cases disabled
      · rw [present] at present'
        obtain rfl := Option.some.inj present'
        rw [writes'.unique writes] at accepts
        exact absurd accepts (by simpa [signatureQuery] using refused)
  | quota writes full =>
      obtain ⟨s, writes', room⟩ := passes
      exact full (writes'.unique writes ▸ room)

private theorem Fails.cause_unique {other : Refusal} (first : p.Fails call attempts stage cause)
    (second : p.Fails call attempts stage other) : cause = other := by
  cases first with
  | decoding => cases second; rfl
  | fields => cases second; rfl
  | registration writes _ =>
      cases second with
      | registration writes' _ => rw [writes.unique writes']
  | overflow writes overflows =>
      cases second with
      | overflow => rfl
      | freshness writes' reached _ =>
          rw [writes.unique writes', reached] at overflows
          cases overflows
  | freshness writes reached _ =>
      cases second with
      | freshness => rfl
      | overflow writes' overflows =>
          rw [writes.unique writes', overflows] at reached
          cases reached
  | verifier _ _ missing =>
      cases second with
      | verifier => rfl
      | signature _ _ present _ =>
          rw [missing] at present
          cases present
  | signature _ _ present _ =>
      cases second with
      | signature => rfl
      | verifier _ _ missing =>
          rw [missing] at present
          cases present
  | quota => cases second; rfl

theorem FailsFirst.unique {other : Stage} {otherCause : Refusal}
    (first : p.FailsFirst call attempts stage cause)
    (second : p.FailsFirst call attempts other otherCause) : cause = otherCause := by
  rcases Nat.lt_trichotomy stage.rank other.rank with before | same | after
  · exact absurd (second.2 stage before) first.1.not_passes
  · obtain rfl := Stage.rank_injective same
    exact first.1.cause_unique second.1
  · exact absurd (first.2 other after) second.1.not_passes

/-- The stages before a stage are passed by a submission that meets the conditions of those
before it. -/
theorem passes_before {s : Submission} (writes : Writes call.body s) (stage : Stage)
    (isIn : Stage.registration.rank < stage.rank → p.LetsIn s.submitter)
    (timely : Stage.freshness.rank < stage.rank → p.IsTimely call.now s)
    (authentic : Stage.signature.rank < stage.rank → p.IsAuthentic s) :
    ∀ earlier : Stage, earlier.rank < stage.rank → p.Passes call attempts earlier := by
  intro earlier before
  cases earlier with
  | decoding => exact writes.decoded
  | fields => exact ⟨s, writes⟩
  | registration => exact ⟨s, writes, isIn before⟩
  | freshness => exact ⟨s, writes, timely before⟩
  | signature => exact ⟨s, writes, authentic before⟩
  | quota => cases stage <;> cases before <;> contradiction

/-! ## What a call comes to -/

/-- The checks fail at the first stage that is not passed. -/
theorem failsFirst_of_check_eq_error (failed : p.check call.now call.body = .error cause) :
    ∃ stage, p.FailsFirst call attempts stage cause := by
  rcases check_eq_error failed with unread | ⟨s, writes, out | ⟨isIn, stale | ⟨timely, forged⟩⟩⟩
  · rcases readSubmission_eq_error unread with ⟨undecoded, rfl⟩ | ⟨r, decoded, lacks, rfl⟩
    · refine ⟨.decoding, .decoding undecoded, ?_⟩
      intro earlier before
      cases before
    · refine ⟨.fields, .fields decoded lacks, ?_⟩
      intro earlier before
      obtain rfl : earlier = .decoding := Stage.rank_injective (Nat.lt_one_iff.1 before)
      exact ⟨r, decoded⟩
  · obtain ⟨isOut, rfl⟩ := checkRegistration_eq_error out
    refine ⟨.registration, .registration writes isOut, passes_before writes _ ?_ ?_ ?_⟩
    · exact fun before => absurd before (by decide)
    · exact fun before => absurd before (by decide)
    · exact fun before => absurd before (by decide)
  · refine ⟨.freshness, ?_, passes_before writes _ (fun _ => isIn) ?_ ?_⟩
    · rcases checkFreshness_eq_error stale with ⟨overflows, rfl⟩ | ⟨earliest, reached, late, rfl⟩
      · exact .overflow writes overflows
      · exact .freshness writes reached late
    · exact fun before => absurd before (by decide)
    · exact fun before => absurd before (by decide)
  · refine ⟨.signature, ?_, passes_before writes _ (fun _ => isIn) (fun _ => timely) ?_⟩
    · obtain ⟨enabled, ⟨missing, rfl⟩ | ⟨verify, present, refused, rfl⟩⟩ :=
        checkSignature_eq_error forged
      · exact .verifier writes enabled missing
      · exact .signature writes enabled present refused
    · exact fun before => absurd before (by decide)

theorem record_fst_iff {key : SubmitterKey} {moment : Moment} :
    (attempts.record p.quota key moment).1 = true ↔ p.HasRoom moment attempts key := by
  rw [AttemptTable.record_fst, decide_eq_true_eq, HasRoom]

variable {σ : Type}

theorem exists_failsFirst_of_refused {state : PipelineState σ}
    (refused : (p.process call state).1 = .refused cause) :
    ∃ stage, p.FailsFirst call state.attempts stage cause := by
  rcases process_cases p call state with ⟨_, failed, shape⟩ | ⟨s, checked, full, shape⟩ |
    ⟨s, checked, room, shape⟩
  · rw [shape] at refused
    cases refused
    exact failsFirst_of_check_eq_error failed
  · rw [shape] at refused
    cases refused
    obtain ⟨writes, isIn, timely, authentic⟩ := check_eq_ok_iff.1 checked
    refine ⟨.quota, .quota writes ?_,
      passes_before writes _ (fun _ => isIn) (fun _ => timely) (fun _ => authentic)⟩
    rw [← record_fst_iff, full]
    exact Bool.false_ne_true
  · rw [shape] at refused
    cases refused

theorem passes_of_accepted {state : PipelineState σ} {report : SaveReport}
    (accepted : (p.process call state).1 = .accepted report) :
    ∃ s, Writes call.body s ∧ p.LetsIn s.submitter ∧ p.IsTimely call.now s ∧ p.IsAuthentic s ∧
      p.HasRoom call.moment state.attempts s.submitter := by
  rcases process_cases p call state with ⟨_, failed, shape⟩ | ⟨s, checked, full, shape⟩ |
    ⟨s, checked, room, shape⟩
  · rw [shape] at accepted
    cases accepted
  · rw [shape] at accepted
    cases accepted
  · obtain ⟨writes, isIn, timely, authentic⟩ := check_eq_ok_iff.1 checked
    exact ⟨s, writes, isIn, timely, authentic, record_fst_iff.1 room⟩

/-- A call that meets every condition fails nowhere. -/
theorem Fails.false_of_passes {s : Submission} (fails : p.Fails call attempts stage cause)
    (writes : Writes call.body s) (isIn : p.LetsIn s.submitter)
    (timely : p.IsTimely call.now s) (authentic : p.IsAuthentic s)
    (room : p.HasRoom call.moment attempts s.submitter) : False := by
  refine fails.not_passes ?_
  cases stage with
  | decoding => exact writes.decoded
  | fields => exact ⟨s, writes⟩
  | registration => exact ⟨s, writes, isIn⟩
  | freshness => exact ⟨s, writes, timely⟩
  | signature => exact ⟨s, writes, authentic⟩
  | quota => exact ⟨s, writes, room⟩

/-- What an accepted call does: its objects are saved in every destination, and its moment goes
behind the pruned queue of its submitter. -/
theorem effects_of_accepted {state : PipelineState σ} {report : SaveReport} {s : Submission}
    (accepted : (p.process call state).1 = .accepted report) (writes : Writes call.body s) :
    (report, (p.process call state).2.destinations) =
        Destination.saveAll (objects s call.remoteAddr call.now) state.destinations ∧
      ∀ key, (p.process call state).2.attempts.queue key =
        if key = s.submitter then
          AttemptTable.prune p.quota.window call.moment (state.attempts.queue key) ++ [call.moment]
        else state.attempts.queue key := by
  rcases process_cases p call state with ⟨_, failed, shape⟩ | ⟨t, checked, full, shape⟩ |
    ⟨t, checked, room, shape⟩
  · rw [shape] at accepted
    cases accepted
  · rw [shape] at accepted
    cases accepted
  · obtain rfl := (check_eq_ok_iff.1 checked).1.unique writes
    rw [shape] at accepted ⊢
    cases accepted
    refine ⟨rfl, ?_⟩
    intro key
    rw [AttemptTable.queue_record]
    by_cases same : key = t.submitter
    · simp [same, room]
    · simp [same]

/-- What a refused call does: nothing, but that a full queue stays pruned. -/
theorem effects_of_refused {state : PipelineState σ}
    (refused : (p.process call state).1 = .refused cause) :
    (p.process call state).2.destinations = state.destinations ∧
      ∀ key, (p.process call state).2.attempts.queue key = state.attempts.queue key ∨
        cause = .rejected .rateLimited ∧
          (p.process call state).2.attempts.queue key =
            AttemptTable.prune p.quota.window call.moment (state.attempts.queue key) := by
  rcases process_cases p call state with ⟨_, failed, shape⟩ | ⟨s, checked, full, shape⟩ |
    ⟨s, checked, room, shape⟩
  · rw [shape]
    exact ⟨rfl, fun key => .inl rfl⟩
  · rw [shape] at refused ⊢
    cases refused
    refine ⟨rfl, ?_⟩
    intro key
    rw [AttemptTable.queue_record]
    by_cases same : key = s.submitter
    · exact .inr ⟨rfl, by simp [same, full]⟩
    · exact .inl (if_neg same)
  · rw [shape] at refused
    cases refused

/-- A call ends with the cause of the first stage that it fails, where an overflow of the date
subtraction is a failure of freshness with a cause of its own. It is accepted exactly if it meets
the conditions of all stages; then its objects are saved and one attempt is recorded, and
otherwise no destination changes and nothing is recorded. -/
theorem process_decided_by_first_failing_stage (p : Pipeline) (call : Call)
    (state : PipelineState σ) :
    (∀ cause, (p.process call state).1 = .refused cause ↔
      ∃ stage, p.FailsFirst call state.attempts stage cause) ∧
    ((∃ report, (p.process call state).1 = .accepted report) ↔
      ∃ s, Writes call.body s ∧ p.LetsIn s.submitter ∧ p.IsTimely call.now s ∧
        p.IsAuthentic s ∧ p.HasRoom call.moment state.attempts s.submitter) ∧
    (∀ report s, (p.process call state).1 = .accepted report → Writes call.body s →
      (report, (p.process call state).2.destinations) =
          Destination.saveAll (objects s call.remoteAddr call.now) state.destinations ∧
        ∀ key, (p.process call state).2.attempts.queue key =
          if key = s.submitter then
            AttemptTable.prune p.quota.window call.moment (state.attempts.queue key) ++
              [call.moment]
          else state.attempts.queue key) ∧
    (∀ cause, (p.process call state).1 = .refused cause →
      (p.process call state).2.destinations = state.destinations ∧
        ∀ key, (p.process call state).2.attempts.queue key = state.attempts.queue key ∨
          cause = .rejected .rateLimited ∧
            (p.process call state).2.attempts.queue key =
              AttemptTable.prune p.quota.window call.moment (state.attempts.queue key)) := by
  refine ⟨?_, ?_, fun _ _ => effects_of_accepted, fun _ => effects_of_refused⟩
  · intro cause
    refine ⟨exists_failsFirst_of_refused, ?_⟩
    rintro ⟨stage, fails⟩
    cases outcome : (p.process call state).1 with
    | accepted report =>
        obtain ⟨s, writes, isIn, timely, authentic, room⟩ := passes_of_accepted outcome
        exact (fails.1.false_of_passes writes isIn timely authentic room).elim
    | refused other =>
        obtain ⟨_, failsToo⟩ := exists_failsFirst_of_refused outcome
        rw [fails.unique failsToo]
  · constructor
    · rintro ⟨report, accepted⟩
      exact passes_of_accepted accepted
    · rintro ⟨s, writes, isIn, timely, authentic, room⟩
      cases outcome : (p.process call state).1 with
      | accepted report => exact ⟨report, rfl⟩
      | refused cause =>
          obtain ⟨_, fails⟩ := exists_failsFirst_of_refused outcome
          exact (fails.1.false_of_passes writes isIn timely authentic room).elim

end Pipeline

end UptimeIntake
