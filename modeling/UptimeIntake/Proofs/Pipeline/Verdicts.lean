import UptimeIntake.Proofs.Pipeline.Run
import UptimeIntake.Proofs.Pipeline.Stages
import UptimeIntake.Proofs.Storage.Interleaving

/-!
# Verdicts do not hang on storage

Two runs of one pipeline over the same submissions, each with destinations of its own and with
other remote addresses. Nothing that a store answers flows back, so the verdicts and the attempt
table stay the same at every point of the runs.
-/

set_option autoImplicit false

namespace UptimeIntake

/-- Why a submission is refused; nothing if it is accepted, whatever became of its objects. -/
def Outcome.refusal? : Outcome → Option Refusal
  | accepted _ => none
  | refused cause => some cause

def PipelineStep.verdict? : PipelineStep → Option (Option Refusal)
  | submission _ outcome => some outcome.refusal?
  | cleanup _ | publication _ => none

/-- The event without the address that a submission came from. -/
def PipelineEvent.unaddressed : PipelineEvent → PipelineEvent
  | submission call => submission { call with remoteAddr := "" }
  | cleanup now => cleanup now
  | publication whitelist => publication whitelist

theorem Outcome.refusal?_eq_none_iff {outcome : Outcome} :
    outcome.refusal? = none ↔ ∃ report, outcome = .accepted report := by
  cases outcome with
  | accepted report => exact ⟨fun _ => ⟨report, rfl⟩, fun _ => rfl⟩
  | refused cause =>
      constructor
      · intro isNone
        cases isNone
      · rintro ⟨_, same⟩
        cases same

theorem Outcome.refusal?_eq_some_iff {outcome : Outcome} {cause : Refusal} :
    outcome.refusal? = some cause ↔ outcome = .refused cause := by
  cases outcome with
  | accepted report =>
      constructor
      · intro isSome
        cases isSome
      · intro same
        cases same
  | refused other => rw [refusal?, Option.some.injEq, refused.injEq]

namespace Pipeline

variable {p : Pipeline} {σ τ : Type}

/-! ## One submission -/

private theorem accept_unaddressed {call other : Call} (attempts : AttemptTable)
    (same : PipelineEvent.unaddressed (.submission call) = .unaddressed (.submission other)) :
    p.accept call attempts = p.accept other attempts := by
  obtain ⟨body, _, now, moment⟩ := call
  obtain ⟨body', _, now', moment'⟩ := other
  cases same
  rfl

theorem process_eq_accept (call : Call) (state : PipelineState σ) :
    ((p.process call state).1.refusal?, (p.process call state).2.attempts) =
      ((match (p.accept call state.attempts).1 with
        | .ok _ => none
        | .error cause => some cause), (p.accept call state.attempts).2) := by
  unfold process
  split
  · next accepted => rw [accepted]; rfl
  · next accepted => rw [accepted]; rfl

private theorem process_unaddressed {call other : Call} {a : PipelineState σ} {b : PipelineState τ}
    (same : PipelineEvent.unaddressed (.submission call) = .unaddressed (.submission other))
    (attempts : a.attempts = b.attempts) :
    (p.process call a).1.refusal? = (p.process other b).1.refusal? ∧
      (p.process call a).2.attempts = (p.process other b).2.attempts := by
  have both : ((p.process call a).1.refusal?, (p.process call a).2.attempts) =
      ((p.process other b).1.refusal?, (p.process other b).2.attempts) := by
    rw [process_eq_accept, process_eq_accept, attempts, accept_unaddressed b.attempts same]
  exact Prod.mk.inj both

/-! ## Runs -/

private theorem take_unaddressed {event other : PipelineEvent} {a : PipelineState σ}
    {b : PipelineState τ}
    (same : event.unaddressed = other.unaddressed) (attempts : a.attempts = b.attempts) :
    (p.take event a).1.verdict? = (p.take other b).1.verdict? ∧
      (p.take event a).2.attempts = (p.take other b).2.attempts ∧
      p.after event = p.after other := by
  cases event with
  | submission call =>
      cases other with
      | submission call' =>
          obtain ⟨refusal, table⟩ := process_unaddressed (p := p) same attempts
          exact ⟨congrArg some refusal, table, rfl⟩
      | cleanup now => cases same
      | publication whitelist => cases same
  | cleanup now =>
      cases other with
      | submission call => cases same
      | cleanup now' =>
          cases same
          exact ⟨rfl, congrArg (AttemptTable.cleanup p.quota.window now) attempts, rfl⟩
      | publication whitelist => cases same
  | publication whitelist =>
      cases other with
      | submission call => cases same
      | cleanup now => cases same
      | publication whitelist' =>
          cases same
          exact ⟨rfl, attempts, rfl⟩

private theorem run_unaddressed {events others : List PipelineEvent} {a : PipelineState σ}
    {b : PipelineState τ}
    (same : events.map PipelineEvent.unaddressed = others.map PipelineEvent.unaddressed)
    (attempts : a.attempts = b.attempts) :
    (p.run events a).1.map PipelineStep.verdict? = (p.run others b).1.map PipelineStep.verdict? ∧
      (p.run events a).2.attempts = (p.run others b).2.attempts := by
  induction events generalizing p a b others with
  | nil =>
      obtain rfl := List.map_eq_nil_iff.1 same.symm
      exact ⟨rfl, attempts⟩
  | cons event events ih =>
      cases others with
      | nil => cases same
      | cons other others =>
          obtain ⟨sameEvent, sameEvents⟩ := List.cons.inj same
          obtain ⟨verdict, table, after⟩ := take_unaddressed (p := p) sameEvent attempts
          obtain ⟨verdicts, tables⟩ := ih (p := p.after event) sameEvents table
          rw [run_cons, run_cons, ← after]
          refine ⟨?_, tables⟩
          rw [List.map_cons, List.map_cons, verdict, verdicts]

/-! ## What is recorded -/

private theorem queue_process_of_accepted {call : Call} {state : PipelineState σ}
    (accepted : (p.process call state).1.refusal? = none) :
    ∃ s, Writes call.body s ∧ ∀ key, (p.process call state).2.attempts.queue key =
      if key = s.submitter then
        AttemptTable.prune p.quota.window call.moment (state.attempts.queue key) ++ [call.moment]
      else state.attempts.queue key := by
  obtain ⟨report, outcome⟩ := Outcome.refusal?_eq_none_iff.1 accepted
  obtain ⟨s, writes, _⟩ := passes_of_accepted outcome
  obtain ⟨_, queues⟩ := effects_of_accepted outcome writes
  exact ⟨s, writes, queues⟩

private theorem queue_process_of_refused {call : Call} {state : PipelineState σ} {cause : Refusal}
    (refused : (p.process call state).1.refusal? = some cause) (key : SubmitterKey) :
    (p.process call state).2.attempts.queue key <:+ state.attempts.queue key := by
  obtain ⟨_, queues⟩ := effects_of_refused (Outcome.refusal?_eq_some_iff.1 refused)
  rcases queues key with unchanged | ⟨_, pruned⟩
  · exact unchanged ▸ List.suffix_refl _
  · rw [pruned]
    exact List.dropWhile_suffix _

/-- Two runs that differ in nothing but their destinations and in remote addresses: after every
event the verdicts so far and the attempt tables are the same. A call records one attempt, of its
own submitter, if it is accepted, and otherwise none. -/
theorem verdicts_ignore_destinations (p : Pipeline) (events others : List PipelineEvent)
    (a : PipelineState σ) (b : PipelineState τ) (attempts : a.attempts = b.attempts)
    (same : events.map PipelineEvent.unaddressed = others.map PipelineEvent.unaddressed) :
    (∀ n, (p.run (events.take n) a).1.map PipelineStep.verdict? =
          (p.run (others.take n) b).1.map PipelineStep.verdict? ∧
        (p.run (events.take n) a).2.attempts = (p.run (others.take n) b).2.attempts) ∧
    ∀ (call : Call) (reached : PipelineState σ),
      ((p.process call reached).1.refusal? = none →
        ∃ s, Writes call.body s ∧ ∀ key, (p.process call reached).2.attempts.queue key =
          if key = s.submitter then
            AttemptTable.prune p.quota.window call.moment (reached.attempts.queue key) ++
              [call.moment]
          else reached.attempts.queue key) ∧
      ∀ cause, (p.process call reached).1.refusal? = some cause →
        ∀ key, (p.process call reached).2.attempts.queue key <:+ reached.attempts.queue key := by
  constructor
  · intro n
    refine run_unaddressed ?_ attempts
    rw [List.map_take, List.map_take, same]
  · intro call reached
    exact ⟨queue_process_of_accepted, fun _ => queue_process_of_refused⟩

/-- A store that is down, and no store at all. The second submission is over the quota of one. -/
theorem verdicts_ignore_destinations_that_are_down :
    let p := unguarded {} ⟨1, 10⟩
    let now : Instant := ⟨0, 0, by decide, by decide, by decide⟩
    let events := fun address : String =>
      [PipelineEvent.submission ⟨bareBody "1970-01-01T00:00:00Z", address, now, 3⟩,
        .submission ⟨bareBody "1970-01-01T00:00:00Z", address, now, 5⟩]
    let down : PipelineState Unit := ⟨.empty, [⟨Destination.downStore "down", ()⟩]⟩
    let alone : PipelineState MemoryStore := ⟨.empty, []⟩
    down.attempts = alone.attempts ∧
      (p.run (events "10.0.0.1") down).1.map PipelineStep.verdict? =
        (p.run (events "10.0.0.2") alone).1.map PipelineStep.verdict? ∧
      (p.run (events "10.0.0.1") down).1.map PipelineStep.verdict? =
        [some none, some (some (.rejected .rateLimited))] ∧
      (p.run (events "10.0.0.1") down).2.attempts.queue (.zero 32) = [3] := by
  intro p now events down alone
  have evaluated : (p.run (events "10.0.0.2") alone).1.map PipelineStep.verdict? =
        [some none, some (some (.rejected .rateLimited))] ∧
      (p.run (events "10.0.0.2") alone).2.attempts.queue (.zero 32) = [3] := by
    decide +kernel
  obtain ⟨unchanged, _⟩ :=
    verdicts_ignore_destinations p (events "10.0.0.1") (events "10.0.0.2") down alone rfl rfl
  obtain ⟨verdicts, table⟩ := unchanged 2
  have whole (address : String) : (events address).take 2 = events address := rfl
  rw [whole, whole] at verdicts table
  refine ⟨rfl, verdicts, ?_⟩
  rw [verdicts, table]
  exact evaluated

end Pipeline

end UptimeIntake
