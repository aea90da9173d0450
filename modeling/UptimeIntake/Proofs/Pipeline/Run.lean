import UptimeIntake.Proofs.Pipeline.Checks

/-!
# Runs of the pipeline

Submissions processed one after the other, with cleanups of the attempt table and new whitelists
between them, each submission with its outcome.
-/

set_option autoImplicit false

namespace UptimeIntake

/-- What happens to a pipeline that is in service. -/
inductive PipelineEvent where
  | submission (call : Call)
  | cleanup (now : Moment)
  /-- A whitelist takes the place of the one in force. -/
  | publication (whitelist : Whitelist)
  deriving DecidableEq

namespace PipelineEvent

/-- The reading of the monotonic clock at a submission. -/
def submissionMoment? : PipelineEvent → Option Moment
  | submission call => some call.moment
  | cleanup _ | publication _ => none

/-- The moment of the latest submission once the event has happened. -/
def latest (last : Moment) (event : PipelineEvent) : Moment :=
  event.submissionMoment?.getD last

/-- The monotonic clock does not go back from one submission to the next. -/
def Chronological (events : List PipelineEvent) : Prop :=
  (events.filterMap submissionMoment?).Pairwise (· ≤ ·)

/-- The monotonic clock does not go back, and has reached `last` before. -/
def ChronologicalFrom (last : Moment) (events : List PipelineEvent) : Prop :=
  (last :: events.filterMap submissionMoment?).Pairwise (· ≤ ·)

theorem Chronological.fromZero {events : List PipelineEvent}
    (chronological : Chronological events) : ChronologicalFrom 0 events :=
  List.pairwise_cons.2 ⟨fun _ _ => Nat.zero_le _, chronological⟩

theorem ChronologicalFrom.cons {last : Moment} {event : PipelineEvent}
    {events : List PipelineEvent} (chronological : ChronologicalFrom last (event :: events)) :
    last ≤ event.latest last ∧ ChronologicalFrom (event.latest last) events := by
  cases event with
  | submission call =>
      obtain ⟨le_all, later⟩ := List.pairwise_cons.1 chronological
      exact ⟨le_all call.moment List.mem_cons_self, later⟩
  | cleanup now => exact ⟨Nat.le_refl last, chronological⟩
  | publication whitelist => exact ⟨Nat.le_refl last, chronological⟩

end PipelineEvent

/-- What happened to a pipeline. Submissions have an outcome. -/
inductive PipelineStep where
  | submission (call : Call) (outcome : Outcome)
  | cleanup (now : Moment)
  | publication (whitelist : Whitelist)
  deriving DecidableEq

def PipelineStep.event : PipelineStep → PipelineEvent
  | submission call _ => .submission call
  | cleanup now => .cleanup now
  | publication whitelist => .publication whitelist

namespace Pipeline

variable {σ : Type}

/-- The pipeline after an event. A pipeline without whitelist does not get one. -/
def after (p : Pipeline) : PipelineEvent → Pipeline
  | .submission _ | .cleanup _ => p
  | .publication whitelist => { p with whitelist := p.whitelist.map fun _ => whitelist }

def take (p : Pipeline) (event : PipelineEvent) (state : PipelineState σ) :
    PipelineStep × PipelineState σ :=
  match event with
  | .submission call =>
    let (outcome, state) := p.process call state
    (.submission call outcome, state)
  | .cleanup now =>
    (.cleanup now, { state with attempts := state.attempts.cleanup p.quota.window now })
  | .publication whitelist => (.publication whitelist, state)

def run : Pipeline → List PipelineEvent → PipelineState σ →
    List PipelineStep × PipelineState σ
  | _, [], state => ([], state)
  | p, event :: rest, state =>
    let (step, state) := p.take event state
    let (steps, state) := run (p.after event) rest state
    (step :: steps, state)

@[simp] theorem quota_after (p : Pipeline) (event : PipelineEvent) :
    (p.after event).quota = p.quota := by
  cases event <;> rfl

@[simp] theorem event_take (p : Pipeline) (event : PipelineEvent) (state : PipelineState σ) :
    (p.take event state).1.event = event := by
  cases event <;> rfl

@[simp] theorem run_nil (p : Pipeline) (state : PipelineState σ) : p.run [] state = ([], state) :=
  rfl

theorem run_cons (p : Pipeline) (event : PipelineEvent) (events : List PipelineEvent)
    (state : PipelineState σ) :
    p.run (event :: events) state =
      ((p.take event state).1 :: ((p.after event).run events (p.take event state).2).1,
        ((p.after event).run events (p.take event state).2).2) := rfl

end Pipeline

end UptimeIntake
