import UptimeIntake.Attempts.Table

/-!
# Runs of the attempt table

Calls on the table taken one after the other, each with its answer. Every state that the table can
reach is the end of a run from the empty table. What one call does to the queue of one submitter
is said once, for attempts and cleanups alike.
-/

set_option autoImplicit false

namespace UptimeIntake

/-- A call on the attempt table. -/
inductive AttemptCall where
  | attempt (key : SubmitterKey) (now : Moment)
  | cleanup (now : Moment)
  deriving DecidableEq

namespace AttemptCall

/-- The reading of the clock that comes with a call. -/
def moment : AttemptCall → Moment
  | attempt _ now | cleanup now => now

/-- The call prunes the queue of the submitter. -/
def Concerns (key : SubmitterKey) : AttemptCall → Prop
  | attempt other _ => other = key
  | cleanup _ => True

instance (key : SubmitterKey) : (call : AttemptCall) → Decidable (call.Concerns key)
  | attempt other _ => inferInstanceAs (Decidable (other = key))
  | cleanup _ => inferInstanceAs (Decidable True)

/-- The moment of an attempt of the submitter. -/
def attemptOf? (key : SubmitterKey) : AttemptCall → Option Moment
  | attempt other now => if other = key then some now else none
  | cleanup _ => none

theorem filterMap_attemptOf?_cons (key : SubmitterKey) (call : AttemptCall)
    (calls : List AttemptCall) :
    (call :: calls).filterMap (attemptOf? key) =
      (call.attemptOf? key).toList ++ calls.filterMap (attemptOf? key) := by
  simp only [List.filterMap_cons]
  cases call.attemptOf? key <;> rfl

end AttemptCall

/-- A call that was made. Attempts have an answer. -/
inductive AttemptStep where
  | attempt (key : SubmitterKey) (now : Moment) (isGranted : Bool)
  | cleanup (now : Moment)
  deriving DecidableEq

namespace AttemptStep

def call : AttemptStep → AttemptCall
  | attempt key now _ => .attempt key now
  | cleanup now => .cleanup now

/-- The moment of an attempt of the submitter with its answer. -/
def answerTo? (key : SubmitterKey) : AttemptStep → Option (Moment × Bool)
  | attempt other now isGranted => if other = key then some (now, isGranted) else none
  | cleanup _ => none

/-- The moment that this step let through for the submitter. -/
def granted? (key : SubmitterKey) : AttemptStep → Option Moment
  | attempt other now isGranted => if other = key ∧ isGranted = true then some now else none
  | cleanup _ => none

/-- The attempts of the submitter with their answers, in order. -/
def answersTo (key : SubmitterKey) (steps : List AttemptStep) : List (Moment × Bool) :=
  steps.filterMap (answerTo? key)

/-- The moments let through for the submitter, in order. -/
def granted (key : SubmitterKey) (steps : List AttemptStep) : List Moment :=
  steps.filterMap (granted? key)

theorem answersTo_cons (key : SubmitterKey) (step : AttemptStep) (steps : List AttemptStep) :
    answersTo key (step :: steps) = (step.answerTo? key).toList ++ answersTo key steps := by
  simp only [answersTo, List.filterMap_cons]
  cases step.answerTo? key <;> rfl

@[simp] theorem granted_nil (key : SubmitterKey) : granted key [] = [] := rfl

theorem granted_cons (key : SubmitterKey) (step : AttemptStep) (steps : List AttemptStep) :
    granted key (step :: steps) = (step.granted? key).toList ++ granted key steps := by
  simp only [granted, List.filterMap_cons]
  cases step.granted? key <;> rfl

theorem granted_append (key : SubmitterKey) (earlier later : List AttemptStep) :
    granted key (earlier ++ later) = granted key earlier ++ granted key later :=
  List.filterMap_append

theorem granted?_eq_some_iff {key : SubmitterKey} {step : AttemptStep} {t : Moment} :
    step.granted? key = some t ↔ step = .attempt key t true := by
  cases step with
  | attempt other now isGranted =>
      simp only [granted?, Option.ite_none_right_eq_some, Option.some.injEq, attempt.injEq]
      constructor
      · rintro ⟨⟨sameKey, isGranted⟩, sameTime⟩
        exact ⟨sameKey, sameTime, isGranted⟩
      · rintro ⟨sameKey, sameTime, isGranted⟩
        exact ⟨⟨sameKey, isGranted⟩, sameTime⟩
  | cleanup now => simp [granted?]

theorem granted?_eq_none {key : SubmitterKey} {step : AttemptStep}
    (elsewhere : ¬ step.call.Concerns key) : step.granted? key = none := by
  cases step with
  | attempt other now isGranted =>
      have different : ¬ other = key := elsewhere
      simp [granted?, different]
  | cleanup now => rfl

theorem eq_moment_of_granted? {key : SubmitterKey} {step : AttemptStep} {t : Moment}
    (isGranted : step.granted? key = some t) : t = step.call.moment := by
  rw [granted?_eq_some_iff.1 isGranted]
  rfl

end AttemptStep

namespace AttemptTable

def make (quota : Quota) (call : AttemptCall) (table : AttemptTable) :
    AttemptStep × AttemptTable :=
  match call with
  | .attempt key now =>
    let (isGranted, table) := table.record quota key now
    (.attempt key now isGranted, table)
  | .cleanup now => (.cleanup now, table.cleanup quota.window now)

def run (quota : Quota) : List AttemptCall → AttemptTable → List AttemptStep × AttemptTable
  | [], table => ([], table)
  | call :: rest, table =>
    let (step, table) := table.make quota call
    let (steps, table) := run quota rest table
    (step :: steps, table)

/-! ## One call -/

@[simp] theorem call_make (quota : Quota) (call : AttemptCall) (table : AttemptTable) :
    (table.make quota call).1.call = call := by
  cases call <;> rfl

/-- An attempt is let through if the pruned queue of its submitter has room. -/
theorem make_eq_attempt {quota : Quota} {call : AttemptCall} {table : AttemptTable}
    {key : SubmitterKey} {now : Moment} {isGranted : Bool}
    (made : (table.make quota call).1 = .attempt key now isGranted) :
    isGranted = decide ((prune quota.window now (table.queue key)).length < quota.maxAttempts) := by
  cases call with
  | attempt other moment =>
      simp only [make, AttemptStep.attempt.injEq] at made
      obtain ⟨rfl, rfl, rfl⟩ := made
      exact record_fst quota other moment table
  | cleanup moment => cases made

/-- What a call does to the queue of a submitter: nothing if it does not concern the submitter;
otherwise the queue is pruned, and a moment that is let through goes behind it. -/
theorem queue_make (quota : Quota) (call : AttemptCall) (table : AttemptTable)
    (key : SubmitterKey) :
    (table.make quota call).2.queue key =
      if call.Concerns key then
        prune quota.window call.moment (table.queue key) ++
          ((table.make quota call).1.granted? key).toList
      else table.queue key := by
  cases call with
  | attempt other now =>
      have shape : (table.make quota (.attempt other now)).2 = (table.record quota other now).2 :=
        rfl
      rw [shape, queue_record]
      by_cases same : other = key
      · subst same
        cases verdict : (table.record quota other now).1 <;>
          simp [make, verdict, AttemptStep.granted?, AttemptCall.Concerns, AttemptCall.moment]
      · simp [AttemptCall.Concerns, same, Ne.symm same]
  | cleanup now =>
      simp [make, queue_cleanup, AttemptCall.Concerns, AttemptCall.moment, AttemptStep.granted?]

/-! ## Runs -/

@[simp] theorem run_nil (quota : Quota) (table : AttemptTable) :
    run quota [] table = ([], table) := rfl

theorem run_cons (quota : Quota) (call : AttemptCall) (calls : List AttemptCall)
    (table : AttemptTable) :
    run quota (call :: calls) table =
      ((table.make quota call).1 :: (run quota calls (table.make quota call).2).1,
        (run quota calls (table.make quota call).2).2) := rfl

theorem run_append (quota : Quota) (before after : List AttemptCall) (table : AttemptTable) :
    run quota (before ++ after) table =
      ((run quota before table).1 ++ (run quota after (run quota before table).2).1,
        (run quota after (run quota before table).2).2) := by
  induction before generalizing table with
  | nil => rfl
  | cons call rest ih => simp only [List.cons_append, run_cons, ih]

theorem map_call_run (quota : Quota) (calls : List AttemptCall) (table : AttemptTable) :
    (run quota calls table).1.map AttemptStep.call = calls := by
  induction calls generalizing table with
  | nil => rfl
  | cons call rest ih => simp only [run_cons, List.map_cons, call_make, ih]

/-- The steps of a run can be cut where one likes, and each part is a run. -/
theorem run_eq_append {quota : Quota} {calls : List AttemptCall} {table : AttemptTable}
    {earlier later : List AttemptStep} (steps : (run quota calls table).1 = earlier ++ later) :
    ∃ before after, calls = before ++ after ∧ (run quota before table).1 = earlier ∧
      (run quota after (run quota before table).2).1 = later := by
  induction earlier generalizing calls table with
  | nil => exact ⟨[], calls, rfl, rfl, steps⟩
  | cons step rest ih =>
      cases calls with
      | nil => simp at steps
      | cons call calls =>
          simp only [run_cons, List.cons_append, List.cons.injEq] at steps
          obtain ⟨before, after, rfl, first, second⟩ := ih steps.2
          refine ⟨call :: before, after, rfl, ?_, second⟩
          simp only [run_cons, steps.1, first]

end AttemptTable

end UptimeIntake
