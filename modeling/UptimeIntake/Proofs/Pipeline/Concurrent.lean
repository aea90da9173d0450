import UptimeIntake.Proofs.Pipeline.Run
import UptimeIntake.Proofs.Storage.Interleaving
import UptimeIntake.Proofs.Storage.Paths

/-!
# Submissions in flight together

Submissions that are saved in one store while others come in. A submission is let through or
refused at once; the calls of its save are then made one by one, in any order among those of the
other saves. Served with nothing between its calls, a submission does what it does on its own.
-/

set_option autoImplicit false

namespace UptimeIntake

variable {σ : Type}

/-- A submission that was let through, and where its save has got to. -/
structure OngoingSave where
  call : Call
  submission : Submission
  progress : Saving

/-- A pipeline at work on one store. -/
structure Intake (σ : Type) where
  pipeline : Pipeline
  attempts : AttemptTable
  /-- The state of the store. -/
  state : σ
  /-- The saves in the order in which their submissions were let through. -/
  saves : List OngoingSave

inductive IntakeEvent where
  | pipeline (event : PipelineEvent)
  /-- The save of that number makes its next call, if there is one. -/
  | storeCall (save : Nat)
  deriving DecidableEq

namespace Intake

def start (p : Pipeline) (attempts : AttemptTable) (s : σ) : Intake σ :=
  ⟨p, attempts, s, []⟩

def submit (store : ObjectStore σ) (call : Call) (intake : Intake σ) : Intake σ :=
  match intake.pipeline.accept call intake.attempts with
  | (.error _, attempts) => { intake with attempts }
  | (.ok s, attempts) =>
    let objects := Pipeline.objects s call.remoteAddr call.now
    { intake with
      attempts
      saves := intake.saves ++ [⟨call, s, Saving.start store objects⟩] }

def callStore (store : ObjectStore σ) (i : Nat) (intake : Intake σ) : Intake σ :=
  match intake.saves[i]? with
  | none => intake
  | some save =>
    match save.progress.step? store intake.state with
    | none => intake
    | some (progress, state) =>
      { intake with state, saves := intake.saves.set i { save with progress } }

def step (store : ObjectStore σ) (intake : Intake σ) : IntakeEvent → Intake σ
  | .pipeline (.submission call) => intake.submit store call
  | .pipeline (.cleanup now) =>
    { intake with attempts := intake.attempts.cleanup intake.pipeline.quota.window now }
  | .pipeline (.publication whitelist) =>
    { intake with pipeline := intake.pipeline.after (.publication whitelist) }
  | .storeCall i => intake.callStore store i

def serve (store : ObjectStore σ) (intake : Intake σ) (events : List IntakeEvent) : Intake σ :=
  events.foldl (step store) intake

theorem serve_append (store : ObjectStore σ) (intake : Intake σ) (before after : List IntakeEvent) :
    intake.serve store (before ++ after) = (intake.serve store before).serve store after :=
  List.foldl_append

theorem serve_cons (store : ObjectStore σ) (intake : Intake σ) (event : IntakeEvent)
    (events : List IntakeEvent) :
    intake.serve store (event :: events) = (intake.step store event).serve store events := rfl

/-- The call was let through at some point of the run, as the submission. -/
def Admitted (store : ObjectStore σ) (intake : Intake σ) (events : List IntakeEvent) (call : Call)
    (s : Submission) : Prop :=
  ∃ before after, events = before ++ .pipeline (.submission call) :: after ∧
    ((intake.serve store before).pipeline.accept call
      (intake.serve store before).attempts).1 = .ok s

theorem Admitted.append {store : ObjectStore σ} {intake : Intake σ} {events : List IntakeEvent}
    {call : Call} {s : Submission} (admitted : Admitted store intake events call s)
    (further : List IntakeEvent) : Admitted store intake (events ++ further) call s := by
  obtain ⟨before, after, rfl, accepted⟩ := admitted
  exact ⟨before, after ++ further, by simp, accepted⟩

private theorem callStore_of_step? {store : ObjectStore σ} {intake : Intake σ} {i : Nat}
    {save : OngoingSave} {progress : Saving} {state : σ} (inFlight : intake.saves[i]? = some save)
    (stepped : save.progress.step? store intake.state = some (progress, state)) :
    intake.callStore store i =
      { intake with state, saves := intake.saves.set i { save with progress } } := by
  simp only [callStore, inFlight, stepped]

/-! ## One submission after the other -/

theorem serve_idle {store : ObjectStore σ} {intake : Intake σ} {event : IntakeEvent}
    (idle : intake.step store event = intake) (k : Nat) :
    intake.serve store (List.replicate k event) = intake := by
  induction k with
  | zero => rfl
  | succ k ih => rw [List.replicate_succ, serve_cons, idle, ih]

/-- The save has made all the calls that it had left. -/
def finish (store : ObjectStore σ) (i : Nat) (save : OngoingSave) (intake : Intake σ) : Intake σ :=
  let (report, state) := save.progress.run store intake.state
  { intake with state, saves := intake.saves.set i { save with progress := .finished report } }

theorem serve_of_finished {store : ObjectStore σ} {intake : Intake σ} {i : Nat}
    {save : OngoingSave} {report : DestinationReport} (inFlight : intake.saves[i]? = some save)
    (finished : save.progress = .finished report) (k : Nat) :
    intake.serve store (List.replicate k (.storeCall i)) = intake.finish store i save := by
  have idle : intake.step store (.storeCall i) = intake := by
    simp only [step, callStore, inFlight, finished, Saving.step?]
  obtain ⟨_, rfl⟩ := List.getElem?_eq_some_iff.1 inFlight
  simp only [serve_idle idle, finish, finished, Saving.run]
  rw [← finished, List.set_getElem_self]

/-- A save that makes all its calls with nothing between them. -/
theorem serve_storeCalls {store : ObjectStore σ} {k i : Nat} {intake : Intake σ}
    {save : OngoingSave} (inFlight : intake.saves[i]? = some save)
    (within : save.progress.Within k) :
    intake.serve store (List.replicate k (.storeCall i)) = intake.finish store i save := by
  induction k generalizing intake save with
  | zero =>
      obtain ⟨report, finished⟩ := within.exists_finished
      exact serve_of_finished inFlight finished 0
  | succ k ih =>
      rcases within.step? store intake.state with
        ⟨report, finished⟩ | ⟨progress, state, stepped, rest, same⟩
      · exact serve_of_finished inFlight finished (k + 1)
      · obtain ⟨inside, _⟩ := List.getElem?_eq_some_iff.1 inFlight
        rw [List.replicate_succ, serve_cons, step, callStore_of_step? inFlight stepped,
          ih (List.getElem?_set_self inside) rest]
        simp only [finish, same, List.set_set]

end Intake

namespace Pipeline

def blockObject (s : Submission) (now : Instant) : String × Bytes :=
  ((paths s now).block, s.data.block)

def metadataObject (s : Submission) (remoteAddr : String) (now : Instant) : String × Bytes :=
  ((paths s now).metadata, s.data.metadata s.submitter remoteAddr s.data.blockHash)

/-- The block is saved before the metadata: its path comes first. -/
theorem objects_eq (s : Submission) (remoteAddr : String) (now : Instant) :
    (objects s remoteAddr now).objects = [blockObject s now, metadataObject s remoteAddr now] := by
  have first : (paths s now).block < (paths s now).metadata :=
    StoragePaths.blockPath_lt_metadataPath
  simp only [objects, ObjectSet.ofList, List.foldl_cons, List.foldl_nil, ObjectSet.insert,
    ObjectSet.empty, insertSorted, if_pos first, blockObject, metadataObject]

private theorem size_objects (s : Submission) (remoteAddr : String) (now : Instant) :
    (objects s remoteAddr now).size = 2 := by
  rw [ObjectSet.size, objects_eq, List.length_cons, List.length_singleton]

end Pipeline

/-- Four calls are enough for a submission. When nothing comes between them, it does to the attempts
and to the store what it does on its own. -/
theorem Intake.serve_alone (store : ObjectStore σ) (intake : Intake σ) (call : Call) {k : Nat}
    (enough : 4 ≤ k) :
    let after := intake.serve store
      (.pipeline (.submission call) :: List.replicate k (.storeCall intake.saves.length))
    (intake.pipeline.process call ⟨intake.attempts, [⟨store, intake.state⟩]⟩).2 =
      ⟨after.attempts, [⟨store, after.state⟩]⟩ := by
  intro after
  rcases decided : intake.pipeline.accept call intake.attempts with ⟨cause | s, attempts⟩
  · have refused : intake.step store (.pipeline (.submission call)) = { intake with attempts } := by
      simp only [step, submit, decided]
    have idle : ({ intake with attempts } : Intake σ).step store (.storeCall intake.saves.length) =
        { intake with attempts } := by
      simp only [step, callStore, List.getElem?_length]
    simp only [after, serve_cons, refused, serve_idle idle, Pipeline.process, decided]
  · have within : (Saving.start store (Pipeline.objects s call.remoteAddr call.now)).Within 4 :=
      (Saving.within_start store _).mono (by simp only [Pipeline.size_objects, Nat.le_refl])
    have letThrough : intake.step store (.pipeline (.submission call)) =
        { intake with
          attempts
          saves := intake.saves ++
            [⟨call, s, Saving.start store (Pipeline.objects s call.remoteAddr call.now)⟩] } := by
      simp only [step, submit, decided]
    simp only [after, serve_cons, letThrough, Pipeline.process, decided, Destination.saveAll,
      List.map_cons, List.map_nil, Destination.save]
    generalize Saving.start store (Pipeline.objects s call.remoteAddr call.now) = progress at within
    rw [serve_storeCalls List.getElem?_concat_length (within.mono enough), finish]

end UptimeIntake
