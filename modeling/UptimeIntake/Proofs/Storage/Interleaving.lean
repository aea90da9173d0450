import Mathlib.Logic.Function.Iterate
import UptimeIntake.Proofs.Storage.Accounting
import UptimeIntake.Storage.Memory

/-!
# Fan-out with interleaved calls

The saves to the destinations run side by side: at each turn one of them makes its next call. Where
a destination has got to hangs only on the number of its own turns, so neither the order of the
turns nor what other destinations answer changes its report, its calls or its final state.
-/

set_option autoImplicit false

namespace UptimeIntake

variable {σ : Type}

/-- A save in progress in one destination. -/
structure Lane (σ : Type) where
  destination : Destination σ
  progress : Saving

namespace Lane

def start (objects : ObjectSet) (d : Destination σ) : Lane σ :=
  ⟨d, Saving.start d.store objects⟩

/-- Makes the next call, if there is one. -/
def step (lane : Lane σ) : Lane σ :=
  match lane.progress.step? lane.destination.store lane.destination.state with
  | none => lane
  | some (progress, state) => ⟨{ lane.destination with state }, progress⟩

def report? (lane : Lane σ) : Option DestinationReport :=
  match lane.progress with
  | .finished report => some report
  | .contains _ _ | .write _ _ _ => none

/-- The report and the destination once all calls that are left have been made. -/
def outcome (lane : Lane σ) : DestinationReport × Destination σ :=
  let (report, state) := lane.progress.run lane.destination.store lane.destination.state
  (report, { lane.destination with state })

private theorem outcome_step (lane : Lane σ) : lane.step.outcome = lane.outcome := by
  obtain ⟨destination, progress⟩ := lane
  cases progress with
  | finished report => rfl
  | contains path next => rfl
  | write path bytes next => rfl

private theorem outcome_iterate_step (lane : Lane σ) (n : Nat) :
    (step^[n] lane).outcome = lane.outcome := by
  induction n generalizing lane with
  | zero => rfl
  | succ n ih => rw [Function.iterate_succ_apply, ih, outcome_step]

private theorem outcome_of_report? {lane : Lane σ} {report : DestinationReport}
    (finished : lane.report? = some report) : lane.outcome = (report, lane.destination) := by
  obtain ⟨destination, progress⟩ := lane
  cases progress with
  | finished report => cases finished; rfl
  | contains path next => cases finished
  | write path bytes next => cases finished

end Lane

/-! ## The end of a save -/

/-- The save ends after at most the given number of calls, whatever the answers. -/
inductive Saving.Within : Nat → Saving → Prop where
  | finished {n : Nat} {report : DestinationReport} : Within n (.finished report)
  | contains {n m : Nat} {path : String} {next : Except StorageError Bool → Saving} (fewer : n < m)
      (rest : ∀ answer, Within n (next answer)) : Within m (.contains path next)
  | write {n m : Nat} {path : String} {bytes : Bytes} {next : Except StorageError Unit → Saving}
      (fewer : n < m) (rest : ∀ result, Within n (next result)) : Within m (.write path bytes next)

theorem Saving.Within.mono {saving : Saving} {n m : Nat} (within : saving.Within n) (le : n ≤ m) :
    saving.Within m := by
  cases within with
  | finished => exact .finished
  | contains fewer rest => exact .contains (Nat.lt_of_lt_of_le fewer le) rest
  | write fewer rest => exact .write (Nat.lt_of_lt_of_le fewer le) rest

/-- No object takes more than two calls. -/
theorem Saving.within_ofObjects (checks : String → Bool) (report : DestinationReport)
    (objects : List (String × Bytes)) :
    (ofObjects checks report objects).Within (2 * objects.length) := by
  induction objects generalizing report with
  | nil => exact .finished
  | cons object objects ih =>
      obtain ⟨path, bytes⟩ := object
      have writing {m : Nat} (fewer : 2 * objects.length < m) :
          (Saving.write path bytes fun result =>
            ofObjects checks (report.countWrite result) objects).Within m :=
        .write fewer fun result => ih (report.countWrite result)
      rw [List.length_cons]
      unfold ofObjects
      split
      · refine .contains (n := 2 * objects.length + 1) (by omega) fun answer => ?_
        rcases answer with error | (_ | _)
        · exact writing (Nat.lt_succ_self _)
        · exact writing (Nat.lt_succ_self _)
        · exact (ih report.skip).mono (Nat.le_succ _)
      · exact writing (by omega)

theorem Saving.within_start (store : ObjectStore σ) (objects : ObjectSet) :
    (start store objects).Within (2 * objects.size) :=
  within_ofObjects _ _ objects.objects

theorem Saving.Within.step? {saving : Saving} {n : Nat} (within : saving.Within (n + 1))
    (store : ObjectStore σ) (s : σ) :
    (∃ report, saving = .finished report) ∨
      ∃ progress state, saving.step? store s = some (progress, state) ∧ progress.Within n ∧
        progress.run store state = saving.run store s := by
  cases within with
  | finished => exact .inl ⟨_, rfl⟩
  | contains fewer rest =>
      exact .inr ⟨_, _, rfl, (rest _).mono (Nat.le_of_lt_succ fewer), rfl⟩
  | write fewer rest =>
      exact .inr ⟨_, _, rfl, (rest _).mono (Nat.le_of_lt_succ fewer), rfl⟩

theorem Saving.Within.exists_finished {saving : Saving} (within : saving.Within 0) :
    ∃ report, saving = .finished report := by
  cases within with
  | finished => exact ⟨_, rfl⟩
  | contains fewer _ => exact absurd fewer (Nat.not_lt_zero _)
  | write fewer _ => exact absurd fewer (Nat.not_lt_zero _)

private theorem Lane.within_step {lane : Lane σ} {n : Nat} (within : lane.progress.Within (n + 1)) :
    lane.step.progress.Within n := by
  rcases within.step? lane.destination.store lane.destination.state with
    ⟨report, finished⟩ | ⟨progress, state, stepped, rest, _⟩
  · simp only [step, finished, Saving.step?]
    exact .finished
  · simpa only [step, stepped] using rest

private theorem Lane.isSome_report?_iterate_step {n : Nat} {lane : Lane σ}
    (within : lane.progress.Within n) : (step^[n] lane).report?.isSome := by
  induction n generalizing lane with
  | zero =>
      obtain ⟨report, finished⟩ := within.exists_finished
      simp only [Function.iterate_zero_apply, report?, finished, Option.isSome_some]
  | succ n ih =>
      rw [Function.iterate_succ_apply]
      exact ih (within_step within)

/-! ## Turns -/

/-- At each turn the save of that number makes its next call. -/
def takeTurns (turns : List Nat) (lanes : List (Lane σ)) : List (Lane σ) :=
  turns.foldl (fun lanes i => lanes.modify i Lane.step) lanes

/-- The report once all saves have finished. -/
def reports? (lanes : List (Lane σ)) : Option SaveReport :=
  (lanes.mapM Lane.report?).map SaveReport.mk

/-- Where a save has got to is a matter of the number of its own turns. -/
theorem getElem?_takeTurns (turns : List Nat) (lanes : List (Lane σ)) (i : Nat) :
    (takeTurns turns lanes)[i]? = lanes[i]?.map (Lane.step^[turns.count i]) := by
  induction turns generalizing lanes with
  | nil => simp [takeTurns]
  | cons turn turns ih =>
      have first : takeTurns (turn :: turns) lanes =
          takeTurns turns (lanes.modify turn Lane.step) := rfl
      rw [first, ih, List.getElem?_modify]
      by_cases own : turn = i
      · subst own
        cases lanes[turn]? <;> simp
      · simp [own]

private theorem map_outcome_takeTurns (turns : List Nat) (lanes : List (Lane σ)) :
    (takeTurns turns lanes).map Lane.outcome = lanes.map Lane.outcome := by
  refine List.ext_getElem? fun i => ?_
  rw [List.getElem?_map, List.getElem?_map, getElem?_takeTurns, Option.map_map]
  exact congrArg (Option.map · lanes[i]?) (funext fun lane => lane.outcome_iterate_step _)

private theorem map_outcome_of_mapM_report? {lanes : List (Lane σ)}
    {reports : List DestinationReport}
    (finished : lanes.mapM Lane.report? = some reports) :
    reports = (lanes.map Lane.outcome).map (·.1) ∧
      lanes.map Lane.destination = (lanes.map Lane.outcome).map (·.2) := by
  induction lanes generalizing reports with
  | nil => exact ⟨(Option.some.inj finished).symm, rfl⟩
  | cons lane lanes ih =>
      simp only [List.mapM_cons, Option.bind_eq_bind, Option.bind_eq_some_iff] at finished
      obtain ⟨report, first, rest, others, made⟩ := finished
      obtain ⟨restReports, restDestinations⟩ := ih others
      cases made
      simp only [List.map_cons, Lane.outcome_of_report? first, ← restReports, restDestinations,
        and_self]

private theorem isSome_mapM_report? {lanes : List (Lane σ)}
    (finished : ∀ lane ∈ lanes, lane.report?.isSome) : (lanes.mapM Lane.report?).isSome := by
  induction lanes with
  | nil => rfl
  | cons lane lanes ih =>
      obtain ⟨report, first⟩ := Option.isSome_iff_exists.1 (finished lane List.mem_cons_self)
      obtain ⟨reports, rest⟩ := Option.isSome_iff_exists.1
        (ih fun other member => finished other (List.mem_cons_of_mem _ member))
      simp [List.mapM_cons, first, rest]

/-- Saves that run side by side report and leave behind what they do one after the other. -/
theorem reports?_takeTurns {objects : ObjectSet} {ds : List (Destination σ)} {turns : List Nat}
    {report : SaveReport}
    (finished : reports? (takeTurns turns (ds.map (Lane.start objects))) = some report) :
    (report, (takeTurns turns (ds.map (Lane.start objects))).map Lane.destination) =
      Destination.saveAll objects ds := by
  obtain ⟨reports, all, made⟩ := Option.map_eq_some_iff.1 finished
  obtain ⟨fromOutcomes, destinations⟩ := map_outcome_of_mapM_report? all
  have outcomes : (ds.map (Lane.start objects)).map Lane.outcome =
      ds.map (Destination.save objects) := List.map_map
  rw [map_outcome_takeTurns, outcomes] at fromOutcomes destinations
  rw [← made, fromOutcomes, destinations]
  rfl

/-- With two turns for each object, every save finishes. -/
theorem isSome_reports?_takeTurns {objects : ObjectSet} {ds : List (Destination σ)}
    {turns : List Nat} (enough : ∀ i < ds.length, 2 * objects.size ≤ turns.count i) :
    (reports? (takeTurns turns (ds.map (Lane.start objects)))).isSome := by
  rw [reports?, Option.isSome_map]
  refine isSome_mapM_report? fun lane member => ?_
  obtain ⟨i, found⟩ := List.mem_iff_getElem?.1 member
  rw [getElem?_takeTurns, List.getElem?_map, Option.map_map] at found
  obtain ⟨d, initial, rfl⟩ := Option.map_eq_some_iff.1 found
  obtain ⟨inside, _⟩ := List.getElem?_eq_some_iff.1 initial
  exact Lane.isSome_report?_iterate_step ((Saving.within_start _ _).mono (enough i inside))

/-! ## One destination among others -/

namespace Destination

private theorem destinations_saveAll (objects : ObjectSet) (ds : List (Destination σ)) :
    (saveAll objects ds).1.destinations =
      ds.flatMap fun d => (saveAll objects [d]).1.destinations :=
  List.map_map.trans List.map_eq_flatMap

private theorem after_saveAll (objects : ObjectSet) (ds : List (Destination σ)) :
    (saveAll objects ds).2 = ds.flatMap fun d => (saveAll objects [d]).2 :=
  List.map_map.trans List.map_eq_flatMap

private theorem report_saveAll_recorded (objects : ObjectSet) (ds : List (Destination σ)) :
    (saveAll objects (ds.map recorded)).1 = (saveAll objects ds).1 := by
  simp [saveAll, save_recorded]

private theorem names_saveAll (objects : ObjectSet) (ds : List (Destination σ)) :
    (saveAll objects ds).1.destinations.map (·.destination) = ds.map (·.store.name) := by
  simp [saveAll, name_save]

/-- Destinations that are saved to side by side, each with a record of its calls. Whatever the
order of the turns, what is reported at the end is in the order of the destinations; each has the
report, the calls and the state that it has on its own, and its report accounts for its calls. -/
theorem fanout_isolates_and_accounts (objects : ObjectSet) (ds : List (Destination σ)) :
    (∀ turns report,
      reports? (takeTurns turns ((ds.map recorded).map (Lane.start objects))) = some report →
        report = (saveAll objects ds).1 ∧
        report.destinations = ds.flatMap (fun d => (saveAll objects [d]).1.destinations) ∧
        report.destinations.map (·.destination) = ds.map (·.store.name) ∧
        (takeTurns turns ((ds.map recorded).map (Lane.start objects))).map Lane.destination =
          ds.flatMap fun d => (saveAll objects [d.recorded]).2) ∧
    (∀ turns, (∀ i < ds.length, 2 * objects.size ≤ turns.count i) →
      (reports? (takeTurns turns ((ds.map recorded).map (Lane.start objects)))).isSome) ∧
    ∀ d : Destination σ,
      (d.recorded.save objects).2.state.1 = (d.save objects).2.state ∧
      Accounts d.store.checksExistence objects (d.recorded.save objects).2.state.2
        (d.save objects).1 := by
  refine ⟨fun turns report finished => ?_, fun turns enough => ?_, fun d => ?_⟩
  · have same := reports?_takeTurns finished
    have reported : report = (saveAll objects ds).1 :=
      (congrArg Prod.fst same).trans (report_saveAll_recorded objects ds)
    refine ⟨reported, ?_, ?_, ?_⟩
    · rw [reported, destinations_saveAll]
    · rw [reported, names_saveAll]
    · calc
        _ = (saveAll objects (ds.map recorded)).2 := congrArg Prod.snd same
        _ = (ds.map recorded).flatMap fun d => (saveAll objects [d]).2 := after_saveAll _ _
        _ = ds.flatMap fun d => (saveAll objects [d.recorded]).2 := List.flatMap_map _ _ _
  · exact isSome_reports?_takeTurns (by simpa only [List.length_map] using enough)
  · exact ⟨(d.save_recorded objects).2, accounts_save objects d⟩

/-- A store that is down. -/
def downStore (name : String) : ObjectStore σ where
  name
  contains _ s := (.error (.unavailable "down"), s)
  write _ _ s := (.error (.unavailable "down"), s)

theorem fanout_isolates_and_accounts_beside_down_store :
    let objects := ObjectSet.ofList [("submissions/a.json", [1]), ("blocks/b.dat", [2])]
    let ds : List (Destination MemoryStore) :=
      [⟨downStore "down", .empty⟩, ⟨MemoryStore.store "memory", .empty⟩]
    let turns := [1, 0, 0, 1, 0, 1, 0, 1]
    let report : SaveReport := ⟨[⟨"down", 0, 0, 2⟩, ⟨"memory", 2, 0, 0⟩]⟩
    reports? (takeTurns turns ((ds.map recorded).map (Lane.start objects))) = some report ∧
      (∀ i < ds.length, 2 * objects.size ≤ turns.count i) ∧
      (reports? (takeTurns turns ((ds.map recorded).map (Lane.start objects)))).isSome ∧
      report = (saveAll objects ds).1 ∧
      report.destinations = ds.flatMap (fun d => (saveAll objects [d]).1.destinations) := by
  intro objects ds turns report
  have finished :
      reports? (takeTurns turns ((ds.map recorded).map (Lane.start objects))) = some report := by
    decide +kernel
  have enough : ∀ i < ds.length, 2 * objects.size ≤ turns.count i := by decide +kernel
  obtain ⟨isolated, finishes, _⟩ := fanout_isolates_and_accounts objects ds
  obtain ⟨reported, alone, _⟩ := isolated turns report finished
  exact ⟨finished, enough, finishes turns enough, reported, alone⟩

end Destination

end UptimeIntake
