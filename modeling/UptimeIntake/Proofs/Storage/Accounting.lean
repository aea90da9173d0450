import Mathlib.Data.List.Forall2
import UptimeIntake.Storage.Fanout

/-!
# What a save does with each object

The calls of a save with their answers, cut into one part for each object of the set, in the order
of the paths. The answers decide what becomes of the object, and the report counts nothing else.
-/

set_option autoImplicit false

namespace UptimeIntake

/-- A call on a store with its answer. -/
inductive StoreExchange where
  | contains (path : String) (answer : Except StorageError Bool)
  | write (path : String) (bytes : Bytes) (result : Except StorageError Unit)
  deriving DecidableEq

variable {σ : Type}

/-- The store with a record of the calls made on it and of their answers, in order. -/
def ObjectStore.recorded (store : ObjectStore σ) : ObjectStore (σ × List StoreExchange) where
  name := store.name
  checksExistence := store.checksExistence
  contains path s :=
    let (answer, state) := store.contains path s.1
    (answer, (state, s.2 ++ [.contains path answer]))
  write path bytes s :=
    let (result, state) := store.write path bytes s.1
    (result, (state, s.2 ++ [.write path bytes result]))
  close s :=
    let (result, state) := store.close s.1
    (result, (state, s.2))

def Destination.recorded (d : Destination σ) : Destination (σ × List StoreExchange) where
  store := d.store.recorded
  state := (d.state, [])

theorem Saving.run_recorded (store : ObjectStore σ) (saving : Saving) (s : σ)
    (exchanges : List StoreExchange) :
    (saving.run store.recorded (s, exchanges)).1 = (saving.run store s).1 ∧
      (saving.run store.recorded (s, exchanges)).2.1 = (saving.run store s).2 := by
  induction saving generalizing s exchanges with
  | finished report => exact ⟨rfl, rfl⟩
  | contains path next ih => exact ih _ _ _
  | write path bytes next ih => exact ih _ _ _

/-- The record changes neither the report of a save nor what it does to the store. -/
theorem Destination.save_recorded (objects : ObjectSet) (d : Destination σ) :
    (d.recorded.save objects).1 = (d.save objects).1 ∧
      (d.recorded.save objects).2.state.1 = (d.save objects).2.state :=
  Saving.run_recorded d.store (Saving.start d.store objects) d.state []

/-! ## One object -/

/-- What becomes of an object in one destination. -/
inductive Fate where
  | skipped
  | written
  | failed
  deriving DecidableEq

def Fate.ofWrite : Except StorageError Unit → Fate
  | .ok _ => written
  | .error _ => failed

/-- The calls made for one object, and what became of it. -/
structure Handling where
  exchanges : List StoreExchange
  fate : Fate
  deriving DecidableEq

/-- How an object is handled. It is skipped if its path is checked and reported as present, and
otherwise written with one call, whose result decides. -/
inductive Handles (checks : String → Bool) : String × Bytes → Handling → Prop where
  | present {path : String} {bytes : Bytes} (checked : checks path = true) :
      Handles checks (path, bytes) ⟨[.contains path (.ok true)], .skipped⟩
  | missing {path : String} {bytes : Bytes} {answer : Except StorageError Bool}
      {result : Except StorageError Unit} (checked : checks path = true)
      (notPresent : answer ≠ .ok true) :
      Handles checks (path, bytes)
        ⟨[.contains path answer, .write path bytes result], .ofWrite result⟩
  | unchecked {path : String} {bytes : Bytes} {result : Except StorageError Unit}
      (unchecked : checks path = false) :
      Handles checks (path, bytes) ⟨[.write path bytes result], .ofWrite result⟩

/-! ## All objects -/

namespace DestinationReport

def count (r : DestinationReport) : Fate → DestinationReport
  | .skipped => r.skip
  | .written => { r with written := r.written + 1 }
  | .failed => { r with failed := r.failed + 1 }

theorem count_ofWrite (r : DestinationReport) (result : Except StorageError Unit) :
    r.count (.ofWrite result) = r.countWrite result := by
  cases result <;> rfl

/-- The report with the fates of further objects counted. -/
theorem foldl_count (r : DestinationReport) (fates : List Fate) :
    fates.foldl count r =
      { destination := r.destination
        written := r.written + fates.count .written
        skipped := r.skipped + fates.count .skipped
        failed := r.failed + fates.count .failed } := by
  induction fates generalizing r with
  | nil => rfl
  | cons fate fates ih =>
      rw [List.foldl_cons, ih]
      cases fate <;> simp [count, skip, Nat.add_comm, Nat.add_left_comm]

end DestinationReport

/-- The calls made for a set of objects, and the report on them: the objects are handled one after
the other, each once, and counted by what became of them. -/
structure Accounts (checks : String → Bool) (objects : ObjectSet) (exchanges : List StoreExchange)
    (report : DestinationReport) : Prop where
  handled : ∃ handlings : List Handling, List.Forall₂ (Handles checks) objects.objects handlings ∧
    exchanges = handlings.flatMap Handling.exchanges ∧
    report.written = (handlings.map Handling.fate).count .written ∧
    report.skipped = (handlings.map Handling.fate).count .skipped ∧
    report.failed = (handlings.map Handling.fate).count .failed
  total : report.written + report.skipped + report.failed = objects.size

private theorem count_fates (fates : List Fate) :
    fates.count .written + fates.count .skipped + fates.count .failed = fates.length := by
  induction fates with
  | nil => rfl
  | cons fate fates ih =>
      rw [List.length_cons, ← ih]
      cases fate <;> simp <;> omega

/-- The first object is handled, and the others are saved behind it. -/
theorem run_ofObjects_cons (store : ObjectStore σ) (report : DestinationReport)
    (object : String × Bytes) (objects : List (String × Bytes)) (s : σ)
    (exchanges : List StoreExchange) :
    ∃ (handling : Handling) (after : σ), Handles store.checksExistence object handling ∧
      (Saving.ofObjects store.checksExistence report (object :: objects)).run store.recorded
          (s, exchanges) =
        (Saving.ofObjects store.checksExistence (report.count handling.fate) objects).run
          store.recorded (after, exchanges ++ handling.exchanges) := by
  obtain ⟨path, bytes⟩ := object
  cases checked : store.checksExistence path with
  | false =>
      refine ⟨⟨_, .ofWrite (store.write path bytes s).1⟩, (store.write path bytes s).2,
        .unchecked checked, ?_⟩
      simp [Saving.ofObjects, checked, Saving.run, ObjectStore.recorded,
        DestinationReport.count_ofWrite]
  | true =>
      by_cases present : (store.contains path s).1 = .ok true
      · refine ⟨⟨_, .skipped⟩, (store.contains path s).2, .present checked, ?_⟩
        simp [Saving.ofObjects, checked, Saving.run, ObjectStore.recorded, present,
          DestinationReport.count]
      · generalize looked : store.contains path s = outcome at present
        obtain ⟨answer, found⟩ := outcome
        refine ⟨⟨_, .ofWrite (store.write path bytes found).1⟩, (store.write path bytes found).2,
          .missing checked present, ?_⟩
        rcases answer with error | (_ | _)
        · simp [Saving.ofObjects, checked, Saving.run, ObjectStore.recorded, looked,
            DestinationReport.count_ofWrite]
        · simp [Saving.ofObjects, checked, Saving.run, ObjectStore.recorded, looked,
            DestinationReport.count_ofWrite]
        · exact absurd rfl present

private theorem run_ofObjects_recorded (store : ObjectStore σ) (report : DestinationReport)
    (objects : List (String × Bytes)) (s : σ) (exchanges : List StoreExchange) :
    ∃ (handlings : List Handling) (after : σ),
      List.Forall₂ (Handles store.checksExistence) objects handlings ∧
      (Saving.ofObjects store.checksExistence report objects).run store.recorded (s, exchanges) =
        ((handlings.map Handling.fate).foldl DestinationReport.count report,
          (after, exchanges ++ handlings.flatMap Handling.exchanges)) := by
  induction objects generalizing report s exchanges with
  | nil => exact ⟨[], s, .nil, by simp [Saving.ofObjects, Saving.run]⟩
  | cons object objects ih =>
      obtain ⟨handling, between, handles, first⟩ :=
        run_ofObjects_cons store report object objects s exchanges
      obtain ⟨handlings, after, handled, rest⟩ :=
        ih (report.count handling.fate) between (exchanges ++ handling.exchanges)
      refine ⟨handling :: handlings, after, .cons handles handled, ?_⟩
      rw [first, rest, List.map_cons, List.foldl_cons, List.flatMap_cons, List.append_assoc]

theorem Destination.save_eq_count (objects : ObjectSet) (d : Destination σ) :
    ∃ handlings : List Handling,
      List.Forall₂ (Handles d.store.checksExistence) objects.objects handlings ∧
      (d.recorded.save objects).2.state.2 = handlings.flatMap Handling.exchanges ∧
      (d.save objects).1 =
        { destination := d.store.name
          written := (handlings.map Handling.fate).count .written
          skipped := (handlings.map Handling.fate).count .skipped
          failed := (handlings.map Handling.fate).count .failed } := by
  obtain ⟨handlings, after, handled, outcome⟩ :=
    run_ofObjects_recorded d.store { destination := d.store.name } objects.objects d.state []
  refine ⟨handlings, handled, congrArg (fun outcome => outcome.2.2) outcome, ?_⟩
  rw [← (d.save_recorded objects).1]
  refine (congrArg Prod.fst outcome).trans ?_
  simp only [DestinationReport.foldl_count, Nat.zero_add]

theorem Destination.name_save (objects : ObjectSet) (d : Destination σ) :
    (d.save objects).1.destination = d.store.name := by
  obtain ⟨_, _, _, counted⟩ := d.save_eq_count objects
  rw [counted]

theorem Destination.accounts_save (objects : ObjectSet) (d : Destination σ) :
    Accounts d.store.checksExistence objects (d.recorded.save objects).2.state.2
      (d.save objects).1 := by
  obtain ⟨handlings, handled, recorded, counted⟩ := d.save_eq_count objects
  rw [recorded, counted]
  refine ⟨⟨handlings, handled, rfl, rfl, rfl, rfl⟩, ?_⟩
  rw [count_fates, List.length_map, ← handled.length_eq, ObjectSet.size]

end UptimeIntake
