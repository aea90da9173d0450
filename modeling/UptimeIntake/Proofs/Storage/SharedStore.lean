import UptimeIntake.Proofs.Storage.Retention

/-!
# Saves on one store at the same time

Saves whose calls on one store fall between each other. Looking a path up and writing it are two
calls, so a path that is checked is written by every save that looks it up before the first of
them writes it, and what the last of them writes stays. An object that was there before all saves
is not replaced.
-/

set_option autoImplicit false

namespace UptimeIntake

variable {σ : Type}

def Saving.isFinished : Saving → Bool
  | finished _ => true
  | contains _ _ | write _ _ _ => false

/-- A store with the saves under way on it. -/
structure SharedStore (σ : Type) where
  state : σ
  saves : List Saving

namespace SharedStore

def start (store : ObjectStore σ) (sets : List ObjectSet) (s : σ) : SharedStore σ :=
  ⟨s, sets.map (Saving.start store)⟩

/-- The save of that number makes its next call, if there is one. -/
def turn (store : ObjectStore σ) (shared : SharedStore σ) (i : Nat) : SharedStore σ :=
  match shared.saves[i]? with
  | none => shared
  | some saving =>
    match saving.step? store shared.state with
    | none => shared
    | some (progress, state) => ⟨state, shared.saves.set i progress⟩

def run (store : ObjectStore σ) (turns : List Nat) (shared : SharedStore σ) : SharedStore σ :=
  turns.foldl (turn store) shared

def IsOver (shared : SharedStore σ) : Prop :=
  ∀ saving ∈ shared.saves, saving.isFinished = true

instance (shared : SharedStore σ) : Decidable shared.IsOver :=
  inferInstanceAs (Decidable (∀ saving ∈ shared.saves, saving.isFinished = true))

end SharedStore

def ObjectStore.afterTurns (store : ObjectStore σ) (sets : List ObjectSet) (turns : List Nat)
    (s : σ) : SharedStore σ :=
  (SharedStore.start store sets s).run store turns

def ObjectStore.callsInTurns (store : ObjectStore σ) (sets : List ObjectSet) (turns : List Nat)
    (s : σ) : List StoreExchange :=
  (store.recorded.afterTurns sets turns (s, [])).state.2

namespace SharedStore

private theorem turn_recorded (store : ObjectStore σ) (shared : SharedStore σ) (i : Nat)
    (calls : List StoreExchange) :
    ∃ more, turn store.recorded ⟨(shared.state, calls), shared.saves⟩ i =
      ⟨((turn store shared i).state, more), (turn store shared i).saves⟩ := by
  unfold turn
  cases shared.saves[i]? with
  | none => exact ⟨calls, rfl⟩
  | some saving =>
      cases saving with
      | finished report => exact ⟨calls, rfl⟩
      | contains path next => exact ⟨_, rfl⟩
      | write path bytes next => exact ⟨_, rfl⟩

theorem run_recorded (store : ObjectStore σ) (turns : List Nat) (shared : SharedStore σ)
    (calls : List StoreExchange) :
    ∃ more, run store.recorded turns ⟨(shared.state, calls), shared.saves⟩ =
      ⟨((run store turns shared).state, more), (run store turns shared).saves⟩ := by
  induction turns generalizing shared calls with
  | nil => exact ⟨calls, rfl⟩
  | cons i turns ih =>
      obtain ⟨more, turned⟩ := turn_recorded store shared i calls
      obtain ⟨all, ran⟩ := ih (turn store shared i) more
      refine ⟨all, ?_⟩
      rw [run, List.foldl_cons, turned]
      exact ran

private theorem afterTurns_recorded (store : ObjectStore σ) (sets : List ObjectSet)
    (turns : List Nat)
    (s : σ) :
    store.recorded.afterTurns sets turns (s, []) =
      ⟨((store.afterTurns sets turns s).state, store.callsInTurns sets turns s),
        (store.afterTurns sets turns s).saves⟩ := by
  obtain ⟨more, ran⟩ := run_recorded store turns (start store sets s) []
  have whole : store.recorded.afterTurns sets turns (s, []) =
      ⟨((store.afterTurns sets turns s).state, more), (store.afterTurns sets turns s).saves⟩ := ran
  rw [ObjectStore.callsInTurns, whole]

end SharedStore

/-! ## Calls for one path -/

def StoreExchange.isLookUpOf (path : String) : StoreExchange → Bool
  | contains other _ => other = path
  | write _ _ _ => false

def StoreExchange.written? (path : String) : StoreExchange → Option Bytes
  | contains _ _ => none
  | write other bytes _ => if other = path then some bytes else none

/-- How often a path was looked up before it was written for the first time. -/
def earlyLookUps (path : String) (calls : List StoreExchange) : Nat :=
  (calls.takeWhile fun call => !call.isWriteTo path).countP (StoreExchange.isLookUpOf path)

def lastWritten? (path : String) (calls : List StoreExchange) : Option Bytes :=
  (calls.filterMap (StoreExchange.written? path)).getLast?

theorem earlyLookUps_concat (path : String) (calls : List StoreExchange) (call : StoreExchange) :
    earlyLookUps path (calls ++ [call]) =
      earlyLookUps path calls +
        if writesTo path calls = 0 ∧ call.isLookUpOf path then 1 else 0 := by
  unfold earlyLookUps writesTo
  induction calls with
  | nil =>
      cases call with
      | contains other answer => simp [StoreExchange.isWriteTo, List.countP_cons]
      | write other bytes result =>
          by_cases same : other = path <;>
            simp [StoreExchange.isWriteTo, StoreExchange.isLookUpOf, same]
  | cons first calls ih =>
      rw [List.cons_append, List.takeWhile_cons, List.takeWhile_cons]
      cases isWrite : first.isWriteTo path with
      | true => simp [isWrite]
      | false =>
          simp only [Bool.not_false, if_true, List.countP_cons, isWrite, ih, Bool.false_eq_true,
            if_false, Nat.add_zero]
          omega

theorem lastWritten?_concat (path : String) (calls : List StoreExchange) (call : StoreExchange) :
    lastWritten? path (calls ++ [call]) = (call.written? path).or (lastWritten? path calls) := by
  rw [lastWritten?, List.filterMap_append, List.getLast?_append, List.filterMap_cons,
    List.filterMap_nil, lastWritten?]
  cases call.written? path <;> rfl

theorem lastWritten?_eq_none_iff {path : String} {calls : List StoreExchange} :
    lastWritten? path calls = none ↔ writesTo path calls = 0 := by
  rw [lastWritten?, List.getLast?_eq_none_iff, List.filterMap_eq_nil_iff, writesTo,
    List.countP_eq_zero]
  refine forall₂_congr fun call _ => ?_
  cases call with
  | contains other answer => simp [StoreExchange.written?, StoreExchange.isWriteTo]
  | write other bytes result => simp [StoreExchange.written?, StoreExchange.isWriteTo]

/-! ## One call of one save -/

namespace Saving

def isAboutToWrite (path : String) : Saving → Bool
  | write other _ _ => other = path
  | finished _ | contains _ _ => false

/-- A save of served objects that is between two objects, or has looked one up and goes on to write
it. -/
inductive Proceeds (serves : String → Prop) (checks : String → Bool) : Saving → Prop
  | between {report : DestinationReport} {objects : List (String × Bytes)}
      (served : ∀ object ∈ objects, serves object.1) :
      Proceeds serves checks (ofObjects checks report objects)
  | writing {path : String} {bytes : Bytes} {report : DestinationReport}
      {objects : List (String × Bytes)} (isServed : serves path)
      (served : ∀ object ∈ objects, serves object.1) :
      Proceeds serves checks
        (.write path bytes fun result => ofObjects checks (report.countWrite result) objects)

theorem isAboutToWrite_ofObjects {checks : String → Bool} {path : String}
    (checked : checks path = true) (report : DestinationReport)
    (objects : List (String × Bytes)) :
    (ofObjects checks report objects).isAboutToWrite path = false := by
  cases objects with
  | nil => rfl
  | cons object objects =>
      obtain ⟨other, bytes⟩ := object
      cases isChecked : checks other with
      | true => simp [ofObjects, isChecked, isAboutToWrite]
      | false =>
          have differ : other ≠ path := by
            rintro rfl
            rw [checked] at isChecked
            cases isChecked
          simp [ofObjects, isChecked, isAboutToWrite, differ]

end Saving

namespace ObjectStore.PathMap

variable {store : ObjectStore σ} {map : store.PathMap} {path : String} {s after : σ}
  {calls : List StoreExchange} {saving next : Saving} {call : StoreExchange} {before : Option Bytes}

/-- One call of a save, with the states of the store and of the save before and after it. -/
inductive Calls (map : store.PathMap) (path : String) (saving next : Saving) (s : σ) :
    StoreExchange → σ → Prop
  | looksUp {other : String} {isThere : Bool} (serves : map.Serves other)
      (found : (map.object? s other).isSome = isThere)
      (waits : saving.isAboutToWrite path = false)
      (goesOn : next.isAboutToWrite path = (decide (other = path) && !isThere)) :
      Calls map path saving next s (.contains other (.ok isThere)) (store.contains other s).2
  | writes {other : String} {bytes : Bytes} (serves : map.Serves other)
      (waits : saving.isAboutToWrite path = decide (other = path))
      (goesOn : next.isAboutToWrite path = false) :
      Calls map path saving next s (.write other bytes (.ok ())) (store.write other bytes s).2

private theorem step?_contains (other : String) (goOn : Except StorageError Bool → Saving) :
    (Saving.contains other goOn).step? store.recorded (s, calls) =
      some (goOn (store.contains other s).1,
        ((store.contains other s).2, calls ++ [.contains other (store.contains other s).1])) := rfl

private theorem step?_write (other : String) (bytes : Bytes)
    (goOn : Except StorageError Unit → Saving) :
    (Saving.write other bytes goOn).step? store.recorded (s, calls) =
      some (goOn (store.write other bytes s).1,
        ((store.write other bytes s).2,
          calls ++ [.write other bytes (store.write other bytes s).1])) := rfl

variable {other : String} {bytes : Bytes} {report : DestinationReport}
  {objects : List (String × Bytes)} {reached : σ × List StoreExchange}

theorem calls_of_write (checked : store.checksExistence path = true) (sound : map.Sound s)
    (isServed : map.Serves other) (served : ∀ object ∈ objects, map.Serves object.1)
    (isWrite : saving = .write other bytes fun result =>
      .ofObjects store.checksExistence (report.countWrite result) objects)
    (stepped : saving.step? store.recorded (s, calls) = some (next, reached)) :
    next.Proceeds map.Serves store.checksExistence ∧
      ∃ call after, reached = (after, calls ++ [call]) ∧
        map.Calls path saving next s call after := by
  subst isWrite
  rw [step?_write, map.write_eq bytes isServed sound] at stepped
  obtain ⟨rfl, rfl⟩ := Prod.mk.inj (Option.some.inj stepped)
  exact ⟨.between served, _, _, rfl,
    .writes isServed rfl (Saving.isAboutToWrite_ofObjects checked _ _)⟩

private theorem calls_of_contains (checked : store.checksExistence path = true)
    (sound : map.Sound s)
    (isServed : map.Serves other) (served : ∀ object ∈ objects, map.Serves object.1)
    (isLookUp : saving = .contains other fun
      | .ok true => .ofObjects store.checksExistence report.skip objects
      | .ok false | .error _ => .write other bytes fun result =>
        .ofObjects store.checksExistence (report.countWrite result) objects)
    (stepped : saving.step? store.recorded (s, calls) = some (next, reached)) :
    next.Proceeds map.Serves store.checksExistence ∧
      ∃ call after, reached = (after, calls ++ [call]) ∧
        map.Calls path saving next s call after := by
  subst isLookUp
  rw [step?_contains, map.contains_eq isServed sound] at stepped
  cases found : (map.object? s other).isSome with
  | true =>
      rw [found] at stepped
      obtain ⟨rfl, rfl⟩ := Prod.mk.inj (Option.some.inj stepped)
      have goesOn := Saving.isAboutToWrite_ofObjects checked report.skip objects
      exact ⟨.between served, _, _, rfl,
        .looksUp isServed found rfl (goesOn.trans (Bool.and_false _).symm)⟩
  | false =>
      rw [found] at stepped
      obtain ⟨rfl, rfl⟩ := Prod.mk.inj (Option.some.inj stepped)
      exact ⟨.writing isServed served, _, _, rfl,
        .looksUp isServed found rfl (Bool.and_true _).symm⟩

private theorem calls_of_step? (checked : store.checksExistence path = true) (sound : map.Sound s)
    (proceeds : saving.Proceeds map.Serves store.checksExistence)
    (stepped : saving.step? store.recorded (s, calls) = some (next, reached)) :
    next.Proceeds map.Serves store.checksExistence ∧
      ∃ call after, reached = (after, calls ++ [call]) ∧
        map.Calls path saving next s call after := by
  cases proceeds with
  | writing isServed served => exact calls_of_write checked sound isServed served rfl stepped
  | @between report objects served =>
      cases objects with
      | nil => cases stepped
      | cons object objects =>
          obtain ⟨other, bytes⟩ := object
          obtain ⟨isServed, served⟩ := List.forall_mem_cons.1 served
          cases isChecked : store.checksExistence other with
          | false =>
              have unchecked : ¬ store.checksExistence other = true := Bool.eq_false_iff.1 isChecked
              exact calls_of_write checked sound isServed served (if_neg unchecked) stepped
          | true => exact calls_of_contains checked sound isServed served (if_pos isChecked) stepped

/-! ## What every call keeps -/

/-- The books on a checked path: what the store holds there was written last or was there before,
and every look-up before the first write has led to a write or is about to. -/
structure Ledger (map : store.PathMap) (path : String) (before : Option Bytes) (s : σ)
    (calls : List StoreExchange) (aboutToWrite : Nat) : Prop where
  sound : map.Sound s
  held : map.object? s path = (lastWritten? path calls).or before
  balance : writesTo path calls + aboutToWrite =
    if before.isSome then 0 else earlyLookUps path calls
  succeed : ∀ other bytes result, StoreExchange.write other bytes result ∈ calls → result = .ok ()

variable {aboutToWrite aboutThen : Nat}

theorem Ledger.present_iff (ledger : map.Ledger path before s calls aboutToWrite) :
    (map.object? s path).isSome = true ↔ before.isSome = true ∨ writesTo path calls ≠ 0 := by
  rw [ledger.held, Option.isSome_or, Bool.or_eq_true, or_comm, ne_eq, ← lastWritten?_eq_none_iff,
    Option.isSome_iff_ne_none (o := lastWritten? path calls)]

theorem Ledger.looksUp (shown : map.Shows path) {isThere : Bool}
    (ledger : map.Ledger path before s calls aboutToWrite) (serves : map.Serves other)
    (found : (map.object? s other).isSome = isThere)
    (counted : aboutThen = aboutToWrite + (decide (other = path) && !isThere).toNat) :
    map.Ledger path before (store.contains other s).2 (calls ++ [.contains other (.ok isThere)])
      aboutThen := by
  have balance := ledger.balance
  refine ⟨map.sound_contains serves ledger.sound, ?_, ?_, ?_⟩
  · rw [map.object?_contains serves ledger.sound shown, lastWritten?_concat, ledger.held]
    rfl
  · rw [writesTo_append, writesTo_contains, earlyLookUps_concat]
    by_cases same : other = path
    · subst same
      have present := ledger.present_iff
      cases isThere with
      | true =>
          have still : aboutThen = aboutToWrite := by simpa using counted
          rcases present.1 found with wasThere | isWritten
          · simpa [still, wasThere] using balance
          · simpa [still, isWritten] using balance
      | false =>
          have more : aboutThen = aboutToWrite + 1 := by simpa using counted
          rw [found] at present
          obtain ⟨absent, unwritten⟩ := not_or.1 fun was => Bool.false_ne_true (present.2 was)
          have unwritten := Decidable.not_not.1 unwritten
          simpa [more, absent, unwritten, StoreExchange.isLookUpOf] using balance
    · have still : aboutThen = aboutToWrite := by simpa [same] using counted
      simpa [still, same, StoreExchange.isLookUpOf] using balance
  · intro written bytes result member
    refine ledger.succeed written bytes result ?_
    simpa using member

theorem Ledger.writes (shown : map.Shows path)
    (ledger : map.Ledger path before s calls aboutToWrite) (serves : map.Serves other)
    (bytes : Bytes) (counted : aboutThen + (decide (other = path)).toNat = aboutToWrite) :
    map.Ledger path before (store.write other bytes s).2 (calls ++ [.write other bytes (.ok ())])
      aboutThen := by
  have balance := ledger.balance
  refine ⟨map.sound_write bytes serves ledger.sound, ?_, ?_, ?_⟩
  · rw [map.object?_write bytes serves ledger.sound shown, lastWritten?_concat, ledger.held]
    by_cases same : path = other
    · simp [StoreExchange.written?, same]
    · simp [StoreExchange.written?, same, Ne.symm same]
  · rw [writesTo_append, writesTo_write, earlyLookUps_concat]
    by_cases same : other = path
    · have fewer : aboutThen + 1 = aboutToWrite := by simpa [same] using counted
      subst fewer
      simpa [same, StoreExchange.isLookUpOf, Nat.add_assoc, Nat.add_comm] using balance
    · have still : aboutThen = aboutToWrite := by simpa [same] using counted
      simpa [still, same, StoreExchange.isLookUpOf] using balance
  · intro written bytes result member
    rcases List.mem_append.1 member with old | isNew
    · exact ledger.succeed written bytes result old
    · cases List.mem_singleton.1 isNew
      rfl

theorem Ledger.extend (shown : map.Shows path)
    (ledger : map.Ledger path before s calls aboutToWrite)
    (called : map.Calls path saving next s call after)
    (counted : aboutThen + (saving.isAboutToWrite path).toNat =
      aboutToWrite + (next.isAboutToWrite path).toNat) :
    map.Ledger path before after (calls ++ [call]) aboutThen := by
  cases called with
  | looksUp serves found waits goesOn =>
      rw [waits, goesOn] at counted
      exact ledger.looksUp shown serves found counted
  | writes serves waits goesOn =>
      rw [waits, goesOn] at counted
      exact ledger.writes shown serves _ counted

/-- The saves under way go on as saves do, and the books on a checked path are right. -/
structure Balanced (map : store.PathMap) (path : String) (before : Option Bytes)
    (shared : SharedStore (σ × List StoreExchange)) : Prop where
  proceeds : ∀ saving ∈ shared.saves, saving.Proceeds map.Serves store.checksExistence
  ledger : map.Ledger path before shared.state.1 shared.state.2
    (shared.saves.countP (Saving.isAboutToWrite path))

variable {shared : SharedStore (σ × List StoreExchange)}

private theorem countP_set_add {saves : List Saving} {i : Nat}
    (inFlight : saves[i]? = some saving) :
    (saves.set i next).countP (Saving.isAboutToWrite path) + (saving.isAboutToWrite path).toNat =
      saves.countP (Saving.isAboutToWrite path) + (next.isAboutToWrite path).toNat := by
  obtain ⟨inRange, isSaving⟩ := List.getElem?_eq_some_iff.1 inFlight
  have atLeast := List.boole_getElem_le_countP (p := Saving.isAboutToWrite path) inRange
  have one_or_none (b : Bool) : (if b = true then 1 else 0) = b.toNat := by cases b <;> rfl
  rw [List.countP_set inRange]
  rw [isSaving, one_or_none] at atLeast ⊢
  rw [one_or_none]
  omega

theorem Balanced.turn (shown : map.Shows path) (checked : store.checksExistence path = true)
    (balanced : map.Balanced path before shared) (i : Nat) :
    map.Balanced path before (shared.turn store.recorded i) := by
  unfold SharedStore.turn
  cases inFlight : shared.saves[i]? with
  | none => exact balanced
  | some saving =>
      have proceeds := balanced.proceeds saving (List.mem_of_getElem? inFlight)
      cases stepped : saving.step? store.recorded shared.state with
      | none => simpa only [stepped] using balanced
      | some reached =>
          obtain ⟨next, reached⟩ := reached
          obtain ⟨goesOn, call, after, rfl, called⟩ :=
            calls_of_step? checked balanced.ledger.sound proceeds stepped
          simp only [stepped]
          constructor
          · intro other member
            rcases List.mem_or_eq_of_mem_set member with old | rfl
            · exact balanced.proceeds other old
            · exact goesOn
          · exact balanced.ledger.extend shown called (countP_set_add inFlight)

theorem Balanced.run (shown : map.Shows path) (checked : store.checksExistence path = true)
    (balanced : map.Balanced path before shared) (turns : List Nat) :
    map.Balanced path before (shared.run store.recorded turns) := by
  induction turns generalizing shared with
  | nil => exact balanced
  | cons i turns ih => exact ih (balanced.turn shown checked i)

private theorem balanced_start {sets : List ObjectSet} (checked : store.checksExistence path = true)
    (served : ∀ objects ∈ sets, ∀ path ∈ objects.paths, map.Serves path) (sound : map.Sound s) :
    map.Balanced path (map.object? s path) (.start store.recorded sets (s, [])) := by
  constructor
  · intro saving member
    obtain ⟨objects, isSet, rfl⟩ := List.mem_map.1 member
    exact .between fun object isObject =>
      served objects isSet object.1 (List.mem_map_of_mem isObject)
  · have none_yet : (sets.map (Saving.start store.recorded)).countP
        (Saving.isAboutToWrite path) = 0 := by
      refine List.countP_eq_zero.2 fun saving member => ?_
      obtain ⟨objects, _, rfl⟩ := List.mem_map.1 member
      exact Bool.eq_false_iff.1 (Saving.isAboutToWrite_ofObjects checked _ _)
    refine ⟨sound, rfl, ?_, fun _ _ _ member => nomatch member⟩
    rw [SharedStore.start, none_yet]
    exact (ite_self 0).symm

end ObjectStore.PathMap

/-! ## Result -/

/-- What saves under way together do to a checked path. -/
structure Race (path : String) (before after : Option Bytes) (calls : List StoreExchange)
    (isOver : Prop) : Prop where
  present_kept : before.isSome = true → after = before ∧ writesTo path calls = 0
  last_kept : after = (lastWritten? path calls).or before
  bounded : writesTo path calls ≤ earlyLookUps path calls
  each_early_writes : before = none → isOver → writesTo path calls = earlyLookUps path calls
  succeed : ∀ other bytes result, StoreExchange.write other bytes result ∈ calls → result = .ok ()

theorem ObjectStore.PathMap.race {store : ObjectStore σ} (map : store.PathMap) {s : σ}
    {sets : List ObjectSet} {path : String} (turns : List Nat)
    (served : ∀ objects ∈ sets, ∀ path ∈ objects.paths, map.Serves path) (sound : map.Sound s)
    (shown : map.Shows path) (checked : store.checksExistence path = true) :
    Race path (map.object? s path) (map.object? (store.afterTurns sets turns s).state path)
      (store.callsInTurns sets turns s) (store.afterTurns sets turns s).IsOver := by
  have balanced := (map.balanced_start checked served sound).run shown checked turns
  rw [← ObjectStore.afterTurns, SharedStore.afterTurns_recorded] at balanced
  obtain ⟨_, _, held, balance, succeed⟩ := balanced
  dsimp only at held balance succeed
  constructor
  · intro present
    rw [if_pos present] at balance
    have unwritten : writesTo path (store.callsInTurns sets turns s) = 0 :=
      (Nat.add_eq_zero_iff.1 balance).1
    refine ⟨?_, unwritten⟩
    rw [held, lastWritten?_eq_none_iff.2 unwritten, Option.none_or]
  · exact held
  · split at balance
    · omega
    · omega
  · intro absent isOver
    have nothing_left : (store.afterTurns sets turns s).saves.countP
        (Saving.isAboutToWrite path) = 0 := by
      refine List.countP_eq_zero.2 fun saving member => ?_
      have finished := isOver saving member
      cases saving with
      | finished report => exact Bool.false_ne_true
      | contains other goOn => cases finished
      | write other bytes goOn => cases finished
    rw [absent, nothing_left] at balance
    exact balance
  · exact succeed

/-- Saves of sets on one store, whose calls are made in any order of turns. In a store that keeps
objects by path, the memory store and the file store among them, a checked path is written at most
once for each look-up before its first write, and exactly as often once the saves are over. An
object that was there before them is kept; otherwise the last that was written stays. -/
theorem checked_path_written_for_each_early_look_up (sets : List ObjectSet) (turns : List Nat) :
    (∀ {σ : Type} (store : ObjectStore σ) (map : store.PathMap) (s : σ),
      (∀ objects ∈ sets, ∀ path ∈ objects.paths, map.Serves path) → map.Sound s →
      ∀ path, map.Shows path → store.checksExistence path = true →
        let shared := store.afterTurns sets turns s
        Race path (map.object? s path) (map.object? shared.state path)
          (store.callsInTurns sets turns s) shared.IsOver) ∧
    (∀ (name : String) (checks : String → Bool) (m : MemoryStore) (path : String),
      checks path = true →
        let store := (MemoryStore.store name).checking checks
        let shared := store.afterTurns sets turns m
        Race path (m.get? path) (shared.state.get? path) (store.callsInTurns sets turns m)
          shared.IsOver) ∧
    ((∀ objects ∈ sets, ∀ path ∈ objects.paths, IsObjectPath path) →
      ∀ s : FileSystemStore, s.IsClear (fun path => ∃ objects ∈ sets, path ∈ objects.paths) →
        ∀ (checks : String → Bool) (path : String), ¬ IsTemporaryPath path →
          checks path = true →
            let store := FileSystemStore.store.checking checks
            let shared := store.afterTurns sets turns s
            Race path (s.object? path) (shared.state.object? path)
              (store.callsInTurns sets turns s) shared.IsOver) := by
  refine ⟨?_, ?_, ?_⟩
  · intro σ store map s served sound path shown checked
    exact map.race turns served sound shown checked
  · intro name checks m path checked
    exact ((MemoryStore.map name).checking checks).race turns (fun _ _ _ _ => trivial) trivial
      trivial checked
  · intro areObjects s clear checks path shown checked
    have served : ∀ objects ∈ sets, ∀ path ∈ objects.paths, FileSystemStore.IsServed
        (fun path => ∃ objects ∈ sets, path ∈ objects.paths) path :=
      fun objects member path isPath =>
        ⟨⟨objects, member, isPath⟩, areObjects objects member path isPath⟩
    exact ((FileSystemStore.map _).checking checks).race turns served clear shown checked

/-- Two sets that have different bytes for one path. -/
private def rivals (path : String) : List ObjectSet :=
  [.ofList [(path, [1])], .ofList [(path, [2])]]

/-- Of three saves on an empty store two look the path up before it is written. Both write it, and
the third finds it. On the file store, too, the path holds what was written last. -/
theorem checked_path_written_for_each_early_look_up_of_three :
    let path := (StoragePaths.build ⟨0, 0, by decide, by decide, by decide⟩
      (Octets.zero 32).toHexString (Octets.zero 32)).block
    let sets := rivals path ++ [.ofList [(path, [3])]]
    let turns := [0, 1, 0, 2, 1]
    let memory := (MemoryStore.store "memory").checking isBlockPath
    let files := FileSystemStore.store
    (memory.afterTurns sets turns .empty).IsOver ∧
      earlyLookUps path (memory.callsInTurns sets turns .empty) = 2 ∧
      writesTo path (memory.callsInTurns sets turns .empty) = 2 ∧
      (memory.afterTurns sets turns .empty).state.get? path = some [2] ∧
      (files.afterTurns sets turns (.empty "/srv")).state.object? path =
        (lastWritten? path (files.callsInTurns sets turns (.empty "/srv"))).or none := by
  intro path sets turns memory files
  obtain ⟨_, memoryStore, fileStore⟩ := checked_path_written_for_each_early_look_up sets turns
  have inMemory := memoryStore "memory" isBlockPath .empty path (by decide +kernel)
  have isObject : IsObjectPath path := ⟨_, _, _, .inr rfl⟩
  have areObjects : ∀ objects ∈ sets, ∀ other ∈ objects.paths, IsObjectPath other := by
    simp [sets, rivals, ObjectSet.ofList, ObjectSet.insert, ObjectSet.empty, ObjectSet.paths,
      insertSorted, isObject]
  have room : HasRoom "/srv" := ⟨by decide, by decide⟩
  have inFiles := fileStore areObjects (.empty "/srv") (FileSystemStore.isClear_empty _ room)
    (fun _ => true) path isObject.not_isTemporaryPath rfl
  obtain ⟨isOver, early, last⟩ : (memory.afterTurns sets turns .empty).IsOver ∧
      earlyLookUps path (memory.callsInTurns sets turns .empty) = 2 ∧
      lastWritten? path (memory.callsInTurns sets turns .empty) = some [2] := by
    decide +kernel
  refine ⟨isOver, early, ?_, ?_, inFiles.last_kept⟩
  · rw [← early]
    exact inMemory.each_early_writes rfl isOver
  · exact inMemory.last_kept.trans (congrArg (·.or none) last)

set_option maxRecDepth 100000 in
/-- Both saves look the path up before either writes it. The first one then overwrites the file that
the second has written, a metadata file too, and the same goes for blocks in memory. -/
theorem save_overwrites_object_of_its_rival :
    let raced := fun path : String =>
      [StoreExchange.contains path (.ok false), .contains path (.ok false),
        .write path [2] (.ok ()), .write path [1] (.ok ())]
    let turns := [0, 1, 1, 0]
    let metadata := "submissions/2024-03-01/2024-03-01T10:00:00Z-aa.json"
    let files := FileSystemStore.store
    let block := "blocks/aa.dat"
    let memory := MemoryStore.store "memory"
    files.checksExistence metadata = true ∧ memory.checksExistence block = true ∧
      files.callsInTurns (rivals metadata) turns (.empty "/srv") = raced metadata ∧
      (files.afterTurns (rivals metadata) turns (.empty "/srv")).state.object? metadata =
        some [1] ∧
      memory.callsInTurns (rivals block) turns .empty = raced block ∧
      (memory.afterTurns (rivals block) turns .empty).state.writeCount block = 2 ∧
      ∀ path ∈ [metadata, block], writesTo path (raced path) = 2 := by
  decide +kernel

end UptimeIntake
