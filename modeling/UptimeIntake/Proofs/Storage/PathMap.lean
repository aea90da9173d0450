import UptimeIntake.Proofs.Storage.Accounting

/-!
# Stores that keep what they are given

A store that keeps objects by path and does not fail. What it holds after any number of saves is
known from what it held before and from the saved sets: at a path that is checked the first object
stays, at any other path the last.
-/

set_option autoImplicit false

namespace UptimeIntake

variable {σ : Type}

/-- How a store keeps objects by path. In sound states the calls on the paths that it serves do not
fail, look-ups tell what is there, and writes change one path of those that are shown. -/
structure ObjectStore.PathMap (store : ObjectStore σ) where
  Serves : String → Prop
  Shows : String → Prop
  Sound : σ → Prop
  object? : σ → String → Option Bytes
  shows_of_serves : ∀ {path}, Serves path → Shows path
  contains_eq : ∀ {path s}, Serves path → Sound s →
    (store.contains path s).1 = .ok (object? s path).isSome
  sound_contains : ∀ {path s}, Serves path → Sound s → Sound (store.contains path s).2
  object?_contains : ∀ {path s other}, Serves path → Sound s → Shows other →
    object? (store.contains path s).2 other = object? s other
  write_eq : ∀ {path s} bytes, Serves path → Sound s → (store.write path bytes s).1 = .ok ()
  sound_write : ∀ {path s} bytes, Serves path → Sound s → Sound (store.write path bytes s).2
  object?_write : ∀ {path s other} bytes, Serves path → Sound s → Shows other →
    object? (store.write path bytes s).2 other =
      if other = path then some bytes else object? s other

/-- The store with another choice of the paths that are looked up before they are written. -/
def ObjectStore.checking (store : ObjectStore σ) (checks : String → Bool) : ObjectStore σ :=
  { store with checksExistence := checks }

def ObjectStore.PathMap.checking {store : ObjectStore σ} (map : store.PathMap)
    (checks : String → Bool) : (store.checking checks).PathMap :=
  { map with }

/-! ## Writes -/

def StoreExchange.isWriteTo (path : String) : StoreExchange → Bool
  | write other _ _ => other = path
  | contains _ _ => false

/-- How often a path was written. -/
def writesTo (path : String) (exchanges : List StoreExchange) : Nat :=
  exchanges.countP (StoreExchange.isWriteTo path)

@[simp] theorem writesTo_append (path : String) (first second : List StoreExchange) :
    writesTo path (first ++ second) = writesTo path first + writesTo path second :=
  List.countP_append

@[simp] theorem writesTo_contains (path other : String) (answer : Except StorageError Bool) :
    writesTo path [.contains other answer] = 0 := rfl

@[simp] theorem writesTo_write (path other : String) (bytes : Bytes)
    (result : Except StorageError Unit) :
    writesTo path [.write other bytes result] = if other = path then 1 else 0 := by
  simp [writesTo, StoreExchange.isWriteTo, List.countP_cons]

/-! ## One save -/

/-- What a save leaves at a path: at one that is checked what was there, at any other what is
saved. -/
def leaves (checks : String → Bool) (path : String) (before saved : Option Bytes) : Option Bytes :=
  if checks path then before.or saved else saved.or before

/-- How often a save writes a path: once if it has an object for it, unless the path is checked and
found. -/
def writesFor (checks : String → Bool) (path : String) (before saved : Option Bytes) : Nat :=
  (saved.isSome && !(checks path && before.isSome)).toNat

@[simp] theorem leaves_none (checks : String → Bool) (path : String) (before : Option Bytes) :
    leaves checks path before none = before := by
  simp [leaves]

@[simp] theorem writesFor_none (checks : String → Bool) (path : String) (before : Option Bytes) :
    writesFor checks path before none = 0 := rfl

namespace ObjectStore.PathMap

variable {store : ObjectStore σ} {map : store.PathMap} {s middle after : σ}

/-- The calls bring the store from one state to another, as a save of these objects does. -/
structure Saves (map : store.PathMap) (saved : String → Option Bytes) (s after : σ)
    (calls : List StoreExchange) : Prop where
  sound : map.Sound after
  object? : ∀ path, map.Shows path → map.object? after path =
    leaves store.checksExistence path (map.object? s path) (saved path)
  writes : ∀ path, map.Shows path → writesTo path calls =
    writesFor store.checksExistence path (map.object? s path) (saved path)

theorem Saves.nothing (sound : map.Sound s) : map.Saves (fun _ => none) s s [] where
  sound := sound
  object? _ _ := (leaves_none _ _ _).symm
  writes _ _ := rfl

theorem Saves.trans {first second : String → Option Bytes} {calls more : List StoreExchange}
    (earlier : map.Saves first s middle calls) (later : map.Saves second middle after more)
    (apart : ∀ path, first path = none ∨ second path = none) :
    map.Saves (fun path => (first path).or (second path)) s after (calls ++ more) where
  sound := later.sound
  object? path shown := by
    rw [later.object? path shown, earlier.object? path shown]
    rcases apart path with isNone | isNone
    · rw [isNone, leaves_none, Option.none_or]
    · rw [isNone, leaves_none, Option.or_none]
  writes path shown := by
    rw [writesTo_append, later.writes path shown, earlier.writes path shown,
      earlier.object? path shown]
    rcases apart path with isNone | isNone
    · rw [isNone, leaves_none, writesFor_none, Option.none_or, Nat.zero_add]
    · rw [isNone, writesFor_none, Option.or_none, Nat.add_zero]

/-! ### One object -/

/-- The objects of a list with one path only. -/
def single (path : String) (bytes : Bytes) (other : String) : Option Bytes :=
  if other = path then some bytes else none

theorem saves_write {path : String} (bytes : Bytes) (serves : map.Serves path)
    (sound : map.Sound s)
    (isNew : (store.checksExistence path && (map.object? s path).isSome) = false) :
    map.Saves (single path bytes) s (store.write path bytes s).2
      [.write path bytes (store.write path bytes s).1] where
  sound := map.sound_write bytes serves sound
  object? other shown := by
    rw [map.object?_write bytes serves sound shown, single]
    split
    · next same =>
        subst same
        cases checked : store.checksExistence other with
        | false => simp [leaves, checked]
        | true =>
            rw [checked, Bool.true_and, Option.isSome_eq_false_iff, Option.isNone_iff_eq_none]
              at isNew
            simp [leaves, isNew]
    · rw [leaves_none]
  writes other _ := by
    rw [writesTo_write, single]
    by_cases same : other = path
    · subst same
      simp [writesFor, isNew]
    · simp [same, Ne.symm same]

private theorem saves_skip {path : String} (bytes : Bytes) (serves : map.Serves path)
    (sound : map.Sound s) (checked : store.checksExistence path = true)
    (present : (map.object? s path).isSome = true) :
    map.Saves (single path bytes) s (store.contains path s).2
      [.contains path (store.contains path s).1] where
  sound := map.sound_contains serves sound
  object? other shown := by
    rw [map.object?_contains serves sound shown, single]
    split
    · next same =>
        subst same
        obtain ⟨held, found⟩ := Option.isSome_iff_exists.1 present
        simp [leaves, checked, found]
    · rw [leaves_none]
  writes other _ := by
    rw [writesTo_contains, single]
    split
    · next same =>
        subst same
        simp [writesFor, checked, present]
    · rfl

private theorem saves_contains {path : String} (serves : map.Serves path) (sound : map.Sound s) :
    map.Saves (fun _ => none) s (store.contains path s).2
      [.contains path (store.contains path s).1] where
  sound := map.sound_contains serves sound
  object? _ shown := by rw [map.object?_contains serves sound shown, leaves_none]
  writes _ _ := rfl

private theorem saves_contains_write {path : String} (bytes : Bytes) (serves : map.Serves path)
    (sound : map.Sound s) (missing : (map.object? s path).isSome = false) :
    let found := store.contains path s
    map.Saves (single path bytes) s (store.write path bytes found.2).2
      ([.contains path found.1] ++ [.write path bytes (store.write path bytes found.2).1]) := by
  intro found
  have lookedUp : map.Saves (fun _ => none) s found.2 [.contains path found.1] :=
    saves_contains serves sound
  have written : map.Saves (single path bytes) found.2 (store.write path bytes found.2).2
      [.write path bytes (store.write path bytes found.2).1] := by
    refine saves_write bytes serves lookedUp.sound ?_
    rw [map.object?_contains serves sound (map.shows_of_serves serves), missing, Bool.and_false]
  simpa only [Option.none_or] using lookedUp.trans written fun _ => .inl rfl

theorem run_ofObjects_cons (report : DestinationReport) {path : String} (bytes : Bytes)
    (objects : List (String × Bytes)) (exchanges : List StoreExchange) (serves : map.Serves path)
    (sound : map.Sound s) :
    ∃ counted after calls, map.Saves (single path bytes) s after calls ∧
      (Saving.ofObjects store.checksExistence report ((path, bytes) :: objects)).run store.recorded
          (s, exchanges) =
        (Saving.ofObjects store.checksExistence counted objects).run store.recorded
          (after, exchanges ++ calls) := by
  cases checked : store.checksExistence path with
  | false =>
      refine ⟨report.countWrite (store.write path bytes s).1, _, _,
        saves_write bytes serves sound (by rw [checked, Bool.false_and]), ?_⟩
      simp [Saving.ofObjects, checked, Saving.run, ObjectStore.recorded]
  | true =>
      have answer := map.contains_eq serves sound
      cases present : (map.object? s path).isSome with
      | true =>
          refine ⟨report.skip, _, _, saves_skip bytes serves sound checked present, ?_⟩
          rw [present] at answer
          simp [Saving.ofObjects, checked, Saving.run, ObjectStore.recorded, answer]
      | false =>
          refine ⟨report.countWrite (store.write path bytes (store.contains path s).2).1, _, _,
            saves_contains_write bytes serves sound present, ?_⟩
          rw [present] at answer
          simp [Saving.ofObjects, checked, Saving.run, ObjectStore.recorded, answer]

/-! ### All objects -/

private theorem lookup_eq_none_of_lt {path : String} {objects : List (String × Bytes)}
    (least : ∀ object ∈ objects, path < object.1) : objects.lookup path = none := by
  refine List.lookup_eq_none_iff.2 fun object member => ?_
  exact bne_iff_ne.2 (String.ne_of_lt (least object member))

private theorem saves_ofObjects (report : DestinationReport) {objects : List (String × Bytes)}
    (exchanges : List StoreExchange) (sorted : SortedByPath objects)
    (served : ∀ object ∈ objects, map.Serves object.1) (sound : map.Sound s) :
    ∃ after calls, map.Saves (fun path => objects.lookup path) s after calls ∧
      ((Saving.ofObjects store.checksExistence report objects).run store.recorded
        (s, exchanges)).2 = (after, exchanges ++ calls) := by
  induction objects generalizing report exchanges s with
  | nil => exact ⟨s, [], .nothing sound, by simp [Saving.ofObjects, Saving.run]⟩
  | cons object objects ih =>
      obtain ⟨path, bytes⟩ := object
      obtain ⟨least, sorted⟩ := List.pairwise_cons.1 sorted
      obtain ⟨serves, served⟩ := List.forall_mem_cons.1 served
      obtain ⟨counted, middle, calls, first, ran⟩ :=
        run_ofObjects_cons report bytes objects exchanges serves sound
      obtain ⟨after, more, rest, ranRest⟩ :=
        ih counted (exchanges ++ calls) sorted served first.sound
      have joined : (fun other => ((path, bytes) :: objects).lookup other) =
          fun other => (single path bytes other).or (objects.lookup other) := by
        funext other
        rw [lookup_cons_object, single]
        split <;> rfl
      refine ⟨after, calls ++ more, ?_, ?_⟩
      · rw [joined]
        refine first.trans rest fun other => ?_
        by_cases same : other = path
        · exact .inr (same ▸ lookup_eq_none_of_lt least)
        · exact .inl (if_neg same)
      · rw [ran, ranRest, List.append_assoc]

private theorem saves_save {objects : ObjectSet} (exchanges : List StoreExchange)
    (served : ∀ path ∈ objects.paths, map.Serves path) (sound : map.Sound s) :
    ∃ after calls, map.Saves objects.get? s after calls ∧
      (Destination.save objects ⟨store.recorded, (s, exchanges)⟩).2 =
        ⟨store.recorded, (after, exchanges ++ calls)⟩ := by
  have inList : ∀ object ∈ objects.objects, map.Serves object.1 :=
    fun object member => served object.1 (List.mem_map_of_mem member)
  obtain ⟨after, calls, saves, ran⟩ :=
    saves_ofObjects { destination := store.name } exchanges objects.sorted inList sound
  exact ⟨after, calls, saves, congrArg (Destination.mk store.recorded) ran⟩

end ObjectStore.PathMap

/-! ## Many saves -/

/-- Saves one set after the other. -/
def Destination.saveEach (sets : List ObjectSet) (d : Destination σ) : Destination σ :=
  sets.foldl (fun d objects => (d.save objects).2) d

private theorem Destination.saveEach_cons (objects : ObjectSet) (sets : List ObjectSet)
    (d : Destination σ) : d.saveEach (objects :: sets) = (d.save objects).2.saveEach sets := rfl

theorem Destination.saveEach_recorded (sets : List ObjectSet) (store : ObjectStore σ) (s : σ)
    (exchanges : List StoreExchange) :
    (saveEach sets ⟨store.recorded, (s, exchanges)⟩).state.1 =
      (saveEach sets ⟨store, s⟩).state := by
  induction sets generalizing s exchanges with
  | nil => rfl
  | cons objects sets ih =>
      have same := (Saving.run_recorded store (Saving.start store objects) s exchanges).2
      exact (ih _ _).trans (congrArg (fun state => (saveEach sets ⟨store, state⟩).state) same)

def ObjectStore.afterSaves (store : ObjectStore σ) (sets : List ObjectSet) (s : σ) : σ :=
  (Destination.saveEach sets ⟨store, s⟩).state

def ObjectStore.callsInSaves (store : ObjectStore σ) (sets : List ObjectSet) (s : σ) :
    List StoreExchange :=
  (Destination.saveEach sets (Destination.recorded ⟨store, s⟩)).state.2

/-- What saves of sets, one after the other, leave at a path, and how often they write it. -/
structure Retention (checks : String → Bool) (sets : List ObjectSet) (path : String)
    (before after : Option Bytes) (writes : Nat) : Prop where
  first_kept : checks path = true → after = before.or (sets.findSome? (·.get? path))
  last_kept : checks path = false → after = (sets.reverse.findSome? (·.get? path)).or before
  untouched : (∀ objects ∈ sets, objects.get? path = none) → after = before
  written_once : checks path = true →
    writes = (before.isNone && sets.any fun objects => (objects.get? path).isSome).toNat
  written_each : checks path = false →
    writes = sets.countP fun objects => (objects.get? path).isSome

namespace Retention

variable {checks : String → Bool} {path : String} {before : Option Bytes}

theorem nil : Retention checks [] path before before 0 where
  first_kept _ := Option.or_none.symm
  last_kept _ := rfl
  untouched _ := rfl
  written_once _ := by rw [List.any_nil, Bool.and_false]; rfl
  written_each _ := rfl

theorem cons {objects : ObjectSet} {sets : List ObjectSet} {after : Option Bytes} {writes : Nat}
    (rest : Retention checks sets path (leaves checks path before (objects.get? path)) after
      writes) :
    Retention checks (objects :: sets) path before after
      (writesFor checks path before (objects.get? path) + writes) where
  first_kept checked := by
    rw [rest.first_kept checked, leaves, if_pos checked, Option.or_assoc, List.findSome?_cons]
    cases objects.get? path <;> rfl
  last_kept unchecked := by
    rw [rest.last_kept unchecked, leaves, if_neg (Bool.eq_false_iff.1 unchecked),
      List.reverse_cons, List.findSome?_append, Option.or_assoc, List.findSome?_singleton]
  untouched missing := by
    obtain ⟨isMissing, missing⟩ := List.forall_mem_cons.1 missing
    rw [rest.untouched missing, isMissing, leaves_none]
  written_once checked := by
    rw [rest.written_once checked, leaves, if_pos checked, writesFor, checked, List.any_cons]
    cases before <;> cases objects.get? path <;> simp
  written_each unchecked := by
    rw [rest.written_each unchecked, writesFor, unchecked, List.countP_cons, Nat.add_comm]
    cases objects.get? path <;> rfl

end Retention

private theorem Retention.isSome_after {checks : String → Bool} {sets : List ObjectSet}
    {path : String}
    {before after : Option Bytes} {writes : Nat} {objects : ObjectSet}
    (retention : Retention checks sets path before after writes) (checked : checks path = true)
    (member : objects ∈ sets) (saved : (objects.get? path).isSome = true) :
    after.isSome = true := by
  rw [retention.first_kept checked, Option.isSome_or, Bool.or_eq_true]
  exact .inr (List.findSome?_isSome_iff.2 ⟨objects, member, saved⟩)

namespace ObjectStore.PathMap

variable {store : ObjectStore σ} (map : store.PathMap) {s : σ} {sets : List ObjectSet}

theorem saveEach_recorded_eq (exchanges : List StoreExchange)
    (served : ∀ objects ∈ sets, ∀ path ∈ objects.paths, map.Serves path)
    (sound : map.Sound s) :
    ∃ after calls, map.Sound after ∧
      Destination.saveEach sets ⟨store.recorded, (s, exchanges)⟩ =
        ⟨store.recorded, (after, exchanges ++ calls)⟩ ∧
      ∀ path, map.Shows path → Retention store.checksExistence sets path
        (map.object? s path) (map.object? after path) (writesTo path calls) := by
  induction sets generalizing s exchanges with
  | nil =>
      refine ⟨s, [], sound, ?_, fun path _ => .nil⟩
      rw [List.append_nil]
      rfl
  | cons objects sets ih =>
      obtain ⟨serves, served⟩ := List.forall_mem_cons.1 served
      obtain ⟨middle, calls, saves, saved⟩ := saves_save exchanges serves sound
      obtain ⟨after, more, stillSound, ran, rest⟩ :=
        ih (s := middle) (exchanges ++ calls) served saves.sound
      refine ⟨after, calls ++ more, stillSound, ?_, fun path shown => ?_⟩
      · rw [Destination.saveEach_cons, saved, ran, List.append_assoc]
      · rw [writesTo_append, saves.writes path shown]
        refine .cons ?_
        rw [← saves.object? path shown]
        exact rest path shown

theorem sound_afterSaves (served : ∀ objects ∈ sets, ∀ path ∈ objects.paths, map.Serves path)
    (sound : map.Sound s) : map.Sound (store.afterSaves sets s) := by
  obtain ⟨after, calls, stillSound, ran, _⟩ := map.saveEach_recorded_eq [] served sound
  rwa [ObjectStore.afterSaves, ← Destination.saveEach_recorded sets store s [], ran]

theorem retention_afterSaves
    (served : ∀ objects ∈ sets, ∀ path ∈ objects.paths, map.Serves path) (sound : map.Sound s)
    {path : String} (shown : map.Shows path) :
    Retention store.checksExistence sets path (map.object? s path)
      (map.object? (store.afterSaves sets s) path) (writesTo path (store.callsInSaves sets s)) := by
  obtain ⟨after, calls, _, ran, retention⟩ := map.saveEach_recorded_eq [] served sound
  rw [ObjectStore.afterSaves, ← Destination.saveEach_recorded sets store s [],
    ObjectStore.callsInSaves, Destination.recorded, ran]
  exact retention path shown

end ObjectStore.PathMap

/-! ## The same save again -/

theorem ObjectSet.isSome_get?_iff {objects : ObjectSet} {path : String} :
    (objects.get? path).isSome = true ↔ path ∈ objects.paths := by
  rw [get?, List.lookup_isSome_iff, paths, List.mem_map]
  simp only [beq_iff_eq, @eq_comm _ path]

/-- Objects that are all checked and found are skipped; nothing but look-ups is asked. -/
theorem Saving.run_ofObjects_present (store : ObjectStore σ) (s : σ)
    {objects : List (String × Bytes)} (report : DestinationReport)
    (exchanges : List StoreExchange)
    (checked : ∀ object ∈ objects, store.checksExistence object.1 = true)
    (found : ∀ object ∈ objects, store.contains object.1 s = (.ok true, s)) :
    (ofObjects store.checksExistence report objects).run store.recorded (s, exchanges) =
      ({ report with skipped := report.skipped + objects.length },
        (s, exchanges ++ objects.map fun object => .contains object.1 (.ok true))) := by
  induction objects generalizing report exchanges with
  | nil => simp [ofObjects, run]
  | cons object objects ih =>
      obtain ⟨path, bytes⟩ := object
      obtain ⟨isChecked, checked⟩ := List.forall_mem_cons.1 checked
      obtain ⟨isFound, found⟩ := List.forall_mem_cons.1 found
      have rest := ih report.skip (exchanges ++ [.contains path (.ok true)]) checked found
      simp only [ofObjects, isChecked, if_true, run, ObjectStore.recorded, isFound] at rest ⊢
      rw [rest]
      simp [DestinationReport.skip, Nat.add_comm, Nat.add_left_comm]

namespace ObjectStore.PathMap

variable {store : ObjectStore σ} (map : store.PathMap) {s : σ} {sets : List ObjectSet}
  {objects : ObjectSet}

theorem isSome_afterSaves (served : ∀ objects ∈ sets, ∀ path ∈ objects.paths, map.Serves path)
    (sound : map.Sound s) (member : objects ∈ sets) {path : String} (isPath : path ∈ objects.paths)
    (checked : store.checksExistence path = true) :
    (map.object? (store.afterSaves sets s) path).isSome = true := by
  have shown := map.shows_of_serves (served objects member path isPath)
  exact (map.retention_afterSaves served sound shown).isSome_after checked member
    (ObjectSet.isSome_get?_iff.2 isPath)

/-- A save of what was saved before writes nothing. -/
theorem writes_nothing_again
    (served : ∀ objects ∈ sets, ∀ path ∈ objects.paths, map.Serves path) (sound : map.Sound s)
    (member : objects ∈ sets)
    (checked : ∀ path ∈ objects.paths, store.checksExistence path = true) {path : String}
    (shown : map.Shows path) :
    let after := store.afterSaves sets s
    map.object? (store.afterSaves [objects] after) path = map.object? after path ∧
      writesTo path (store.callsInSaves [objects] after) = 0 := by
  intro after
  have again : Retention store.checksExistence [objects] path (map.object? after path)
      (map.object? (store.afterSaves [objects] after) path)
      (writesTo path (store.callsInSaves [objects] after)) :=
    map.retention_afterSaves (List.forall_mem_singleton.2 (served objects member))
      (map.sound_afterSaves served sound) shown
  cases saved : objects.get? path with
  | none =>
      refine ⟨again.untouched (List.forall_mem_singleton.2 saved), ?_⟩
      cases isChecked : store.checksExistence path with
      | true => simpa [saved] using again.written_once isChecked
      | false => simpa [saved] using again.written_each isChecked
  | some bytes =>
      have isPath : path ∈ objects.paths := ObjectSet.isSome_get?_iff.1 (by rw [saved]; rfl)
      have isChecked := checked path isPath
      obtain ⟨held, found⟩ :=
        Option.isSome_iff_exists.1 (map.isSome_afterSaves served sound member isPath isChecked)
      have same := again.first_kept isChecked
      have once := again.written_once isChecked
      rw [found] at same once ⊢
      exact ⟨same, once⟩

/-- Where look-ups change nothing, it changes nothing at all. -/
theorem save_again (idle : ∀ path s, (store.contains path s).2 = s)
    (served : ∀ objects ∈ sets, ∀ path ∈ objects.paths, map.Serves path) (sound : map.Sound s)
    (member : objects ∈ sets)
    (checked : ∀ path ∈ objects.paths, store.checksExistence path = true) :
    let after := store.afterSaves sets s
    Destination.save objects (Destination.recorded ⟨store, after⟩) =
      (⟨store.name, 0, objects.size, 0⟩,
        ⟨store.recorded, (after, objects.paths.map fun path => .contains path (.ok true))⟩) := by
  intro after
  have stillSound : map.Sound after := map.sound_afterSaves served sound
  have found : ∀ object ∈ objects.objects, store.contains object.1 after = (.ok true, after) := by
    intro object isObject
    have isPath : object.1 ∈ objects.paths := List.mem_map_of_mem isObject
    have answer := map.contains_eq (served objects member _ isPath) stillSound
    rw [map.isSome_afterSaves served sound member isPath (checked _ isPath)] at answer
    exact Prod.ext answer (idle _ _)
  have ran := Saving.run_ofObjects_present store after { destination := store.name } []
    (fun object isObject => checked _ (List.mem_map_of_mem isObject)) found
  have result : (Saving.start store objects).run store.recorded (after, []) =
      (⟨store.name, 0, objects.size, 0⟩,
        (after, objects.paths.map fun path => .contains path (.ok true))) := by
    rw [Saving.start, ran, ObjectSet.paths, List.map_map, ObjectSet.size, Nat.zero_add]
    rfl
  exact congrArg (fun outcome : DestinationReport × σ × List StoreExchange =>
    (outcome.1, Destination.mk store.recorded outcome.2)) result

end ObjectStore.PathMap

end UptimeIntake
