import UptimeIntake.Proofs.Storage.FileSystem
import UptimeIntake.Storage.Memory

/-!
# What saves leave behind

Saves on one store, one after the other. Where a path is checked, the first object saved there
stays, and an object that was there before them; anywhere else the last one does. So the memory
store writes a block at most once and metadata every time, and the file store, which checks every
path, is left as it is by a save that it has seen before.
-/

set_option autoImplicit false

namespace UptimeIntake

/-! ## The memory store -/

namespace MemoryStore

/-- The memory store keeps every object by its path. -/
def map (name : String) : (store name).PathMap where
  Serves _ := True
  Shows _ := True
  Sound _ := True
  object? := get?
  shows_of_serves := id
  contains_eq _ _ := rfl
  sound_contains _ _ := trivial
  object?_contains _ _ _ := rfl
  write_eq _ _ _ := rfl
  sound_write _ _ _ := trivial
  object?_write bytes _ _ _ := ObjectSet.get?_insert _ _ bytes _

private theorem writeCount_write (m : MemoryStore) (path other : String) (bytes : Bytes) :
    (m.write path bytes).writeCount other = m.writeCount other + if path = other then 1 else 0 := by
  simp only [writeCount, write, List.count_cons, beq_iff_eq]

/-- Between two states of a recorded run the count of a path grows as its writes do. -/
def CountsWrites (path : String) (before after : MemoryStore × List StoreExchange) : Prop :=
  after.1.writeCount path + writesTo path before.2 =
    before.1.writeCount path + writesTo path after.2

theorem CountsWrites.trans {path : String} {before middle after : MemoryStore × List StoreExchange}
    (earlier : CountsWrites path before middle) (later : CountsWrites path middle after) :
    CountsWrites path before after := by
  unfold CountsWrites at *
  omega

private theorem countsWrites_contains (path other : String) (answer : Except StorageError Bool)
    (s : MemoryStore × List StoreExchange) :
    CountsWrites path s (s.1, s.2 ++ [.contains other answer]) := by
  rw [CountsWrites, writesTo_append, writesTo_contains, Nat.add_zero]

private theorem countsWrites_write (path other : String) (bytes : Bytes)
    (result : Except StorageError Unit) (s : MemoryStore × List StoreExchange) :
    CountsWrites path s (s.1.write other bytes, s.2 ++ [.write other bytes result]) := by
  rw [CountsWrites, writesTo_append, writesTo_write, writeCount_write, Nat.add_assoc,
    Nat.add_comm (writesTo path s.2)]

private theorem countsWrites_run (name path : String) (checks : String → Bool) (saving : Saving)
    (s : MemoryStore × List StoreExchange) :
    CountsWrites path s (saving.run ((store name).checking checks).recorded s).2 := by
  induction saving generalizing s with
  | finished report => exact rfl
  | contains other next ih => exact (countsWrites_contains path other _ s).trans (ih _ _)
  | write other bytes next ih => exact (countsWrites_write path other bytes _ s).trans (ih _ _)

private theorem countsWrites_saveEach (name path : String) (checks : String → Bool)
    (sets : List ObjectSet) (s : MemoryStore × List StoreExchange) :
    CountsWrites path s
      (Destination.saveEach sets ⟨((store name).checking checks).recorded, s⟩).state := by
  induction sets generalizing s with
  | nil => exact rfl
  | cons objects sets ih => exact (countsWrites_run name path checks _ s).trans (ih _)

private theorem writeCount_afterSaves (name path : String) (checks : String → Bool)
    (sets : List ObjectSet) (m : MemoryStore) :
    let kept := (store name).checking checks
    (kept.afterSaves sets m).writeCount path =
      m.writeCount path + writesTo path (kept.callsInSaves sets m) := by
  intro kept
  rw [ObjectStore.afterSaves, ← Destination.saveEach_recorded sets kept m []]
  exact countsWrites_saveEach name path checks sets (m, [])

theorem retention_afterSaves (name : String) (checks : String → Bool) (sets : List ObjectSet)
    (m : MemoryStore) (path : String) :
    let kept := (store name).checking checks
    Retention checks sets path (m.get? path) ((kept.afterSaves sets m).get? path)
      (writesTo path (kept.callsInSaves sets m)) :=
  ((map name).checking checks).retention_afterSaves (fun _ _ _ _ => trivial) trivial trivial

end MemoryStore

/-! ## All stores -/

/-- Saves on one store, one after the other. In a store that keeps objects by path, the memory store
and the file store among them, the first object of a checked path is kept, and one that was there
before; of any other path the last is kept; and nothing else changes. With every path checked, as the
file store has it, a set that was saved before is not written again. A memory store that checks
blocks counts at most one write for a block and one for each set that holds other bytes. -/
theorem saves_keep_first_of_checked_and_last_of_others (sets : List ObjectSet) :
    (∀ {σ : Type} (store : ObjectStore σ) (map : store.PathMap) (s : σ),
      (∀ objects ∈ sets, ∀ path ∈ objects.paths, map.Serves path) → map.Sound s →
      ∀ path, map.Shows path →
        let after := store.afterSaves sets s
        Retention store.checksExistence sets path (map.object? s path) (map.object? after path)
          (writesTo path (store.callsInSaves sets s)) ∧
        ((∀ path, store.checksExistence path = true) → ∀ objects ∈ sets,
          map.object? (store.afterSaves [objects] after) path = map.object? after path ∧
            writesTo path (store.callsInSaves [objects] after) = 0)) ∧
    (∀ (name : String) (checks : String → Bool) (m : MemoryStore) (path : String),
      let store := (MemoryStore.store name).checking checks
      Retention checks sets path (m.get? path) ((store.afterSaves sets m).get? path)
        (writesTo path (store.callsInSaves sets m))) ∧
    (∀ (name : String) (m : MemoryStore) (path : String),
      let after := (MemoryStore.store name).afterSaves sets m
      if isBlockPath path then after.writeCount path ≤ m.writeCount path + 1
      else after.writeCount path =
        m.writeCount path + sets.countP fun objects => (objects.get? path).isSome) ∧
    ((∀ objects ∈ sets, ∀ path ∈ objects.paths, IsObjectPath path) →
      ∀ s : FileSystemStore, s.IsClear (fun path => ∃ objects ∈ sets, path ∈ objects.paths) →
        (∀ (checks : String → Bool) (path : String), ¬ IsTemporaryPath path →
          let store := FileSystemStore.store.checking checks
          Retention checks sets path (s.object? path) ((store.afterSaves sets s).object? path)
            (writesTo path (store.callsInSaves sets s))) ∧
        ∀ objects ∈ sets,
          let after := FileSystemStore.store.afterSaves sets s
          Destination.save objects (Destination.recorded ⟨FileSystemStore.store, after⟩) =
            (⟨FileSystemStore.name, 0, objects.size, 0⟩,
              ⟨FileSystemStore.store.recorded,
                (after, objects.paths.map fun path => .contains path (.ok true))⟩)) := by
  refine ⟨?_, ?_, ?_, ?_⟩
  · intro σ store map s served sound path shown
    refine ⟨map.retention_afterSaves served sound shown, ?_⟩
    intro checked objects member
    exact map.writes_nothing_again served sound member (fun path _ => checked path) shown
  · intro name checks m path
    exact MemoryStore.retention_afterSaves name checks sets m path
  · intro name m path after
    have counted : after.writeCount path = m.writeCount path +
        writesTo path ((MemoryStore.store name).callsInSaves sets m) :=
      MemoryStore.writeCount_afterSaves name path isBlockPath sets m
    have retention := MemoryStore.retention_afterSaves name isBlockPath sets m path
    cases isBlock : isBlockPath path with
    | true =>
        rw [if_pos rfl, counted]
        exact Nat.add_le_add_left (retention.written_once isBlock ▸ Bool.toNat_le _) _
    | false =>
        rw [if_neg Bool.false_ne_true, counted]
        exact congrArg _ (retention.written_each isBlock)
  · intro areObjects s clear
    have served : ∀ objects ∈ sets, ∀ path ∈ objects.paths, FileSystemStore.IsServed
        (fun path => ∃ objects ∈ sets, path ∈ objects.paths) path :=
      fun objects member path isPath =>
        ⟨⟨objects, member, isPath⟩, areObjects objects member path isPath⟩
    refine ⟨fun checks path shown => ?_, fun objects member => ?_⟩
    · exact ((FileSystemStore.map _).checking checks).retention_afterSaves served clear shown
    · exact (FileSystemStore.map _).save_again FileSystemStore.contains_snd served clear member
        fun _ _ => rfl

/-- Two blocks for one place: an empty file store keeps the first and skips it when it comes again,
and an empty memory store that checks nothing keeps the second. -/
theorem saves_keep_first_of_checked_and_last_of_others_of_two_blocks :
    let epoch : Instant := ⟨0, 0, by decide, by decide, by decide⟩
    let path := (StoragePaths.build epoch (Octets.zero 32).toHexString (Octets.zero 32)).block
    let first := ObjectSet.ofList [(path, [1])]
    let sets := [first, ObjectSet.ofList [(path, [2])]]
    let files := FileSystemStore.store.afterSaves sets (.empty "/srv")
    files.object? path = some [1] ∧
      (Destination.save first (Destination.recorded ⟨FileSystemStore.store, files⟩)).1 =
        ⟨"local-filesystem", 0, 1, 0⟩ ∧
      (((MemoryStore.store "memory").checking fun _ => false).afterSaves sets .empty).get? path =
        some [2] := by
  intro epoch path first sets files
  obtain ⟨_, memory, _, fileStore⟩ := saves_keep_first_of_checked_and_last_of_others sets
  have isObject : IsObjectPath path := ⟨epoch, Octets.zero 32, Octets.zero 32, .inr rfl⟩
  have areObjects : ∀ objects ∈ sets, ∀ other ∈ objects.paths, IsObjectPath other := by
    simp [sets, first, ObjectSet.ofList, ObjectSet.insert, ObjectSet.empty, ObjectSet.paths,
      insertSorted, isObject]
  have room : HasRoom "/srv" := ⟨by decide, by decide⟩
  obtain ⟨retention, again⟩ :=
    fileStore areObjects (.empty "/srv") (FileSystemStore.isClear_empty _ room)
  have kept := (retention (fun _ => true) path isObject.not_isTemporaryPath).first_kept rfl
  have replaced := (memory "memory" (fun _ => false) .empty path).last_kept rfl
  refine ⟨kept.trans ?_, congrArg Prod.fst (again first (.head _)), replaced.trans ?_⟩
  · simp [sets, first, ObjectSet.ofList, ObjectSet.get?_insert, FileSystemStore.object?,
      FileSystemStore.empty, FileTree.missing, FileTree.get?]
  · simp [sets, ObjectSet.ofList, ObjectSet.get?_insert]

end UptimeIntake
