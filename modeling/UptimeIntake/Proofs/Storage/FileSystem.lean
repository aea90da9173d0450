import UptimeIntake.Proofs.Storage.ObjectPlaces
import UptimeIntake.Proofs.Storage.PathMap

/-!
# Objects in the file store

Where the places of objects are free, the file store keeps the objects of submissions by their
paths and does not fail. Each path shows the file that stands at its names; only files with
temporary names come and go besides.
-/

set_option autoImplicit false

namespace UptimeIntake

def FileEntry.bytes? : FileEntry → Option Bytes
  | .directory => none
  | .file bytes => some bytes

namespace FileSystemStore

/-- The bytes of the file on a path. -/
def object? (s : FileSystemStore) (path : String) : Option Bytes :=
  (s.tree.get? (pathNames path)).bind FileEntry.bytes?

/-- The root leaves room for the paths of objects, the entries of the tree stand in directories, and
the places of the objects that are served are free. -/
structure IsClear (served : String → Prop) (s : FileSystemStore) : Prop where
  room : HasRoom s.root
  rooted : s.tree.IsRooted
  free : ∀ path l, served path → IsObjectPath path → Location.parse? path = some l →
    s.tree.IsFree l

theorem isClear_empty (served : String → Prop) {root : String} (room : HasRoom root) :
    (empty root).IsClear served where
  room
  rooted _ _ present := nomatch present
  free _ _ _ _ _ := ⟨fun _ _ _ found => (nomatch found), fun found => (nomatch found),
    fun _ found => (nomatch found)⟩

structure IsServed (served : String → Prop) (path : String) : Prop where
  isServed : served path
  isObject : IsObjectPath path

variable {served : String → Prop} {s : FileSystemStore} {path : String}
  {way : List (List Char)} {last : List Char}

theorem IsClear.isFree (clear : s.IsClear served) (serves : IsServed served path)
    (filed : IsFiled path way last) : s.tree.IsFree (placeOf way last) :=
  clear.free path _ serves.isServed serves.isObject filed.parse?_eq

theorem contains_of_isClear (clear : s.IsClear served) (serves : IsServed served path) :
    contains path s = (.ok (s.object? path).isSome, s) := by
  obtain ⟨way, last, filed⟩ := serves.isObject.isFiled
  have free := clear.isFree serves filed
  have sameAnswer : (s.object? path).isSome = (s.tree.get? (placeOf way last).full).isSome := by
    rw [object?, filed.pathNames_eq]
    cases found : s.tree.get? (placeOf way last).full with
    | none => rfl
    | some entry =>
        cases entry with
        | directory => exact absurd found free.target
        | file bytes => rfl
  rw [contains, filed.parse?_eq]
  simp only [FileTree.contains_eq (filed.fits clear.room) clear.rooted free.isOpen, sameAnswer]

def treeAfter (s : FileSystemStore) (l : Location) (bytes : Bytes) : FileTree :=
  ((FileRun.write l s.nextTemporary.toNat bytes).run (FileTree.perform s.root) s.tree).2

theorem write_of_isClear (clear : s.IsClear served) (serves : IsServed served path)
    (filed : IsFiled path way last) (bytes : Bytes) :
    write path bytes s =
      (.ok (), ⟨s.root, s.treeAfter (placeOf way last) bytes, s.nextTemporary + 1⟩) := by
  have fits := filed.fits clear.room
  have free := clear.isFree serves filed
  have ran := (FileTree.run_write fits free s.nextTemporary bytes).1
  have made := (FileTree.createDirectories_spec fits.folderText fits.shortFolder free.isOpen).1
  rw [write, filed.parse?_eq]
  simp only [ran, treeAfter, numberBehind, made]

theorem IsClear.write (clear : s.IsClear served) (serves : IsServed served path) (bytes : Bytes) :
    (FileSystemStore.write path bytes s).2.IsClear served := by
  obtain ⟨way, last, filed⟩ := serves.isObject.isFiled
  have free := clear.isFree serves filed
  rw [write_of_isClear clear serves filed]
  have fits := filed.fits clear.room
  refine ⟨clear.room, clear.rooted.run_write fits free s.nextTemporary bytes, ?_⟩
  intro other l isServed isObject parsed
  obtain ⟨beside, name, filedBeside⟩ := isObject.isFiled
  obtain rfl : placeOf beside name = l := Option.some.inj (filedBeside.parse?_eq.symm.trans parsed)
  have freeBeside := clear.isFree ⟨isServed, isObject⟩ filedBeside
  exact freeBeside.run_write fits free (filed.not_on_way filedBeside _)
    (filedBeside.not_on_way filed) s.nextTemporary bytes

theorem object?_write (clear : s.IsClear served) (serves : IsServed served path) (bytes : Bytes)
    {other : String} (shown : ¬ IsTemporaryPath other) :
    (FileSystemStore.write path bytes s).2.object? other =
      if other = path then some bytes else s.object? other := by
  obtain ⟨way, last, filed⟩ := serves.isObject.isFiled
  have free := clear.isFree serves filed
  have get?_after :=
    (FileTree.run_write (filed.fits clear.room) free s.nextTemporary bytes).2 (pathNames other)
  have notTemporary : pathNames other ≠
      ((placeOf way last).temporary s.nextTemporary.toNat).full := by
    rw [← filed.pathNames_temporary]
    intro same
    exact shown ⟨path, s.nextTemporary, serves.isObject, pathNames_injective same⟩
  rw [if_neg notTemporary, ← filed.pathNames_eq] at get?_after
  rw [write_of_isClear clear serves filed, object?, object?, treeAfter, get?_after]
  by_cases same : other = path
  · rw [if_pos same, if_pos (congrArg pathNames same)]
    rfl
  · rw [if_neg same, if_neg fun sameNames => same (pathNames_injective sameNames)]
    split
    · next isWay =>
        cases found : s.tree.get? (pathNames other) with
        | none => rfl
        | some entry =>
            cases entry with
            | directory => rfl
            | file held => exact absurd found (free.isOpen _ isWay held)
    · rfl

/-- The file store keeps the objects that are served by their paths. -/
def map (served : String → Prop) : store.PathMap where
  Serves := IsServed served
  Shows path := ¬ IsTemporaryPath path
  Sound := IsClear served
  object? := object?
  shows_of_serves serves := serves.isObject.not_isTemporaryPath
  contains_eq serves clear := congrArg Prod.fst (contains_of_isClear clear serves)
  sound_contains serves clear := by
    have same := congrArg Prod.snd (contains_of_isClear clear serves)
    exact same ▸ clear
  object?_contains serves clear _ := by
    have same := congrArg Prod.snd (contains_of_isClear clear serves)
    exact congrArg (object? · _) same
  write_eq bytes serves clear := by
    obtain ⟨way, last, filed⟩ := serves.isObject.isFiled
    exact congrArg Prod.fst (write_of_isClear clear serves filed bytes)
  sound_write bytes serves clear := clear.write serves bytes
  object?_write bytes serves clear := object?_write clear serves bytes

theorem contains_snd (path : String) (s : FileSystemStore) : (contains path s).2 = s := by
  unfold contains
  split
  · rfl
  · split <;> rfl

end FileSystemStore

end UptimeIntake
