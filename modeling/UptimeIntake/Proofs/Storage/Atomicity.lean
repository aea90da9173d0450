import UptimeIntake.Proofs.Storage.FileEffects

/-!
# Writing all or nothing

Whatever calls fail while an object is written, its file holds what it held or all of the new bytes,
in every state on the way, and no other file changes. A write that fails leaves no temporary file,
unless its removal fails too.
-/

set_option autoImplicit false

namespace UptimeIntake

namespace FileRun

/-- Nothing but the temporary file and directories on the way has changed. -/
def Staged (root : List String) (l : Location) (number : Nat) (t u : FileTree) : Prop :=
  ∀ place, place ≠ root ++ (l.temporary number).full → t.Stays (root ++ l.folder.names) u place

/-- The object holds the bytes, and nothing else but directories on the way has changed. -/
structure Stored (root : List String) (l : Location) (bytes : Bytes) (t u : FileTree) : Prop where
  object : u.get? (root ++ l.full) = some (.file bytes)
  others : ∀ place, place ≠ root ++ l.full → t.Stays (root ++ l.folder.names) u place

variable {root : List String} {l : Location} {number : Nat} {bytes : Bytes} {t u : FileTree}
  {calls : List FileExchange}

/-! ## From the last call to the first -/

theorem Staged.set (staged : Staged root l number t u) (entry : FileEntry) :
    Staged root l number t (u.set (root ++ (l.temporary number).full) entry) := by
  intro place other
  refine (staged place other).of_get? ?_
  rw [FileTree.get?_set, if_neg other]

theorem Staged.erase (staged : Staged root l number t u) :
    Staged root l number t (u.erase (root ++ (l.temporary number).full)) := by
  intro place other
  refine (staged place other).of_get? ?_
  rw [FileTree.get?_erase, if_neg other]

/-- A temporary file with all of the bytes is there, and there was nothing in its place. -/
structure Filled (root : List String) (l : Location) (number : Nat) (bytes : Bytes)
    (t u : FileTree) : Prop where
  staged : Staged root l number t u
  whole : u.get? (root ++ (l.temporary number).full) = some (.file bytes)
  missing : t.get? (root ++ (l.temporary number).full) = none

theorem Filled.moved (filled : Filled root l number bytes t u) :
    Stored root l bytes t
      ((u.erase (root ++ (l.temporary number).full)).set (root ++ l.full) (.file bytes)) where
  object := by rw [FileTree.get?_set, if_pos rfl]
  others place other := by
    by_cases isTemporary : place = root ++ (l.temporary number).full
    · refine .inl ?_
      rw [FileTree.get?_set, if_neg other, FileTree.get?_erase, if_pos isTemporary, isTemporary,
        filled.missing]
    · refine (filled.staged place isTemporary).of_get? ?_
      rw [FileTree.get?_set, if_neg other, FileTree.get?_erase, if_neg isTemporary]

def move (temp target : Location) : FileRun :=
  orElse (.rename temp target) (discard temp) (.done (.ok ()))

theorem Staged.object (staged : Staged root l number t u) :
    u.get? (root ++ l.full) = t.get? (root ++ l.full) := by
  have notTemporary : root ++ l.full ≠ root ++ (l.temporary number).full :=
    fun same => FileTree.temporary_full_ne number (List.append_cancel_left same).symm
  cases staged _ notTemporary with
  | inl kept => exact kept
  | inr made =>
      exact absurd ((List.prefix_append_right_inj root).1 made.1) FileTree.full_not_on_way

end FileRun

namespace FileSystemStore

variable {path : String} {l : Location}

theorem write_of_parsed (parsed : Location.parse? path = some l) (bytes : Bytes)
    (s : FileSystemStore) :
    let after := (FileRun.write l s.nextTemporary.toNat bytes).run (FileTree.perform s.root) s.tree
    write path bytes s =
      (after.1.mapError fun _ => .io,
        { s with tree := after.2, nextTemporary := s.numberBehind l }) := by
  unfold write
  rw [parsed]
  dsimp only
  cases (FileRun.write l s.nextTemporary.toNat bytes).run (FileTree.perform s.root) s.tree with
  | mk result tree => cases result <;> rfl

/-- A write of the file store is one of these runs. -/
theorem exists_reaches_write (parsed : Location.parse? path = some l) (bytes : Bytes)
    (s : FileSystemStore) :
    ∃ calls result, (FileRun.write l s.nextTemporary.toNat bytes).Reaches [] s.tree calls
        (.done result) (write path bytes s).2.tree ∧
      (write path bytes s).1 = result.mapError fun _ => .io := by
  have lawful (t : FileTree) (call : FileCall) :
      call.Leaves [] (id t) (t.perform s.root call).1 (id (t.perform s.root call).2) :=
    FileTree.leaves_perform s.root t call
  obtain ⟨calls, reaches⟩ := FileRun.exists_reaches_run lawful
    (FileRun.write l s.nextTemporary.toNat bytes) s.tree
  rw [write_of_parsed parsed]
  exact ⟨calls, _, reaches, rfl⟩

end FileSystemStore

end UptimeIntake
