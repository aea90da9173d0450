import UptimeIntake.Proofs.Storage.FileTree

/-!
# File operations that may fail

What a file operation can leave behind, in a file system in which a store has its root at any place
and any call may fail: making directories and writing bytes can stop midway, moving a file is one
step. Runs of calls go through all these states. A file tree in which nothing fails by itself is one
such file system, so what holds of these runs holds of the file store.
-/

set_option autoImplicit false

namespace UptimeIntake

namespace FileTree

/-- What stands at a place is as before, or a directory made on the way to `folder`. -/
def Stays (folder : List String) (before after : FileTree) (place : List String) : Prop :=
  after.get? place = before.get? place ∨
    place <+: folder ∧ before.get? place = none ∧ after.get? place = some .directory

variable {folder place : List String} {before middle after : FileTree}

theorem Stays.refl (folder : List String) (tree : FileTree) (place : List String) :
    Stays folder tree tree place :=
  .inl rfl

theorem Stays.trans (earlier : Stays folder before middle place)
    (later : Stays folder middle after place) : Stays folder before after place := by
  cases earlier with
  | inl kept =>
      rw [Stays, kept] at later
      exact later
  | inr made =>
      obtain ⟨onWay, missing, directory⟩ := made
      cases later with
      | inl kept => exact .inr ⟨onWay, missing, kept.trans directory⟩
      | inr madeAgain => exact nomatch directory.symm.trans madeAgain.2.1

theorem Stays.of_get? (stays : Stays folder before middle place)
    (kept : after.get? place = middle.get? place) : Stays folder before after place :=
  stays.trans (.inl kept)

end FileTree

/-- What a call can leave in a file system, below `root`, for each answer. A call that is still
under way has left what it could leave if it failed. -/
inductive FileCall.Leaves (root : List String) (t : FileTree) :
    FileCall → Except FileError Unit → FileTree → Prop where
  | nothing {call e} : Leaves root t call (.error e) t
  | someDirectories {folder e u} :
      (∀ place, t.Stays (root ++ folder.names) u place) →
      Leaves root t (.createDirectories folder) (.error e) u
  | allDirectories {folder u} :
      (∀ place, t.Stays (root ++ folder.names) u place) →
      u.get? (root ++ folder.names) = some .directory →
      Leaves root t (.createDirectories folder) (.ok ()) u
  | created {file answer} :
      t.get? (root ++ file.full) ≠ some .directory →
      Leaves root t (.create file) answer (t.set (root ++ file.full) (.file []))
  | written {file bytes} :
      Leaves root t (.writeAll file bytes) (.ok ()) (t.set (root ++ file.full) (.file bytes))
  | cut {file bytes front e} :
      front <+: bytes →
      Leaves root t (.writeAll file bytes) (.error e) (t.set (root ++ file.full) (.file front))
  | synced {file} : Leaves root t (.sync file) (.ok ()) t
  | moved {source target entry} :
      t.get? (root ++ source.full) = some entry →
      t.get? (root ++ target.full) ≠ some .directory →
      Leaves root t (.rename source target) (.ok ())
        ((t.erase (root ++ source.full)).set (root ++ target.full) entry)
  | removed {file bytes} :
      t.get? (root ++ file.full) = some (.file bytes) →
      Leaves root t (.remove file) (.ok ()) (t.erase (root ++ file.full))

/-- A call with its answer. -/
abbrev FileExchange := FileCall × Except FileError Unit

/-- From a run at its start, these calls lead to what is left of it and to this file system. -/
inductive FileRun.Reaches (root : List String) (run : FileRun) (t : FileTree) :
    List FileExchange → FileRun → FileTree → Prop where
  | start : Reaches root run t [] run t
  | step {calls operation next answer u v} :
      Reaches root run t calls (.call operation next) u → operation.Leaves root u answer v →
      Reaches root run t (calls ++ [(operation, answer)]) (next answer) v

namespace FileRun

variable {root : List String} {t u v : FileTree} {calls : List FileExchange} {run rest : FileRun}

theorem Reaches.behind {operation : FileCall} {next : Except FileError Unit → FileRun}
    {answer : Except FileError Unit} (leaves : operation.Leaves root t answer u)
    (reaches : (next answer).Reaches root u calls rest v) :
    (FileRun.call operation next).Reaches root t ((operation, answer) :: calls) rest v := by
  induction reaches with
  | start => exact .step .start leaves
  | step _ last ih => exact .step ih last

theorem Reaches.succeed {operation : FileCall} {failed : FileError → FileRun} {next : FileRun}
    (reaches : run.Reaches root t calls (orElse operation failed next) u)
    (leaves : operation.Leaves root u (.ok ()) v) :
    run.Reaches root t (calls ++ [(operation, .ok ())]) next v :=
  (Reaches.step reaches leaves :)

/-- A run on any state that shows a file system of this kind. -/
theorem exists_reaches_run {σ : Type} {perform : σ → FileCall → Except FileError Unit × σ}
    {shown : σ → FileTree}
    (lawful : ∀ s (call : FileCall), call.Leaves root (shown s) (perform s call).1 (shown (perform s call).2))
    (run : FileRun) (s : σ) :
    ∃ calls, run.Reaches root (shown s) calls (.done (run.run perform s).1)
      (shown (run.run perform s).2) := by
  induction run generalizing s with
  | done result => exact ⟨[], .start⟩
  | call operation next ih =>
      obtain ⟨calls, reaches⟩ := ih (perform s operation).1 (perform s operation).2
      exact ⟨_, reaches.behind (lawful s operation)⟩

/-! ## What every run ensures -/

/-- Whatever the remaining calls come to, every state on the way is safe and the end is as it
should be, behind the calls made so far. -/
def Ensures (root : List String) (isSafe : FileTree → Prop)
    (ends : List FileExchange → Except FileError Unit → FileTree → Prop) :
    FileRun → List FileExchange → FileTree → Prop
  | .done result, calls, t => isSafe t ∧ ends calls result t
  | .call operation next, calls, t => isSafe t ∧ ∀ answer u, operation.Leaves root t answer u →
      (next answer).Ensures root isSafe ends (calls ++ [(operation, answer)]) u

variable {isSafe : FileTree → Prop}
  {ends : List FileExchange → Except FileError Unit → FileTree → Prop}

theorem Ensures.here (ensures : run.Ensures root isSafe ends calls t) : isSafe t := by
  cases run with
  | done result => exact ensures.1
  | call operation next => exact ensures.1

theorem Reaches.ensures (reaches : run.Reaches root t calls rest u)
    (ensures : run.Ensures root isSafe ends [] t) : rest.Ensures root isSafe ends calls u := by
  induction reaches with
  | start => exact ensures
  | step _ last ih => exact ih.2 _ _ last

end FileRun

/-! ## File trees -/

namespace FileTree

theorem stays_enter {folder here : List String} {t : FileTree} (place : List String)
    (noFile : ∀ bytes, t.get? here ≠ some (.file bytes)) (onWay : here <+: folder) :
    t.Stays folder (t.enter here) place := by
  rw [Stays, get?_enter noFile]
  split
  · next isHere =>
      subst isHere
      cases found : t.get? place with
      | none => exact .inr ⟨onWay, rfl, rfl⟩
      | some entry =>
          cases entry with
          | directory => exact .inl rfl
          | file bytes => exact absurd found (noFile bytes)
  · exact .inl rfl

theorem createFrom_of_file {t : FileTree} {here : List String} {bytes : Bytes}
    (found : t.get? here = some (.file bytes)) (names : List String) :
    createFrom t here names = (.error .notDirectory, t) := by
  rw [createFrom.eq_def, found]

private theorem stays_createFrom (t : FileTree) (here names : List String) :
    (∀ place, t.Stays (here ++ names) (createFrom t here names).2 place) ∧
      ((createFrom t here names).1 = .ok () →
        (createFrom t here names).2.get? (here ++ names) = some .directory) := by
  induction names generalizing t here with
  | nil =>
      by_cases isFile : ∃ bytes, t.get? here = some (.file bytes)
      · obtain ⟨bytes, found⟩ := isFile
        rw [createFrom_of_file found]
        exact ⟨Stays.refl _ t, fun same => nomatch same⟩
      · have noFile : ∀ bytes, t.get? here ≠ some (.file bytes) := not_exists.1 isFile
        rw [createFrom_eq noFile, List.append_nil]
        refine ⟨fun place => stays_enter place noFile List.prefix_rfl, fun _ => ?_⟩
        rw [get?_enter noFile, if_pos rfl]
  | cons name rest ih =>
      by_cases isFile : ∃ bytes, t.get? here = some (.file bytes)
      · obtain ⟨bytes, found⟩ := isFile
        rw [createFrom_of_file found]
        exact ⟨Stays.refl _ t, fun same => nomatch same⟩
      · have noFile : ∀ bytes, t.get? here ≠ some (.file bytes) := not_exists.1 isFile
        have entered (place : List String) : t.Stays (here ++ name :: rest) (t.enter here) place :=
          stays_enter place noFile (List.prefix_append here _)
        rw [createFrom_eq noFile]
        dsimp only
        split
        · exact ⟨entered, fun same => nomatch same⟩
        · obtain ⟨stays, made⟩ := ih (t.enter here) (here ++ [name])
          rw [List.append_assoc, List.singleton_append] at stays made
          exact ⟨fun place => (entered place).trans (stays place), made⟩

theorem ne_directory_of_enterable {root : String} {t : FileTree} {l : Location}
    (free : t.enterable root l = .ok ()) : t.get? l.full ≠ some .directory := by
  intro isDirectory
  unfold enterable at free
  split at free
  · cases free
  split at free
  · cases free
  · cases free
  rw [if_pos isDirectory] at free
  split at free
  · cases free
  split at free
  · cases free
  · cases free

/-- A file tree is such a file system, seen from its root. -/
theorem leaves_perform (root : String) (t : FileTree) (call : FileCall) :
    call.Leaves [] t (t.perform root call).1 (t.perform root call).2 := by
  cases call with
  | createDirectories folder =>
      rw [perform]
      split
      · exact .nothing
      · obtain ⟨stays, made⟩ := stays_createFrom t [] folder.names
        generalize createFrom t [] folder.names = outcome at stays made ⊢
        obtain ⟨answer, u⟩ := outcome
        cases answer with
        | ok done => exact .allDirectories stays (made rfl)
        | error e => exact .someDirectories stays
  | create file =>
      rw [perform]
      split
      · exact .nothing
      · next free => exact .created (ne_directory_of_enterable free)
  | writeAll file bytes => exact .written
  | sync file => exact .synced
  | rename source target =>
      rw [perform]
      split
      · exact .nothing
      · exact .nothing
      · next found free => exact .moved found (ne_directory_of_enterable free)
  | remove file =>
      rw [perform]
      split
      · next found => exact .removed found
      · exact .nothing
      · exact .nothing

end FileTree

end UptimeIntake
