import Mathlib.Data.List.Infix
import UptimeIntake.Storage.FileSystem

/-!
# File trees where nothing is in the way

What the operations of a file store do in a tree whose entries stand in directories, at a place
whose names the system takes and where only a file can be. They do not fail, and together they
change nothing but this place: directories are made on the way, and the temporary file is gone.
-/

set_option autoImplicit false

namespace UptimeIntake.FileTree

variable {t : FileTree} {root : String} {names other here rest : List String} {l : Location}

/-! ## Entries -/

theorem get?_cons (entry : FileEntry) (entries : List (List String × FileEntry)) :
    get? ⟨(names, entry) :: entries⟩ other =
      if other = names then some entry else get? ⟨entries⟩ other := by
  by_cases same : other = names
  · simp [get?, same]
  · simp [get?, List.lookup_cons, same, beq_false_of_ne same]

theorem get?_erase :
    (t.erase names).get? other = if other = names then none else t.get? other := by
  obtain ⟨entries⟩ := t
  rw [erase]
  induction entries with
  | nil => split <;> rfl
  | cons entry entries ih =>
      obtain ⟨place, content⟩ := entry
      by_cases erased : place = names
      · rw [List.filter_cons_of_neg (by simp [erased]), ih, get?_cons, erased]
        split <;> rfl
      · rw [List.filter_cons_of_pos (by simp [erased]), get?_cons, get?_cons, ih]
        by_cases same : other = place
        · rw [if_pos same, if_pos same, if_neg (same ▸ erased)]
        · rw [if_neg same, if_neg same]

theorem get?_set (entry : FileEntry) :
    (t.set names entry).get? other = if other = names then some entry else t.get? other := by
  rw [set, get?_cons]
  split
  · rfl
  · next different => rw [get?_erase, if_neg different]

theorem get?_set_self (t : FileTree) (names : List String) (entry : FileEntry) :
    (t.set names entry).get? names = some entry := by
  rw [get?_set, if_pos rfl]

/-! ## Ways -/

/-- Every entry below the root stands in a directory. -/
def IsRooted (t : FileTree) : Prop :=
  ∀ folder name, (t.get? (folder ++ [name])).isSome = true → t.get? folder = some .directory

private theorem IsRooted.directory_of_isSome {name : String} (rooted : t.IsRooted)
    (present : (t.get? (here ++ name :: rest)).isSome = true) : t.get? here = some .directory := by
  induction rest generalizing here name with
  | nil => exact rooted here name present
  | cons next rest ih =>
      rw [← List.singleton_append, ← List.append_assoc] at present
      have below : t.get? (here ++ [name]) = some .directory := ih present
      exact rooted here name (by rw [below]; rfl)

private theorem IsRooted.missing_below {name : String} (rooted : t.IsRooted)
    (missing : t.get? here = none) : t.get? (here ++ name :: rest) = none := by
  by_contra present
  have directory := rooted.directory_of_isSome (Option.isSome_iff_ne_none.2 present)
  rw [missing] at directory
  cases directory

/-- No file stands at a place or on the way to it. -/
def IsOpen (t : FileTree) (folder : List String) : Prop :=
  ∀ way, way <+: folder → ∀ bytes, t.get? way ≠ some (.file bytes)

private theorem walk_directories (here : List String)
    (short : ∀ name ∈ rest, isLongName name = false)
    (directories : ∀ way, way <+: rest → t.get? (here ++ way) = some .directory) :
    walk t here rest = .ok .directory := by
  have atHere : t.get? here = some .directory := by
    simpa using directories [] List.nil_prefix
  induction rest generalizing here with
  | nil => rw [walk, atHere]
  | cons name rest ih =>
      obtain ⟨isShort, short⟩ := List.forall_mem_cons.1 short
      have below (way : List String) (isWay : way <+: rest) :
          t.get? (here ++ [name] ++ way) = some .directory := by
        rw [List.append_assoc, List.singleton_append]
        exact directories _ (List.cons_prefix_cons.2 ⟨rfl, isWay⟩)
      rw [walk, atHere]
      simp only [isShort, Bool.false_eq_true, if_false]
      exact ih _ short below (by simpa using below [] List.nil_prefix)

private theorem IsRooted.walk_eq (rooted : t.IsRooted)
    (short : ∀ name ∈ names, isLongName name = false)
    (isOpen : ∀ way, way <+: names → way ≠ names →
      ∀ bytes, t.get? (here ++ way) ≠ some (.file bytes)) :
    walk t here names =
      match t.get? (here ++ names) with
      | none => .error .notFound
      | some entry => .ok entry := by
  induction names generalizing here with
  | nil =>
      rw [List.append_nil]
      cases found : t.get? here <;> rw [walk, found]
  | cons name rest ih =>
      obtain ⟨isShort, short⟩ := List.forall_mem_cons.1 short
      have noFile := isOpen [] List.nil_prefix (List.cons_ne_nil name rest).symm
      rw [List.append_nil] at noFile
      have below (way : List String) (isWay : way <+: rest) (notAll : way ≠ rest) :
          ∀ bytes, t.get? (here ++ [name] ++ way) ≠ some (.file bytes) := by
        rw [List.append_assoc, List.singleton_append]
        exact isOpen _ (List.cons_prefix_cons.2 ⟨rfl, isWay⟩) fun same =>
          notAll (List.tail_eq_of_cons_eq same)
      rw [walk]
      cases found : t.get? here with
      | none => rw [rooted.missing_below found]
      | some entry =>
          cases entry with
          | file bytes => exact absurd found (noFile bytes)
          | directory =>
              simp only [isShort, Bool.false_eq_true, if_false]
              rw [ih short below, List.append_assoc, List.singleton_append]

/-! ## Locations -/

/-- Below the root with this path, the system takes the texts and the names that the calls on a
location come with. -/
structure Fits (root : String) (l : Location) : Prop where
  text : refuseBelow? root l.text = none
  folderText : refuseBelow? root l.folder.text = none
  temporaryText : ∀ number : UInt64, refuseBelow? root (l.temporary number.toNat).text = none
  shortFolder : ∀ name ∈ l.folder.names, isLongName name = false
  shortName : isLongName l.name = false
  shortTemporary : ∀ number : UInt64, isLongName (l.temporary number.toNat).name = false
  asFile : l.asDirectory = false

/-- Directories can be on the way to a location, and only files in its places. -/
structure IsFree (t : FileTree) (l : Location) : Prop where
  isOpen : t.IsOpen l.folder.names
  target : t.get? l.full ≠ some .directory
  temporary : ∀ number : UInt64, t.get? (l.temporary number.toNat).full ≠ some .directory

theorem contains_eq (fits : Fits root l) (rooted : t.IsRooted) (isOpen : t.IsOpen l.folder.names) :
    t.contains root l = .ok (t.get? l.full).isSome := by
  have short : ∀ name ∈ l.full, isLongName name = false :=
    List.forall_mem_append.2 ⟨fits.shortFolder, List.forall_mem_singleton.2 fits.shortName⟩
  have walked : walk t [] l.full =
      match t.get? l.full with
      | none => .error .notFound
      | some entry => .ok entry :=
    rooted.walk_eq short fun way isWay notFull =>
      isOpen way ((List.prefix_concat_iff.1 isWay).resolve_left notFull)
  rw [contains, stat, fits.text]
  simp only [walked]
  cases t.get? l.full with
  | none => rfl
  | some entry =>
      cases entry with
      | directory => rfl
      | file bytes => simp [fits.asFile]

/-! ## Directories -/

/-- The tree with a directory at a place where no file stands. -/
def enter (t : FileTree) (here : List String) : FileTree :=
  if (t.get? here).isSome then t else t.set here .directory

theorem get?_enter (noFile : ∀ bytes, t.get? here ≠ some (.file bytes)) :
    (t.enter here).get? other = if other = here then some .directory else t.get? other := by
  rw [enter]
  cases found : t.get? here with
  | none => exact get?_set .directory
  | some entry =>
      cases entry with
      | file bytes => exact absurd found (noFile bytes)
      | directory =>
          rw [Option.isSome_some, if_pos rfl]
          split
          · next same => rw [same, found]
          · rfl

theorem createFrom_eq (noFile : ∀ bytes, t.get? here ≠ some (.file bytes)) :
    createFrom t here names =
      match names with
      | [] => (.ok (), t.enter here)
      | name :: rest =>
        if isLongName name then (.error .tooLong, t.enter here)
        else createFrom (t.enter here) (here ++ [name]) rest := by
  rw [createFrom.eq_def, enter]
  cases found : t.get? here with
  | none => rfl
  | some entry =>
      cases entry with
      | file bytes => exact absurd found (noFile bytes)
      | directory => rfl

private theorem createFrom_spec (here : List String)
    (short : ∀ name ∈ names, isLongName name = false)
    (isOpen : ∀ way, way <+: names → ∀ bytes, t.get? (here ++ way) ≠ some (.file bytes)) :
    (createFrom t here names).1 = .ok () ∧
      (∀ way, way <+: names → (createFrom t here names).2.get? (here ++ way) = some .directory) ∧
      ∀ other, (∀ way, way <+: names → other ≠ here ++ way) →
        (createFrom t here names).2.get? other = t.get? other := by
  have noFile := isOpen [] List.nil_prefix
  rw [List.append_nil] at noFile
  rw [createFrom_eq noFile]
  induction names generalizing t here with
  | nil =>
      refine ⟨rfl, fun way isWay => ?_, fun other apart => ?_⟩
      · rw [List.prefix_nil.1 isWay, List.append_nil, get?_enter noFile, if_pos rfl]
      · have notHere := apart [] List.nil_prefix
        rw [List.append_nil] at notHere
        rw [get?_enter noFile, if_neg notHere]
  | cons name rest ih =>
      obtain ⟨isShort, short⟩ := List.forall_mem_cons.1 short
      have below (way : List String) (isWay : way <+: rest) :
          ∀ bytes, (t.enter here).get? (here ++ [name] ++ way) ≠ some (.file bytes) := by
        intro bytes
        rw [get?_enter noFile, if_neg (by simp), List.append_assoc, List.singleton_append]
        exact isOpen _ (List.cons_prefix_cons.2 ⟨rfl, isWay⟩) bytes
      have noFileBelow := below [] List.nil_prefix
      rw [List.append_nil] at noFileBelow
      simp only [isShort, Bool.false_eq_true, if_false]
      obtain ⟨made, directories, others⟩ := ih _ short below noFileBelow
      rw [← createFrom_eq noFileBelow] at made directories others
      refine ⟨made, fun way isWay => ?_, fun other apart => ?_⟩
      · rcases List.prefix_cons_iff.1 isWay with rfl | ⟨further, rfl, isFurther⟩
        · have outside : ∀ way, way <+: rest → here ++ [] ≠ here ++ [name] ++ way := by simp
          rw [others _ outside, List.append_nil, get?_enter noFile, if_pos rfl]
        · have directory := directories further isFurther
          rwa [List.append_assoc, List.singleton_append] at directory
      · have notHere := apart [] List.nil_prefix
        rw [List.append_nil] at notHere
        rw [others other, get?_enter noFile, if_neg notHere]
        intro way isWay
        rw [List.append_assoc, List.singleton_append]
        exact apart _ (List.cons_prefix_cons.2 ⟨rfl, isWay⟩)

theorem createDirectories_spec {folder : Directory} (text : refuseBelow? root folder.text = none)
    (short : ∀ name ∈ folder.names, isLongName name = false) (isOpen : t.IsOpen folder.names) :
    let made := t.perform root (.createDirectories folder)
    made.1 = .ok () ∧ ∀ other, made.2.get? other =
      if other <+: folder.names then some .directory else t.get? other := by
  intro made
  have shape : made = createFrom t [] folder.names := by simp only [made, perform, text]
  obtain ⟨isMade, directories, others⟩ := createFrom_spec [] short isOpen
  rw [shape]
  refine ⟨isMade, fun other => ?_⟩
  split
  · next isWay => exact directories other isWay
  · next apart =>
      refine others other fun way isWay same => apart ?_
      rwa [same]

/-! ## Writing -/

theorem enterable_eq (text : refuseBelow? root l.text = none)
    (shortFolder : ∀ name ∈ l.folder.names, isLongName name = false)
    (shortName : isLongName l.name = false) (asFile : l.asDirectory = false)
    (directories : ∀ way, way <+: l.folder.names → t.get? way = some .directory)
    (free : t.get? l.full ≠ some .directory) : t.enterable root l = .ok () := by
  rw [enterable, text]
  simp only [walk_directories [] shortFolder directories, shortName, asFile, free,
    Bool.false_eq_true, if_false]

theorem full_ne_nil : l.full ≠ [] :=
  List.append_ne_nil_of_right_ne_nil l.folder.names (List.cons_ne_nil l.name [])

theorem full_not_on_way : ¬ l.full <+: l.folder.names := by
  intro isPrefix
  have shorter := isPrefix.length_le
  rw [Location.full, List.length_append, List.length_singleton] at shorter
  omega

theorem temporary_full_not_on_way (number : Nat) :
    ¬ (l.temporary number).full <+: l.folder.names :=
  full_not_on_way (l := l.temporary number)

theorem temporary_full_ne (number : Nat) : (l.temporary number).full ≠ l.full := by
  intro same
  have names : l.name ++ "." ++ toString number ++ ".tmp" = l.name :=
    List.singleton_inj.1 (List.append_inj_right same rfl)
  have lengths := congrArg String.length names
  have ending : ".tmp".length = 4 := rfl
  simp only [String.length_append] at lengths
  omega

private theorem run_writeThenRename (fits : Fits root l) (number : UInt64) (bytes : Bytes)
    (directories : ∀ way, way <+: l.folder.names → t.get? way = some .directory)
    (target : t.get? l.full ≠ some .directory)
    (temporary : t.get? (l.temporary number.toNat).full ≠ some .directory) :
    let after := (FileRun.writeThenRename (l.temporary number.toNat) l bytes).run (perform root) t
    after.1 = .ok () ∧ ∀ other, after.2.get? other =
      if other = l.full then some (.file bytes)
      else if other = (l.temporary number.toNat).full then none else t.get? other := by
  let temp := l.temporary number.toNat
  let written := (t.set temp.full (.file [])).set temp.full (.file bytes)
  have get?_written (other : List String) : written.get? other =
      if other = temp.full then some (.file bytes) else t.get? other := by
    rw [get?_set, get?_set]
    split <;> rfl
  have created : t.enterable root temp = .ok () :=
    enterable_eq (fits.temporaryText number) fits.shortFolder (fits.shortTemporary number) rfl
      directories temporary
  have stillDirectories (way : List String) (isWay : way <+: l.folder.names) :
      written.get? way = some .directory := by
    have notTemporary : way ≠ temp.full := by
      rintro rfl
      exact temporary_full_not_on_way _ isWay
    rw [get?_written, if_neg notTemporary, directories way isWay]
  have replaced : written.enterable root l = .ok () := by
    refine enterable_eq fits.text fits.shortFolder fits.shortName fits.asFile stillDirectories ?_
    rwa [get?_written, if_neg (temporary_full_ne _).symm]
  have source : written.get? temp.full = some (.file bytes) := by rw [get?_written, if_pos rfl]
  have ran : (FileRun.writeThenRename temp l bytes).run (perform root) t =
      (.ok (), (written.erase temp.full).set l.full (.file bytes)) := by
    simp only [FileRun.writeThenRename, FileRun.orElse, FileRun.run, perform, created]
    rw [source, replaced]
    rfl
  rw [ran]
  refine ⟨rfl, fun other => ?_⟩
  rw [get?_set, get?_erase, get?_written]
  split
  · rfl
  · split <;> rfl

theorem run_write (fits : Fits root l) (free : t.IsFree l) (number : UInt64) (bytes : Bytes) :
    let after := (FileRun.write l number.toNat bytes).run (perform root) t
    after.1 = .ok () ∧ ∀ other, after.2.get? other =
      if other = l.full then some (.file bytes)
      else if other = (l.temporary number.toNat).full then none
      else if other <+: l.folder.names then some .directory
      else t.get? other := by
  obtain ⟨isMade, get?_made⟩ := createDirectories_spec fits.folderText fits.shortFolder free.isOpen
  generalize made : t.perform root (.createDirectories l.folder) = outcome at isMade get?_made
  obtain ⟨result, withFolder⟩ := outcome
  simp only at isMade get?_made
  obtain ⟨isWritten, get?_written⟩ := run_writeThenRename fits number bytes
    (fun way isWay => by rw [get?_made, if_pos isWay])
    (by rw [get?_made, if_neg full_not_on_way]; exact free.target)
    (by rw [get?_made, if_neg (temporary_full_not_on_way _)]; exact free.temporary number)
  have ran : (FileRun.write l number.toNat bytes).run (perform root) t =
      (FileRun.writeThenRename (l.temporary number.toNat) l bytes).run (perform root)
        withFolder := by
    simp only [FileRun.write, FileRun.orElse, FileRun.run, made, isMade]
  rw [ran]
  refine ⟨isWritten, fun other => ?_⟩
  rw [get?_written, get?_made]

/-! ## Other places -/

theorem IsRooted.run_write (rooted : t.IsRooted) (fits : Fits root l) (free : t.IsFree l)
    (number : UInt64) (bytes : Bytes) :
    ((FileRun.write l number.toNat bytes).run (perform root) t).2.IsRooted := by
  intro folder name present
  have get?_after := (FileTree.run_write fits free number bytes).2
  have directory (isDirectory : folder <+: l.folder.names ∨ t.get? folder = some .directory) :
      ((FileRun.write l number.toNat bytes).run (perform root) t).2.get? folder =
        some .directory := by
    have notTarget : folder ≠ l.full := by
      rintro rfl
      exact isDirectory.elim full_not_on_way free.target
    have notTemporary : folder ≠ (l.temporary number.toNat).full := by
      rintro rfl
      exact isDirectory.elim (temporary_full_not_on_way _) (free.temporary number)
    rw [get?_after, if_neg notTarget, if_neg notTemporary]
    split
    · rfl
    · next notWay => exact isDirectory.resolve_left notWay
  rw [get?_after] at present
  split at present
  · next isTarget => exact directory (.inl (List.append_inj_left' isTarget rfl ▸ List.prefix_rfl))
  · split at present
    · cases present
    · split at present
      · next isWay => exact directory (.inl ((List.prefix_append folder [name]).trans isWay))
      · exact directory (.inr (rooted folder name present))

/-- A write keeps another place free, if neither place can be on the way to the other. -/
theorem IsFree.run_write {beside : Location} (freeBeside : t.IsFree beside) (fits : Fits root l)
    (free : t.IsFree l) (notOnWay : ¬ l.full <+: beside.folder.names)
    (notBelow : ∀ name, ¬ beside.folder.names ++ [name] <+: l.folder.names) (number : UInt64)
    (bytes : Bytes) :
    ((FileRun.write l number.toNat bytes).run (perform root) t).2.IsFree beside := by
  have get?_after := (FileTree.run_write fits free number bytes).2
  have noDirectory (name : String)
      (before : t.get? (beside.folder.names ++ [name]) ≠ some .directory) :
      ((FileRun.write l number.toNat bytes).run (perform root) t).2.get?
        (beside.folder.names ++ [name]) ≠ some .directory := by
    rw [get?_after, if_neg (notBelow name)]
    split
    · exact fun same => nomatch same
    · split
      · exact fun same => nomatch same
      · exact before
  refine ⟨fun way isWay other => ?_, noDirectory _ freeBeside.target,
    fun number => noDirectory _ (freeBeside.temporary number)⟩
  have notTarget : way ≠ l.full := by
    rintro rfl
    exact notOnWay isWay
  rw [get?_after, if_neg notTarget]
  split
  · exact fun same => nomatch same
  · split
    · exact fun same => nomatch same
    · exact freeBeside.isOpen way isWay other

end UptimeIntake.FileTree
