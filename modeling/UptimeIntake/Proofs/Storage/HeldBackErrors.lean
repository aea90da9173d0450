import UptimeIntake.Proofs.Storage.FileEffects
import UptimeIntake.Storage.Save

/-!
# Errors that are held back

A file is written through a handle that takes the bytes in chunks and writes each while the caller
goes on. A chunk that fails leaves the file short, and its error is held back until the next chunk is
offered. The call that makes the file durable waits for the last chunk but reports no error held
back, and nothing is offered behind the last chunk: so an object can be put in its place without its
end, by a write that succeeds.
-/

set_option autoImplicit false

namespace UptimeIntake

/-- A file system with the handle of the file that is being written. -/
structure OpenFile where
  tree : FileTree
  /-- A chunk that the handle has taken and that is still being written. -/
  underWay : Option Bytes
  /-- The error of a chunk that failed, until it is reported. -/
  heldBack : Option FileError

namespace OpenFile

/-- The chunk under way comes to its end: it is written, or only a part of it is. -/
inductive Settles (place : List String) (s : OpenFile) : OpenFile → Prop where
  | idle : s.underWay = none → Settles place s s
  | written {held chunk} : s.underWay = some chunk → s.tree.get? place = some (.file held) →
      Settles place s { s with
        tree := s.tree.set place (.file (held ++ chunk))
        underWay := none }
  | cut {held chunk front e} : s.underWay = some chunk → s.tree.get? place = some (.file held) →
      front <+: chunk → front ≠ chunk →
      Settles place s {
        tree := s.tree.set place (.file (held ++ front))
        underWay := none
        heldBack := some e }

/-- Chunks are offered one after the other. The handle takes a chunk when the one before it has come
to its end, or reports the error held back. -/
inductive Offers (place : List String) :
    OpenFile → List Bytes → Except FileError Unit → OpenFile → Prop where
  | finished {s} : Offers place s [] (.ok ()) s
  | taken {s u v chunk chunks answer} : s.Settles place u → u.heldBack = none →
      Offers place { u with underWay := some chunk } chunks answer v →
      Offers place s (chunk :: chunks) answer v
  | reported {s u chunk chunks e} : s.Settles place u → u.heldBack = some e →
      Offers place s (chunk :: chunks) (.error e) { u with heldBack := none }

/-- What a call can leave, below `root`, when bytes are cut into these chunks. -/
def Leaves (root : List String) (chunks : List Bytes) (s : OpenFile) (call : FileCall)
    (answer : Except FileError Unit) (u : OpenFile) : Prop :=
  match call with
  | .writeAll file bytes => chunks.flatten = bytes ∧ s.Offers (root ++ file.full) chunks answer u
  | .sync file => s.Settles (root ++ file.full) u
  | .create _ => ∃ tree, call.Leaves root s.tree answer tree ∧ u = ⟨tree, none, none⟩
  | .createDirectories _ | .rename _ _ | .remove _ =>
    ∃ tree, call.Leaves root s.tree answer tree ∧ u = { s with tree }

/-- The run can end with this result, and leave this behind. -/
inductive Ends (root : List String) (chunks : List Bytes) :
    OpenFile → FileRun → Except FileError Unit → OpenFile → Prop where
  | done {s result} : Ends root chunks s (.done result) result s
  | call {s u v operation next answer result} : s.Leaves root chunks operation answer u →
      Ends root chunks u (next answer) result v →
      Ends root chunks s (.call operation next) result v

variable {root place : List String} {chunks : List Bytes} {bytes : Bytes} {s u v : OpenFile}
  {temp target : Location}

/-! ## Chunks -/

/-- If the chunk under way is written, the file holds the bytes; no error is held back. -/
def Expects (place : List String) (bytes : Bytes) (s : OpenFile) : Prop :=
  s.heldBack = none ∧ ∃ held, s.tree.get? place = some (.file held) ∧
    held ++ s.underWay.getD [] = bytes

theorem Settles.expects (settles : s.Settles place u) (expects : s.Expects place bytes)
    (noError : u.heldBack = none) : u.Expects place bytes ∧ u.underWay = none := by
  obtain ⟨_, held, found, isSum⟩ := expects
  cases settles with
  | idle isIdle => exact ⟨⟨noError, held, found, isSum⟩, isIdle⟩
  | written isUnderWay found' =>
      obtain rfl := FileEntry.file.inj (Option.some.inj (found.symm.trans found'))
      rw [isUnderWay, Option.getD_some] at isSum
      refine ⟨⟨noError, bytes, ?_, List.append_nil bytes⟩, rfl⟩
      rw [FileTree.get?_set_self, isSum]
  | cut => cases noError

theorem Offers.expects {answer : Except FileError Unit} (offers : Offers place s chunks answer u)
    (succeeded : answer = .ok ()) (expects : s.Expects place bytes) :
    u.Expects place (bytes ++ chunks.flatten) ∧ u.underWay = chunks.getLast?.or s.underWay := by
  induction offers generalizing bytes with
  | finished =>
      rw [List.flatten_nil, List.append_nil]
      exact ⟨expects, rfl⟩
  | @taken s w v chunk chunks answer settles noError _ ih =>
      obtain ⟨⟨_, held, found, isSum⟩, isIdle⟩ := settles.expects expects noError
      rw [isIdle, Option.getD_none, List.append_nil] at isSum
      obtain ⟨whole, isLast⟩ := ih succeeded ⟨noError, held, found, rfl⟩
      rw [Option.getD_some, isSum, List.append_assoc] at whole
      refine ⟨whole, isLast.trans ?_⟩
      rw [List.getLast?_cons]
      cases chunks.getLast? <;> rfl
  | reported => cases succeeded

/-- What a file can hold when all chunks were taken and the last has come to its end. -/
inductive Outcome (chunks : List Bytes) : Option FileError → Bytes → Prop where
  | whole : Outcome chunks none chunks.flatten
  | short {before last front e} : chunks = before ++ [last] → front <+: last → front ≠ last →
      Outcome chunks (some e) (before.flatten ++ front)

theorem exists_outcome_iff {content : Bytes} : (∃ error, Outcome chunks error content) ↔
    content = chunks.flatten ∨ ∃ before last front, chunks = before ++ [last] ∧ front <+: last ∧
      front ≠ last ∧ content = before.flatten ++ front := by
  constructor
  · rintro ⟨_, _ | ⟨isCut, isFront, isShort⟩⟩
    · exact .inl rfl
    · exact .inr ⟨_, _, _, isCut, isFront, isShort, rfl⟩
  · rintro (rfl | ⟨before, last, front, isCut, isFront, isShort, rfl⟩)
    · exact ⟨none, .whole⟩
    · exact ⟨some .device, .short isCut isFront isShort⟩

variable {error : Option FileError} {content : Bytes}

theorem Outcome.isFront (outcome : Outcome chunks error content) :
    chunks.dropLast.flatten <+: content ∧ content <+: chunks.flatten := by
  have cut (before : List Bytes) (last : Bytes) :
      (before ++ [last]).flatten = before.flatten ++ last := by
    rw [List.flatten_append, List.flatten_singleton]
  cases outcome with
  | whole => exact ⟨(List.dropLast_prefix chunks).flatten, List.prefix_rfl⟩
  | @short before last front _ isCut isFront =>
      rw [isCut, List.dropLast_concat, cut]
      exact ⟨List.prefix_append _ _, (List.prefix_append_right_inj _).2 isFront⟩

theorem Outcome.whole_iff (outcome : Outcome chunks error content) :
    content = chunks.flatten ↔ error = none := by
  cases outcome with
  | whole => exact ⟨fun _ => rfl, fun _ => rfl⟩
  | short isCut _ isShort =>
      rw [isCut, List.flatten_append, List.flatten_singleton, List.append_cancel_left_eq]
      exact ⟨fun same => absurd same isShort, fun nothing => nomatch nothing⟩

theorem Settles.outcome (settles : s.Settles place u) (expects : s.Expects place chunks.flatten)
    (isLast : s.underWay = chunks.getLast?) :
    ∃ content, u.tree.get? place = some (.file content) ∧ Outcome chunks u.heldBack content := by
  by_cases noError : u.heldBack = none
  · obtain ⟨⟨_, held, found, isSum⟩, isIdle⟩ := settles.expects expects noError
    rw [isIdle, Option.getD_none, List.append_nil] at isSum
    rw [noError]
    exact ⟨held, found, isSum ▸ .whole⟩
  · obtain ⟨noEarlierError, held, found, isSum⟩ := expects
    cases settles with
    | idle | written => exact absurd noEarlierError noError
    | cut isUnderWay found' isFront isShort =>
        obtain rfl := FileEntry.file.inj (Option.some.inj (found.symm.trans found'))
        obtain ⟨before, rfl⟩ := List.getLast?_eq_some_iff.1 (isLast.symm.trans isUnderWay)
        rw [isUnderWay, Option.getD_some, List.flatten_append, List.flatten_singleton,
          List.append_cancel_right_eq] at isSum
        refine ⟨_, ?_, .short rfl isFront isShort⟩
        rw [FileTree.get?_set_self, isSum]

/-! ## Runs -/

private theorem not_ends_discard {e : FileError} :
    ¬ s.Ends root chunks (.discard temp e) (.ok ()) u := by
  intro ends
  cases ends with
  | call _ ends => cases ends

/-- A call that fails has the run end with its error. -/
theorem ends_orElse_iff {operation : FileCall} {next : FileRun} :
    s.Ends root chunks (.orElse operation (.discard temp) next) (.ok ()) v ↔
      ∃ u, s.Leaves root chunks operation (.ok ()) u ∧ u.Ends root chunks next (.ok ()) v := by
  constructor
  · intro ends
    cases ends with
    | @call _ u _ _ _ answer _ leaves ends =>
        cases answer with
        | ok _ => exact ⟨u, leaves, ends⟩
        | error e => exact absurd ends not_ends_discard
  · rintro ⟨u, leaves, ends⟩
    exact .call leaves ends

theorem ends_done_iff : s.Ends root chunks (.done (.ok ())) (.ok ()) u ↔ u = s := by
  constructor
  · rintro ⟨⟩
    rfl
  · rintro rfl
    exact .done

theorem ends_writeThenRename_iff :
    s.Ends root chunks (.writeThenRename temp target bytes) (.ok ()) v ↔
      ∃ made filled synced, s.Leaves root chunks (.create temp) (.ok ()) made ∧
        made.Leaves root chunks (.writeAll temp bytes) (.ok ()) filled ∧
        filled.Leaves root chunks (.sync temp) (.ok ()) synced ∧
        synced.Leaves root chunks (.rename temp target) (.ok ()) v := by
  simp only [FileRun.writeThenRename, ends_orElse_iff, ends_done_iff]
  constructor
  · rintro ⟨made, isMade, filled, isFilled, synced, isSynced, _, isMoved, rfl⟩
    exact ⟨made, filled, synced, isMade, isFilled, isSynced, isMoved⟩
  · rintro ⟨made, filled, synced, isMade, isFilled, isSynced, isMoved⟩
    exact ⟨made, isMade, filled, isFilled, synced, isSynced, _, isMoved, rfl⟩

theorem expects_created {t : FileTree} (isMade : (FileCall.create temp).Leaves root s.tree (.ok ()) t) :
    Expects (root ++ temp.full) [] ⟨t, none, none⟩ := by
  cases isMade with
  | created => exact ⟨rfl, [], FileTree.get?_set_self _ _ _, rfl⟩

theorem Ends.outcome (ends : s.Ends root chunks (.writeThenRename temp target bytes) (.ok ()) u) :
    ∃ content, u.tree.get? (root ++ target.full) = some (.file content) ∧
      Outcome chunks u.heldBack content := by
  obtain ⟨_, filled, synced, ⟨_, isMade, rfl⟩, ⟨_, offers⟩, settles, ⟨_, isMoved, rfl⟩⟩ :=
    ends_writeThenRename_iff.1 ends
  obtain ⟨expects, isLast⟩ := offers.expects rfl (expects_created isMade)
  rw [Option.or_none] at isLast
  obtain ⟨content, found, outcome⟩ := Settles.outcome settles expects isLast
  cases isMoved with
  | moved found' =>
      obtain rfl := Option.some.inj (found.symm.trans found')
      exact ⟨content, FileTree.get?_set_self _ _ _, outcome⟩

/-! ## Every outcome comes about -/

theorem Settles.get?_of_ne {other : List String} (settles : s.Settles place u)
    (elsewhere : other ≠ place) : u.tree.get? other = s.tree.get? other := by
  cases settles with
  | idle => rfl
  | written => exact FileTree.get?_set _ |>.trans (if_neg elsewhere)
  | cut => exact FileTree.get?_set _ |>.trans (if_neg elsewhere)

theorem Expects.exists_settles (expects : s.Expects place bytes) :
    ∃ u, s.Settles place u ∧ u.Expects place bytes ∧ u.underWay = none := by
  obtain ⟨noError, held, found, _⟩ := id expects
  cases isUnderWay : s.underWay with
  | none => exact ⟨s, .idle isUnderWay, expects, isUnderWay⟩
  | some chunk =>
      have settles := Settles.written isUnderWay found
      exact ⟨_, settles, settles.expects expects noError⟩

private theorem Expects.exists_offers (expects : s.Expects place bytes) (chunks : List Bytes) :
    ∃ u, Offers place s chunks (.ok ()) u ∧
      ∀ other, other ≠ place → u.tree.get? other = s.tree.get? other := by
  induction chunks generalizing s bytes with
  | nil => exact ⟨s, .finished, fun _ _ => rfl⟩
  | cons chunk chunks ih =>
      obtain ⟨w, settles, ⟨noError, held, found, _⟩, _⟩ := expects.exists_settles
      have taken : Expects place (held ++ chunk) { w with underWay := some chunk } :=
        ⟨noError, held, found, rfl⟩
      obtain ⟨u, offers, kept⟩ := ih taken
      refine ⟨u, .taken settles noError offers, fun other elsewhere => ?_⟩
      exact (kept other elsewhere).trans (settles.get?_of_ne elsewhere)

theorem Outcome.exists_settles (outcome : Outcome chunks error content) (expects : s.Expects place chunks.flatten)
    (isLast : s.underWay = chunks.getLast?) :
    ∃ u, s.Settles place u ∧ u.tree.get? place = some (.file content) ∧ u.heldBack = error := by
  cases outcome with
  | whole =>
      obtain ⟨u, settles, ⟨noError, held, found, isSum⟩, isIdle⟩ := expects.exists_settles
      rw [isIdle, Option.getD_none, List.append_nil] at isSum
      exact ⟨u, settles, isSum ▸ found, noError⟩
  | @short before last front e isCut isFront isShort =>
      subst isCut
      obtain ⟨_, held, found, isSum⟩ := expects
      rw [List.getLast?_concat] at isLast
      rw [isLast, Option.getD_some, List.flatten_append, List.flatten_singleton,
        List.append_cancel_right_eq] at isSum
      refine ⟨_, .cut isLast found isFront isShort, ?_, rfl⟩
      rw [FileTree.get?_set_self, isSum]

private theorem Outcome.exists_ends (outcome : Outcome chunks error content)
    (tempFree : s.tree.get? (root ++ temp.full) ≠ some .directory)
    (targetFree : s.tree.get? (root ++ target.full) ≠ some .directory) :
    ∃ u, s.Ends root chunks (.writeThenRename temp target chunks.flatten) (.ok ()) u ∧
      u.tree.get? (root ++ target.full) = some (.file content) ∧ u.heldBack = error := by
  have created : (FileCall.create temp).Leaves root s.tree (.ok ()) _ := .created tempFree
  have expects := expects_created created
  obtain ⟨filled, offers, kept⟩ := expects.exists_offers chunks
  obtain ⟨whole, isLast⟩ := offers.expects rfl expects
  rw [Option.or_none] at isLast
  obtain ⟨synced, settles, found, isError⟩ := outcome.exists_settles whole isLast
  have stillFree : synced.tree.get? (root ++ target.full) ≠ some .directory := by
    by_cases same : root ++ target.full = root ++ temp.full
    · rw [same, found]
      exact fun isDirectory => nomatch isDirectory
    · rw [settles.get?_of_ne same, kept _ same]
      exact FileTree.get?_set _ |>.trans (if_neg same) |>.trans_ne targetFree
  have moved := FileCall.Leaves.moved found stillFree
  exact ⟨_, ends_writeThenRename_iff.2 ⟨_, filled, synced, ⟨_, created, rfl⟩, ⟨rfl, offers⟩,
    settles, ⟨_, moved, rfl⟩⟩, FileTree.get?_set_self _ _ _, isError⟩

end OpenFile

/-- A write that succeeds has put in the place of the object all chunks but the last, and as much of
the last as was written: all of the bytes exactly if no error is held back. However the bytes are
cut, each of these contents can come about, so that any object but an empty one can lose its end
without a failure of the write. -/
theorem object_written_whole_iff_no_error_held_back (root : List String) (temp target : Location)
    (chunks : List Bytes) (s : OpenFile) :
    (∀ u, s.Ends root chunks (.writeThenRename temp target chunks.flatten) (.ok ()) u →
      ∃ content, u.tree.get? (root ++ target.full) = some (.file content) ∧
        (content = chunks.flatten ↔ u.heldBack = none) ∧
        chunks.dropLast.flatten <+: content ∧ content <+: chunks.flatten) ∧
    (s.tree.get? (root ++ temp.full) ≠ some .directory →
      s.tree.get? (root ++ target.full) ≠ some .directory → ∀ content,
        (∃ u, s.Ends root chunks (.writeThenRename temp target chunks.flatten) (.ok ()) u ∧
          u.tree.get? (root ++ target.full) = some (.file content)) ↔
        content = chunks.flatten ∨ ∃ before last front, chunks = before ++ [last] ∧
          front <+: last ∧ front ≠ last ∧ content = before.flatten ++ front) := by
  refine ⟨fun u ends => ?_, fun tempFree targetFree content => ?_⟩
  · obtain ⟨content, found, outcome⟩ := ends.outcome
    exact ⟨content, found, outcome.whole_iff, outcome.isFront⟩
  · rw [← OpenFile.exists_outcome_iff]
    constructor
    · rintro ⟨u, ends, found⟩
      obtain ⟨content', found', outcome⟩ := ends.outcome
      obtain rfl := FileEntry.file.inj (Option.some.inj (found.symm.trans found'))
      exact ⟨_, outcome⟩
    · rintro ⟨error, outcome⟩
      obtain ⟨u, ends, found, _⟩ := outcome.exists_ends tempFree targetFree
      exact ⟨u, ends, found⟩

/-- A chunk of one byte is taken and nothing of it is written. -/
theorem object_written_whole_iff_no_error_held_back_of_one_byte :
    let l : Location := ⟨⟨[], ""⟩, "x.dat", "x.dat", false⟩
    let s : OpenFile := ⟨⟨[([], .directory)]⟩, none, none⟩
    s.tree.get? (l.temporary 0).full ≠ some .directory ∧ s.tree.get? l.full ≠ some .directory ∧
      ∃ u, s.Ends [] [[1]] (.writeThenRename (l.temporary 0) l [1]) (.ok ()) u ∧
        u.tree.get? l.full = some (.file []) := by
  intro l s
  have tempFree : s.tree.get? (l.temporary 0).full ≠ some .directory := by decide +kernel
  have targetFree : s.tree.get? l.full ≠ some .directory := by decide +kernel
  have published := (object_written_whole_iff_no_error_held_back [] (l.temporary 0) l [[1]] s).2
    tempFree targetFree []
  exact ⟨tempFree, targetFree, published.2 (.inr ⟨[], [1], [], rfl, by decide, by decide, rfl⟩)⟩

/-- The disk is full when the last chunk is written. The write succeeds without it, and from then on
every save of the whole object finds the path taken. -/
theorem object_without_its_end_written_and_kept :
    let l : Location := ⟨⟨["blocks"], "blocks"⟩, "x.dat", "blocks/x.dat", false⟩
    let chunks : List Bytes := [[1, 2], [3, 4]]
    Location.parse? "blocks/x.dat" = some l ∧
      ∃ u : OpenFile, OpenFile.Ends [] chunks ⟨.missing, none, none⟩
          (FileRun.write l 0 chunks.flatten) (.ok ()) u ∧
        u.tree.get? l.full = some (.file [1, 2, 3]) ∧ u.heldBack = some .device ∧
        let saved := (Saving.start FileSystemStore.store
          (.ofList [("blocks/x.dat", chunks.flatten)])).run FileSystemStore.store
            ⟨"/srv", u.tree, 1⟩
        saved.1 = { destination := "local-filesystem", skipped := 1 } ∧ saved.2.tree = u.tree := by
  intro l chunks
  let t : FileTree := ⟨[(["blocks"], .directory), ([], .directory)]⟩
  have isMade : FileTree.missing.perform "/srv" (.createDirectories l.folder) = (.ok (), t) := by
    decide +kernel
  have made := FileTree.leaves_perform "/srv" .missing (.createDirectories l.folder)
  rw [isMade] at made
  have created : (FileCall.create (l.temporary 0)).Leaves [] t (.ok ()) _ := .created (by decide)
  have holds (u : FileTree) (bytes : Bytes) :
      (u.set (l.temporary 0).full (.file bytes)).get? (l.temporary 0).full = some (.file bytes) :=
    u.get?_set_self _ _
  let filled : OpenFile := {
    tree := (t.set (l.temporary 0).full (.file [])).set (l.temporary 0).full (.file [1, 2])
    underWay := some [3, 4]
    heldBack := none }
  have offers : OpenFile.Offers (l.temporary 0).full ⟨_, none, none⟩ chunks (.ok ()) filled :=
    .taken (.idle rfl) rfl (.taken (.written rfl (holds t [])) rfl .finished)
  have settles : filled.Settles (l.temporary 0).full ⟨_, none, some .device⟩ :=
    .cut rfl (holds _ _) (show [3] <+: [3, 4] by decide) (by decide)
  have moved : (FileCall.rename (l.temporary 0) l).Leaves [] _ (.ok ()) _ :=
    .moved (holds filled.tree ([1, 2] ++ [3])) (by decide +kernel)
  have ends : OpenFile.Ends [] chunks ⟨t, none, none⟩
      (.writeThenRename (l.temporary 0) l chunks.flatten) (.ok ()) ⟨_, none, some .device⟩ :=
    OpenFile.ends_writeThenRename_iff.2 ⟨_, filled, ⟨_, none, some .device⟩, ⟨_, created, rfl⟩,
      ⟨rfl, offers⟩, settles, _, moved, rfl⟩
  refine ⟨by decide +kernel, _, .call ⟨_, made, rfl⟩ ends, ?_, rfl, ?_⟩
  · decide +kernel
  · constructor
    · decide +kernel
    · decide +kernel

end UptimeIntake
