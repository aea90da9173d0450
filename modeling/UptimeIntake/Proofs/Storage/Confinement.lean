import UptimeIntake.Proofs.Pipeline.Concurrent
import UptimeIntake.Proofs.Storage.Atomicity
import UptimeIntake.Proofs.Storage.ObjectPlaces
import UptimeIntake.Proofs.Storage.Routes

/-!
# The root of a file store confines it

A file store refuses the paths that could leave its root, and leaves everything as it is. On all
other paths, its calls name places that lead on from the root, and change nothing else but for
directories made on the way to the root. All paths of submissions are of this kind.
-/

set_option autoImplicit false

namespace UptimeIntake

/-! ## Outside the root -/

namespace FileTree

variable {root place : List String} {before after : FileTree}

def IsBelow (root place : List String) : Prop :=
  ∃ names, names ≠ [] ∧ place = root ++ names

private theorem Stays.of_not_isBelow {names : List String}
    (stays : Stays (root ++ names) before after place) (outside : ¬ IsBelow root place) :
    Stays root before after place := by
  cases stays with
  | inl kept => exact .inl kept
  | inr made =>
      refine .inr ⟨?_, made.2⟩
      cases List.prefix_or_prefix_of_prefix made.1 (List.prefix_append root names) with
      | inl onWay => exact onWay
      | inr behind =>
          obtain ⟨further, rfl⟩ := behind
          have noFurther : further = [] := by
            by_contra isFurther
            exact outside ⟨further, isFurther, rfl⟩
          rw [noFurther, List.append_nil]

end FileTree

/-! ## What is asked of the system -/

/-- The places that a call names to the system, each by its text and by the names it stands for. -/
def FileCall.places : FileCall → List (String × List String)
  | .createDirectories folder => [(folder.text, folder.names)]
  | .create file => [(file.text, file.full)]
  | .writeAll file _ => [(file.text, file.full)]
  | .sync file => [(file.text, file.full)]
  | .rename source target => [(source.text, source.full), (target.text, target.full)]
  | .remove file => [(file.text, file.full)]

variable {root place : List String} {t u : FileTree} {call : FileCall}
  {answer : Except FileError Unit}

private theorem FileCall.exists_mem_places (call : FileCall) : ∃ named, named ∈ call.places := by
  cases call <;> exact ⟨_, List.mem_cons_self⟩

/-- A call changes nothing but what it names and directories on the way there. -/
theorem FileCall.Leaves.acts_where_named (leaves : call.Leaves root t answer u) :
    ∃ named ∈ call.places,
      (named.2 ≠ [] ∧ place = root ++ named.2) ∨ t.Stays (root ++ named.2) u place := by
  have atFile {l : Location} (isNamed : (l.text, l.full) ∈ call.places)
      (elsewhere : place ≠ root ++ l.full → u.get? place = t.get? place) :
      ∃ named ∈ call.places,
        (named.2 ≠ [] ∧ place = root ++ named.2) ∨ t.Stays (root ++ named.2) u place := by
    by_cases here : place = root ++ l.full
    · exact ⟨_, isNamed, .inl ⟨FileTree.full_ne_nil, here⟩⟩
    · exact ⟨_, isNamed, .inr (.inl (elsewhere here))⟩
  cases leaves with
  | nothing =>
      obtain ⟨named, isNamed⟩ := call.exists_mem_places
      exact ⟨named, isNamed, .inr (.refl _ t place)⟩
  | someDirectories stays => exact ⟨_, List.mem_cons_self, .inr (stays place)⟩
  | allDirectories stays _ => exact ⟨_, List.mem_cons_self, .inr (stays place)⟩
  | created _ => exact atFile List.mem_cons_self fun other => by rw [FileTree.get?_set, if_neg other]
  | written => exact atFile List.mem_cons_self fun other => by rw [FileTree.get?_set, if_neg other]
  | cut _ => exact atFile List.mem_cons_self fun other => by rw [FileTree.get?_set, if_neg other]
  | synced => exact atFile List.mem_cons_self fun _ => rfl
  | @moved source target entry _ _ =>
      by_cases atTarget : place = root ++ target.full
      · exact ⟨_, List.mem_cons_of_mem _ List.mem_cons_self,
          .inl ⟨FileTree.full_ne_nil, atTarget⟩⟩
      · refine atFile List.mem_cons_self fun other => ?_
        rw [FileTree.get?_set, if_neg atTarget, FileTree.get?_erase, if_neg other]
  | removed _ =>
      exact atFile List.mem_cons_self fun other => by rw [FileTree.get?_erase, if_neg other]

theorem FileCall.Leaves.stays (leaves : call.Leaves root t answer u)
    (outside : ¬ FileTree.IsBelow root place) : t.Stays root u place := by
  obtain ⟨named, _, acts⟩ := leaves.acts_where_named
  cases acts with
  | inl here => exact absurd ⟨named.2, here⟩ outside
  | inr stays => exact stays.of_not_isBelow outside

/-- All of these texts lead on from the root to their names. -/
def FileCall.LeadsOn (call : FileCall) : Prop :=
  ∀ place ∈ call.places, UptimeIntake.LeadsOn place.1 place.2

namespace FileRun

/-- Whatever the answers are, the run makes only these calls. -/
def Asks (allowed : FileCall → Prop) : FileRun → Prop
  | .done _ => True
  | .call operation next => allowed operation ∧ ∀ answer, (next answer).Asks allowed

variable {allowed : FileCall → Prop} {l : Location} {number : Nat} {bytes : Bytes}

theorem asks_orElse {operation : FileCall} {failed : FileError → FileRun} {next : FileRun}
    (isAllowed : allowed operation) (fails : ∀ e, (failed e).Asks allowed)
    (succeeds : next.Asks allowed) : (orElse operation failed next).Asks allowed := by
  refine ⟨isAllowed, fun answer => ?_⟩
  cases answer with
  | ok done => exact succeeds
  | error e => exact fails e

variable {run rest : FileRun} {calls : List FileExchange}

theorem Reaches.asks (reaches : run.Reaches root t calls rest u)
    (asks : run.Asks allowed) :
    (∀ exchange ∈ calls, allowed exchange.1) ∧ rest.Asks allowed := by
  induction reaches with
  | start => exact ⟨List.forall_mem_nil _, asks⟩
  | @step calls operation next answer u v _ _ ih =>
      obtain ⟨earlier, isAllowed, further⟩ := ih
      refine ⟨List.forall_mem_append.2 ⟨earlier, ?_⟩, further answer⟩
      exact List.forall_mem_singleton.2 isAllowed

theorem Reaches.stays (reaches : run.Reaches root t calls rest u)
    (outside : ¬ FileTree.IsBelow root place) : t.Stays root u place := by
  induction reaches with
  | start => exact .refl root t place
  | step _ last ih => exact ih.trans (last.stays outside)

private theorem asks_write {path : String} {way : List (List Char)} {last : List Char}
    (isAt : l.IsAt path way last) : (write l number bytes).Asks FileCall.LeadsOn := by
  have folder : (FileCall.createDirectories l.folder).LeadsOn :=
    List.forall_mem_singleton.2 isAt.leadsOn_folder
  have temporary := isAt.leadsOn_temporary number
  have onTemporary {call : FileCall}
      (places : call.places = [((l.temporary number).text, (l.temporary number).full)]) :
      call.LeadsOn := by
    rw [FileCall.LeadsOn, places]
    exact List.forall_mem_singleton.2 temporary
  have move : (FileCall.rename (l.temporary number) l).LeadsOn :=
    List.forall_mem_cons.2 ⟨temporary, List.forall_mem_singleton.2 isAt.leadsOn_text⟩
  have discarded (e : FileError) : (discard (l.temporary number) e).Asks FileCall.LeadsOn :=
    ⟨onTemporary rfl, fun _ => trivial⟩
  refine asks_orElse folder (fun _ => trivial) ?_
  refine asks_orElse (onTemporary rfl) discarded ?_
  refine asks_orElse (onTemporary rfl) discarded ?_
  refine asks_orElse (onTemporary rfl) discarded ?_
  exact asks_orElse move discarded trivial

/-- Below a root of this text, every call names only places that lead on from the root, and at no
time has anything changed outside the root but for directories made on the way to it. -/
structure IsConfined (root : String) (run : FileRun) : Prop where
  asked : ∀ {t calls rest u}, run.Reaches (routeOf root).names t calls rest u →
    ∀ exchange ∈ calls, exchange.1.LeadsOn
  kept : ∀ {t calls rest u}, run.Reaches (routeOf root).names t calls rest u →
    ∀ place, ¬ FileTree.IsBelow (routeOf root).names place →
      t.Stays (routeOf root).names u place

private theorem isConfined_write {path : String} {way : List (List Char)} {last : List Char}
    (isAt : l.IsAt path way last) (root : String) (number : Nat) (bytes : Bytes) :
    (write l number bytes).IsConfined root where
  asked reaches := (reaches.asks (asks_write isAt)).1
  kept reaches _ outside := reaches.stays outside

end FileRun

/-! ## The store -/

namespace FileSystemStore

variable {path : String} {l : Location}

private theorem invalid_of_isRefused (refused : Location.IsRefused path) (bytes : Bytes)
    (s : FileSystemStore) :
    contains path s = (.error (.invalidPath path), s) ∧
      write path bytes s = (.error (.invalidPath path), s) := by
  have parsed : Location.parse? path = none := by
    rw [Location.parse?, Location.escapes_iff.2 refused]
    rfl
  constructor
  · rw [contains, parsed]
  · rw [write, parsed]

private theorem valid_of_parsed (parsed : Location.parse? path = some l) (bytes : Bytes)
    (s : FileSystemStore) (named : String) :
    (contains path s).1 ≠ .error (.invalidPath named) ∧
      (write path bytes s).1 ≠ .error (.invalidPath named) := by
  constructor
  · rw [contains, parsed]
    dsimp only
    cases s.tree.contains s.root l <;> exact nofun
  · rw [write_of_parsed parsed]
    cases (FileRun.write l s.nextTemporary.toNat bytes).run (FileTree.perform s.root) s.tree with
    | mk result tree => cases result <;> exact nofun

end FileSystemStore

private theorem Pipeline.isObjectPath_of_mem_paths {s : Submission} {remoteAddr path : String}
    {now : Instant}
    (isPath : path ∈ (objects s remoteAddr now).paths) : IsObjectPath path := by
  rw [ObjectSet.paths, objects_eq] at isPath
  cases List.mem_pair.1 isPath with
  | inl isBlock => exact ⟨now, Hash.Blake2b.digest s.data.block, s.submitter, .inr isBlock⟩
  | inr isMetadata => exact ⟨now, Hash.Blake2b.digest s.data.block, s.submitter, .inl isMetadata⟩

private theorem IsObjectPath.not_isRefused {path : String} (isObject : IsObjectPath path) :
    ¬ Location.IsRefused path := by
  obtain ⟨way, last, filed⟩ := isObject.isFiled
  intro refused
  have parsed := filed.parse?_eq
  rw [Location.parse?, Location.escapes_iff.2 refused] at parsed
  cases parsed

/-- The file store refuses the paths that are empty, start at the top or at a dot, or step up, and
leaves everything as it is. Every other path leads on from its root, wherever that is, to a place
below it; a write there stays confined to the root however its calls turn out. The paths of
submissions are never refused. -/
theorem file_store_confined_to_root (path : String) :
    (Location.IsRefused path → ∀ (bytes : Bytes) (s : FileSystemStore),
      FileSystemStore.contains path s = (.error (.invalidPath path), s) ∧
        FileSystemStore.write path bytes s = (.error (.invalidPath path), s)) ∧
    (¬ Location.IsRefused path → ∃ l, Location.parse? path = some l ∧
      l.full ≠ [] ∧ LeadsOn path l.full ∧
      (∀ root number bytes, (FileRun.write l number bytes).IsConfined root) ∧
      ∀ (bytes : Bytes) (s : FileSystemStore),
        (∀ named, (FileSystemStore.contains path s).1 ≠ .error (.invalidPath named) ∧
          (FileSystemStore.write path bytes s).1 ≠ .error (.invalidPath named)) ∧
        ∃ calls result, (FileRun.write l s.nextTemporary.toNat bytes).Reaches [] s.tree calls
            (.done result) (FileSystemStore.write path bytes s).2.tree ∧
          (FileSystemStore.write path bytes s).1 = result.mapError fun _ => .io) ∧
    ∀ (s : Submission) (remoteAddr : String) (now : Instant),
      ∀ object ∈ (Pipeline.objects s remoteAddr now).paths, ¬ Location.IsRefused object := by
  refine ⟨fun refused bytes s => FileSystemStore.invalid_of_isRefused refused bytes s, ?_, ?_⟩
  · intro taken
    obtain ⟨l, way, last, parsed, isAt⟩ := Location.exists_isAt taken
    have leads := isAt.leadsOn_text
    rw [isAt.text] at leads
    refine ⟨l, parsed, FileTree.full_ne_nil, leads, FileRun.isConfined_write isAt, ?_⟩
    exact fun bytes s => ⟨FileSystemStore.valid_of_parsed parsed bytes s,
      FileSystemStore.exists_reaches_write parsed bytes s⟩
  · intro s remoteAddr now object isPath
    exact (Pipeline.isObjectPath_of_mem_paths isPath).not_isRefused

theorem file_store_confined_to_root_past_idle_segments :
    let epoch : Instant := ⟨0, 0, by decide, by decide, by decide⟩
    let s : Submission := ⟨Octets.zero 32, Octets.zero 64, ⟨"", [], epoch, none, none, none⟩⟩
    (FileSystemStore.write "a/../../b" [1] (.empty "/srv")).1 = .error (.invalidPath "a/../../b") ∧
      LeadsOn "a//./b/." ["a", "b"] ∧
      routeOf (joinPath "/srv/." "a//./b/.") = ⟨true, ["srv", "a", "b"]⟩ ∧
      ¬ Location.IsRefused (Pipeline.paths s epoch).metadata := by
  intro epoch s
  obtain ⟨refuses, _⟩ := file_store_confined_to_root "a/../../b"
  obtain ⟨_, takes, taken⟩ := file_store_confined_to_root "a//./b/."
  have refused : Location.IsRefused "a/../../b" := by decide +kernel
  have inside : ¬ Location.IsRefused "a//./b/." := by decide +kernel
  obtain ⟨l, parsed, _, leads, _⟩ := takes inside
  have place : (Location.parse? "a//./b/.").map Location.full = some ["a", "b"] := by
    decide +kernel
  rw [parsed, Option.map_some, Option.some.injEq] at place
  rw [place] at leads
  have isPath : (Pipeline.paths s epoch).metadata ∈ (Pipeline.objects s "" epoch).paths := by
    rw [ObjectSet.paths, Pipeline.objects_eq]
    exact List.mem_cons_of_mem _ List.mem_cons_self
  refine ⟨congrArg Prod.fst (refuses refused [1] (.empty "/srv")).2, leads, ?_,
    taken s "" epoch _ isPath⟩
  rw [leads.route]
  decide +kernel

end UptimeIntake
