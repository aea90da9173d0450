import UptimeIntake.Storage.FileTree
import UptimeIntake.Storage.Store

/-!
# The file store

Objects as files below a root. Every path is looked up before it is written. An object is written
to a temporary file beside its place, made durable and renamed, so that its place never holds a
part of it as long as every failure is reported; whatever fails, the temporary file is removed.

A write is given as a tree of file operations, each with what follows for each answer, so that it
can be run on a file tree, on one that fails, or step by step.
-/

set_option autoImplicit false

namespace UptimeIntake

/-- A sequence of file operations in progress. -/
inductive FileRun where
  | done (result : Except FileError Unit)
  /-- An operation with what follows for each answer. -/
  | call (operation : FileCall) (next : Except FileError Unit → FileRun)

namespace FileRun

/-- Carries out one operation, if there is one. How operations act on a state is given. -/
def step? {σ : Type} (perform : σ → FileCall → Except FileError Unit × σ) (s : σ) :
    FileRun → Option (FileRun × σ)
  | done _ => none
  | call operation next =>
    let (answer, s) := perform s operation
    some (next answer, s)

def run {σ : Type} (perform : σ → FileCall → Except FileError Unit × σ) :
    FileRun → σ → Except FileError Unit × σ
  | done result, s => (result, s)
  | call operation next, s =>
    let (answer, s) := perform s operation
    run perform (next answer) s

/-- An operation whose failure is passed to `failed`. -/
def orElse (operation : FileCall) (failed : FileError → FileRun) (next : FileRun) : FileRun :=
  .call operation fun
    | .ok () => next
    | .error e => failed e

/-- Removes a temporary file and ends with the failure `e`, whether or not the removal succeeds. -/
def discard (temp : Location) (e : FileError) : FileRun :=
  .call (.remove temp) fun _ => .done (.error e)

/-- Writes a temporary file, makes it durable and renames it. -/
def writeThenRename (temp target : Location) (bytes : Bytes) : FileRun :=
  let failed := discard temp
  orElse (.create temp) failed <|
    orElse (.writeAll temp bytes) failed <|
      orElse (.sync temp) failed <|
        orElse (.rename temp target) failed <| .done (.ok ())

/-- Writes an object at a location, with the temporary name of the given number. -/
def write (target : Location) (sequence : Nat) (bytes : Bytes) : FileRun :=
  orElse (.createDirectories target.folder) (fun e => .done (.error e)) <|
    writeThenRename (target.temporary sequence) target bytes

end FileRun

structure FileSystemStore where
  /-- The path of the root. -/
  root : String
  tree : FileTree
  /-- The number of the next temporary file; numbers start again behind the last word. -/
  nextTemporary : UInt64

namespace FileSystemStore

/-- A store below a root that is missing. -/
def empty (root : String) : FileSystemStore := ⟨root, .missing, 0⟩

def contains (path : String) (s : FileSystemStore) : Except StorageError Bool × FileSystemStore :=
  match Location.parse? path with
  | none => (.error (.invalidPath path), s)
  | some l =>
    match s.tree.contains s.root l with
    | .ok present => (.ok present, s)
    | .error _ => (.error .io, s)

/-- The number of the next temporary file behind a write at a location, which takes a number once
the directory of the location stands. -/
def numberBehind (s : FileSystemStore) (l : Location) : UInt64 :=
  match (s.tree.perform s.root (.createDirectories l.folder)).1 with
  | .ok () => s.nextTemporary + 1
  | .error _ => s.nextTemporary

def write (path : String) (bytes : Bytes) (s : FileSystemStore) :
    Except StorageError Unit × FileSystemStore :=
  match Location.parse? path with
  | none => (.error (.invalidPath path), s)
  | some l =>
    let perform := FileTree.perform s.root
    let (result, tree) := (FileRun.write l s.nextTemporary.toNat bytes).run perform s.tree
    let s := { s with tree, nextTemporary := s.numberBehind l }
    match result with
    | .ok () => (.ok (), s)
    | .error _ => (.error .io, s)

def name : String := "local-filesystem"

def store : ObjectStore FileSystemStore where
  name
  checksExistence _ := true
  contains
  write

end FileSystemStore

end UptimeIntake
