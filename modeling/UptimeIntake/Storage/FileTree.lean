import UptimeIntake.Storage.Location

/-!
# File trees

A file system below one root directory, which itself may be missing: its directories and files by
their names from the root, and the operations that a file store uses. A name has at most 255
bytes, the text of a path at most 4095 and no NUL; the path of the root is part of that text.
-/

set_option autoImplicit false

namespace UptimeIntake

inductive FileError where
  | notFound
  | notDirectory
  | isDirectory
  | tooLong
  /-- A name holds a NUL. -/
  | badName
  | device
  deriving DecidableEq, Repr

inductive FileEntry where
  | directory
  /-- A file with its bytes. -/
  | file (bytes : Bytes)
  deriving DecidableEq, Repr

/-- An operation on files, given by places below the root. -/
inductive FileCall where
  /-- Makes a directory and the directories on the way. -/
  | createDirectories (folder : Directory)
  /-- Makes an empty file, or empties one. -/
  | create (file : Location)
  /-- Writes the bytes of a file that was just made. -/
  | writeAll (file : Location) (bytes : Bytes)
  | sync (file : Location)
  /-- Moves a file onto a place, replacing a file there. -/
  | rename (source target : Location)
  | remove (file : Location)
  deriving DecidableEq, Repr

/-- The directories and files below a root, by their names from it; the root has no name. -/
structure FileTree where
  /-- The entries, at most one for each place. -/
  entries : List (List String × FileEntry)
  deriving DecidableEq, Repr

namespace FileTree

def missing : FileTree := ⟨[]⟩

def get? (t : FileTree) (names : List String) : Option FileEntry :=
  t.entries.lookup names

def erase (t : FileTree) (names : List String) : FileTree :=
  ⟨t.entries.filter fun entry => entry.1 ≠ names⟩

def set (t : FileTree) (names : List String) (entry : FileEntry) : FileTree :=
  ⟨(names, entry) :: (t.erase names).entries⟩

/-- The most bytes of the text of a path. -/
def pathLimit : Nat := 4095

def isLongName (name : String) : Bool :=
  255 < name.utf8ByteSize

/-- The path cannot be passed to the system. -/
def refuse? (path : String) : Option FileError :=
  if path.toList.contains '\x00' then some .badName
  else if pathLimit < path.utf8ByteSize then some .tooLong
  else none

/-- The path below the root cannot be passed to the system. -/
def refuseBelow? (root path : String) : Option FileError :=
  refuse? (pathBelow root path)

/-- Walks on from the directory `here`: what stands at the end. -/
def walk (t : FileTree) (here : List String) : List String → Except FileError FileEntry
  | [] =>
    match t.get? here with
    | none => .error .notFound
    | some entry => .ok entry
  | name :: rest =>
    match t.get? here with
    | none => .error .notFound
    | some (.file _) => .error .notDirectory
    | some .directory =>
      if isLongName name then .error .tooLong else walk t (here ++ [name]) rest

/-- What stands at a location. -/
def stat (root : String) (t : FileTree) (l : Location) : Except FileError FileEntry :=
  match refuseBelow? root l.text with
  | some e => .error e
  | none =>
    match walk t [] l.full with
    | .ok (.file bytes) => if l.asDirectory then .error .notDirectory else .ok (.file bytes)
    | result => result

/-- Something stands at a location. That nothing stands there, or on the way, is an answer; other
failures are not. -/
def contains (root : String) (t : FileTree) (l : Location) : Except FileError Bool :=
  match t.stat root l with
  | .ok _ => .ok true
  | .error .notFound => .ok false
  | .error e => .error e

/-- Makes the directories on the way from `here`, top down. -/
def createFrom (t : FileTree) (here : List String) (names : List String) :
    Except FileError Unit × FileTree :=
  match t.get? here with
  | some (.file _) => (.error .notDirectory, t)
  | entry =>
    let t := if entry.isSome then t else t.set here .directory
    match names with
    | [] => (.ok (), t)
    | name :: rest =>
      if isLongName name then (.error .tooLong, t) else createFrom t (here ++ [name]) rest

/-- The directory of a location stands, and the location can be entered in it. -/
def enterable (root : String) (t : FileTree) (l : Location) : Except FileError Unit :=
  match refuseBelow? root l.text with
  | some e => .error e
  | none =>
    match walk t [] l.folder.names with
    | .error e => .error e
    | .ok (.file _) => .error .notDirectory
    | .ok .directory =>
      if isLongName l.name then .error .tooLong
      else if l.asDirectory then .error .notDirectory
      else if t.get? l.full = some .directory then .error .isDirectory
      else .ok ()

/-- Carries out an operation in the tree below the root with this path. -/
def perform (root : String) (t : FileTree) : FileCall → Except FileError Unit × FileTree
  | .createDirectories folder =>
    match refuseBelow? root folder.text with
    | some e => (.error e, t)
    | none => createFrom t [] folder.names
  | .create file =>
    match t.enterable root file with
    | .error e => (.error e, t)
    | .ok () => (.ok (), t.set file.full (.file []))
  | .writeAll file bytes => (.ok (), t.set file.full (.file bytes))
  | .sync _ => (.ok (), t)
  | .rename source target =>
    match t.get? source.full, t.enterable root target with
    | none, _ => (.error .notFound, t)
    | some _, .error e => (.error e, t)
    | some entry, .ok () => (.ok (), (t.erase source.full).set target.full entry)
  | .remove file =>
    match t.get? file.full with
    | some (.file _) => (.ok (), t.erase file.full)
    | some .directory => (.error .isDirectory, t)
    | none => (.error .notFound, t)

/-- The files with their names from the root. -/
def files (t : FileTree) : List (List String × Bytes) :=
  t.entries.filterMap fun
    | (names, .file bytes) => some (names, bytes)
    | (_, .directory) => none

end FileTree

end UptimeIntake
