import UptimeIntake.Storage.FileSystem
import UptimeIntake.Storage.Save

/-!
# Files on disk

Carries out file operations and saves on the file system of the machine, below a root directory.
-/

set_option autoImplicit false

namespace UptimeIntake.Disk

def failure : IO.Error → FileError
  | .noFileOrDirectory .. => .notFound
  | _ => .device

def attempt (action : IO Unit) : IO (Except FileError Unit) := do
  try
    action
    return .ok ()
  catch e => return .error (failure e)

def contents (path : String) : IO (Option Bytes) := do
  try return some (← IO.FS.readBinFile path).toList
  catch _ => return none

def perform (root : String) : FileCall → IO (Except FileError Unit)
  | .createDirectories directory => attempt (IO.FS.createDirAll (pathBelow root directory.text))
  | .create file => attempt (discard (IO.FS.Handle.mk (pathBelow root file.text) .write))
  | .writeAll file bytes =>
    attempt (IO.FS.writeBinFile (pathBelow root file.text) (ByteArray.mk bytes.toArray))
  | .sync file => attempt do (← IO.FS.Handle.mk (pathBelow root file.text) .append).flush
  | .rename source target =>
    attempt (IO.FS.rename (pathBelow root source.text) (pathBelow root target.text))
  | .remove file => attempt (IO.FS.removeFile (pathBelow root file.text))

def run (root : String) : FileRun → IO (Except FileError Unit)
  | .done result => return result
  | .call operation next => do run root (next (← perform root operation))

def contains (root : String) (l : Location) : IO (Except StorageError Bool) := do
  match ← attempt (discard (IO.FS.Handle.mk (pathBelow root l.text) .read)) with
  | .ok () => return .ok true
  | .error .notFound => return .ok false
  | .error _ => return .error .io

def containsObject (root path : String) : IO (Except StorageError Bool) :=
  match Location.parse? path with
  | none => return .error (.invalidPath path)
  | some l => contains root l

/-- Writes an object. Once its directory stands, it takes a fresh number for its temporary file. -/
def writeObject (root : String) (temporaries : IO.Ref Nat) (path : String) (bytes : Bytes) :
    IO (Except StorageError Unit) := do
  match Location.parse? path with
  | none => return .error (.invalidPath path)
  | some l =>
    match ← perform root (.createDirectories l.folder) with
    | .error _ => return .error .io
    | .ok () =>
      let sequence ← temporaries.modifyGet fun n => (n, n + 1)
      let temp := l.temporary sequence
      return (← run root (FileRun.writeThenRename temp l bytes)).mapError fun _ => .io

def save (root : String) (temporaries : IO.Ref Nat) : Saving → IO DestinationReport
  | .finished report => return report
  | .contains path next => do save root temporaries (next (← containsObject root path))
  | .write path bytes next => do
    save root temporaries (next (← writeObject root temporaries path bytes))

end UptimeIntake.Disk
