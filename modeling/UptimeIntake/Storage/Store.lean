import UptimeIntake.Storage.Paths

/-!
# Stores

What a storage destination can be asked: whether an object is there, to write one, and to close.
A store is given by its answers and by what they do to its state; any behaviour is allowed, and
any call may fail.
-/

set_option autoImplicit false

namespace UptimeIntake

inductive StorageError where
  | io
  /-- The path names no place inside the store. -/
  | invalidPath (path : String)
  | unavailable (detail : String)
  deriving DecidableEq, Repr

/-- The wording of an error, where it does not hang on the underlying system. -/
def StorageError.message? : StorageError → Option String
  | io => none
  | invalidPath path => some ("invalid object path: " ++ path)
  | unavailable detail => some ("destination unavailable: " ++ detail)

/-- A store with states in `σ`. -/
structure ObjectStore (σ : Type) where
  /-- The name in logs and reports. -/
  name : String
  /-- Whether a path is looked up before it is written; by default the paths of blocks are. -/
  checksExistence : String → Bool := isBlockPath
  contains : String → σ → Except StorageError Bool × σ
  /-- Writes an object, replacing an earlier one. -/
  write : String → Bytes → σ → Except StorageError Unit × σ
  close : σ → Except StorageError Unit × σ := fun s => (.ok (), s)

end UptimeIntake
