import UptimeIntake.Storage.ObjectSet
import UptimeIntake.Storage.Store

/-!
# The memory store

Objects kept in memory, with a journal of the paths written. Nothing fails, and by the default
rule only blocks are looked up before they are written.
-/

set_option autoImplicit false

namespace UptimeIntake

structure MemoryStore where
  objects : ObjectSet
  /-- The path of every write, latest first. -/
  journal : List String

namespace MemoryStore

def empty : MemoryStore := ⟨.empty, []⟩

def get? (m : MemoryStore) (path : String) : Option Bytes :=
  m.objects.get? path

def writeCount (m : MemoryStore) (path : String) : Nat :=
  m.journal.count path

def write (m : MemoryStore) (path : String) (bytes : Bytes) : MemoryStore :=
  ⟨m.objects.insert path bytes, path :: m.journal⟩

/-- The memory store as a destination of the given name. -/
def store (name : String) : ObjectStore MemoryStore where
  name
  contains path m := (.ok (m.get? path).isSome, m)
  write path bytes m := (.ok (), m.write path bytes)

end MemoryStore

end UptimeIntake
