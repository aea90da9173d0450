import UptimeIntake.Storage.ObjectSet
import UptimeIntake.Storage.Store

/-!
# Saving to one destination

The calls that saving a set of objects makes on a store, as a tree: each call with what follows
for each answer. Run to the end on one store it gives a report; taken call by call it can be
interleaved with other saves on the same store.

Objects are handled once each, in path order. A path that the store checks and reports as present
is skipped; any other object is written, also where the check failed. A failed write is counted
and stops nothing.
-/

set_option autoImplicit false

namespace UptimeIntake

/-- What became of the objects in one destination. -/
structure DestinationReport where
  destination : String
  written : Nat := 0
  /-- Objects present already. -/
  skipped : Nat := 0
  failed : Nat := 0
  deriving DecidableEq, Repr

namespace DestinationReport

/-- Counts an object that was present already. -/
def skip (r : DestinationReport) : DestinationReport :=
  { r with skipped := r.skipped + 1 }

/-- Counts an object by the result of its write. -/
def countWrite (r : DestinationReport) : Except StorageError Unit → DestinationReport
  | .ok _ => { r with written := r.written + 1 }
  | .error _ => { r with failed := r.failed + 1 }

end DestinationReport

/-- A save in progress: finished, or a call with what follows for each answer. -/
inductive Saving where
  | finished (report : DestinationReport)
  | contains (path : String) (next : Except StorageError Bool → Saving)
  | write (path : String) (bytes : Bytes) (next : Except StorageError Unit → Saving)

namespace Saving

/-- The save of objects in the given order, behind those in the report. -/
def ofObjects (checks : String → Bool) (report : DestinationReport) :
    List (String × Bytes) → Saving
  | [] => .finished report
  | (path, bytes) :: rest =>
    let writing :=
      Saving.write path bytes fun result => ofObjects checks (report.countWrite result) rest
    if checks path then
      .contains path fun
        | .ok true => ofObjects checks report.skip rest
        | .ok false | .error _ => writing
    else writing

def start {σ : Type} (store : ObjectStore σ) (objects : ObjectSet) : Saving :=
  ofObjects store.checksExistence { destination := store.name } objects.objects

/-- Makes the next call on a store, if there is one. -/
def step? {σ : Type} (store : ObjectStore σ) (s : σ) : Saving → Option (Saving × σ)
  | finished _ => none
  | contains path next =>
    let (answer, s) := store.contains path s
    some (next answer, s)
  | write path bytes next =>
    let (answer, s) := store.write path bytes s
    some (next answer, s)

/-- Makes all calls on a store, one after the other. -/
def run {σ : Type} (store : ObjectStore σ) : Saving → σ → DestinationReport × σ
  | finished report, s => (report, s)
  | contains path next, s =>
    let (answer, s) := store.contains path s
    run store (next answer) s
  | write path bytes next, s =>
    let (answer, s) := store.write path bytes s
    run store (next answer) s

end Saving

end UptimeIntake
