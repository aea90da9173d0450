import UptimeIntake.Storage.Save

/-!
# Fan-out

Saving a set of objects to every destination. Each destination has its own store and state and
gets every object; the reports come in the order of the destinations.
-/

set_option autoImplicit false

namespace UptimeIntake

/-- A destination: a store with its state. -/
structure Destination (σ : Type) where
  store : ObjectStore σ
  state : σ

structure SaveReport where
  destinations : List DestinationReport
  deriving DecidableEq, Repr

namespace SaveReport

def written (r : SaveReport) : Nat := r.destinations.foldr (fun d n => d.written + n) 0

def skipped (r : SaveReport) : Nat := r.destinations.foldr (fun d n => d.skipped + n) 0

def failed (r : SaveReport) : Nat := r.destinations.foldr (fun d n => d.failed + n) 0

end SaveReport

namespace Destination

variable {σ : Type}

def save (objects : ObjectSet) (d : Destination σ) : DestinationReport × Destination σ :=
  let (report, state) := (Saving.start d.store objects).run d.store d.state
  (report, { d with state })

def close (d : Destination σ) : Except StorageError Unit × Destination σ :=
  let (result, state) := d.store.close d.state
  (result, { d with state })

def saveAll (objects : ObjectSet) (ds : List (Destination σ)) :
    SaveReport × List (Destination σ) :=
  let results := ds.map (save objects)
  (⟨results.map (·.1)⟩, results.map (·.2))

/-- Closes every destination; one that fails does not keep the others open. -/
def closeAll (ds : List (Destination σ)) : List (Destination σ) :=
  ds.map fun d => d.close.2

end Destination

end UptimeIntake
