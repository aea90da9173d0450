import UptimeIntake.Storage.Fanout

/-!
# Journals of stores

A store that also writes down the calls made on it. Nothing else about it changes, so what a save
asks of any store can be read off the journal.
-/

set_option autoImplicit false

namespace UptimeIntake

inductive StoreCall where
  | contains (path : String)
  | write (path : String) (bytes : Bytes)
  deriving DecidableEq

variable {σ : Type}

/-- The store with a journal of the calls made on it, latest first. -/
def ObjectStore.journaled (store : ObjectStore σ) : ObjectStore (σ × List StoreCall) where
  name := store.name
  checksExistence := store.checksExistence
  contains path s :=
    let (answer, state) := store.contains path s.1
    (answer, (state, .contains path :: s.2))
  write path bytes s :=
    let (answer, state) := store.write path bytes s.1
    (answer, (state, .write path bytes :: s.2))
  close s :=
    let (answer, state) := store.close s.1
    (answer, (state, s.2))

namespace Destination

def journaled (d : Destination σ) : Destination (σ × List StoreCall) where
  store := d.store.journaled
  state := (d.state, [])

private theorem run_journaled (store : ObjectStore σ) (saving : Saving) (s : σ)
    (journal : List StoreCall) :
    (saving.run store.journaled (s, journal)).1 = (saving.run store s).1 ∧
      (saving.run store.journaled (s, journal)).2.1 = (saving.run store s).2 := by
  induction saving generalizing s journal with
  | finished report => exact ⟨rfl, rfl⟩
  | contains path next ih => exact ih _ _ _
  | write path bytes next ih => exact ih _ _ _

/-- A journal changes neither the report of a save nor what it does to the store. -/
theorem save_journaled (objects : ObjectSet) (d : Destination σ) :
    (d.journaled.save objects).1 = (d.save objects).1 ∧
      (d.journaled.save objects).2.state.1 = (d.save objects).2.state :=
  run_journaled d.store (Saving.start d.store objects) d.state []

end Destination

end UptimeIntake
