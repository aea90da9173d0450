import UptimeIntake.Ed25519.Verify
import UptimeIntake.Pipeline
import UptimeIntake.Storage.FileSystem
import UptimeIntake.Storage.Memory

/-!
# Wiring

The parts of the service that the settings call for: its destinations, the quota, and the
pipeline.
-/

set_option autoImplicit false

namespace UptimeIntake

/-! ## Destinations -/

/-- A destination that the settings enable. -/
inductive Backend where
  | files (root : String)
  | memory
  deriving DecidableEq, Repr

def StorageConfig.backends (c : StorageConfig) : List Backend :=
  c.localPath.toList.map .files ++ if c.memory then [.memory] else []

inductive BackendState where
  | files (state : FileSystemStore)
  | memory (state : MemoryStore)

namespace BackendState

/-- Applies the operation of the store whose state it is. -/
def apply {α : Type} (onFiles : FileSystemStore → α × FileSystemStore)
    (onMemory : MemoryStore → α × MemoryStore) : BackendState → α × BackendState
  | files s =>
    let (answer, s) := onFiles s
    (answer, .files s)
  | memory s =>
    let (answer, s) := onMemory s
    (answer, .memory s)

/-- A store over either kind of state, with the name and the check policy of one of them. -/
def store (name : String) (checksExistence : String → Bool) : ObjectStore BackendState where
  name
  checksExistence
  contains path :=
    apply (FileSystemStore.store.contains path) ((MemoryStore.store name).contains path)
  write path bytes :=
    apply (FileSystemStore.store.write path bytes) ((MemoryStore.store name).write path bytes)

end BackendState

namespace Backend

def name : Backend → String
  | files _ => FileSystemStore.name
  | memory => "memory"

/-- The destination before anything was saved, with a root that is missing. -/
def destination (b : Backend) : Destination BackendState :=
  match b with
  | files root =>
    ⟨BackendState.store b.name FileSystemStore.store.checksExistence, .files (.empty root)⟩
  | memory =>
    ⟨BackendState.store b.name (MemoryStore.store b.name).checksExistence, .memory .empty⟩

end Backend

/-! ## Pipeline -/

def RateLimitConfig.quota (c : RateLimitConfig) : Quota where
  maxAttempts := c.maxAttempts.toNat
  window := c.windowSecs.toNat * 1000000000

def Ed25519.verifier : SignatureVerifier := fun query =>
  verify query.key query.signature query.hash query.networkId

namespace IngestConfig

/-- The pipeline that the settings call for, with the whitelist that was loaded. A part that is
disabled is left out. -/
def pipeline (c : IngestConfig) (whitelist : Whitelist) : Pipeline where
  config := c
  quota := c.rateLimit.quota
  whitelist := if c.whitelist.disabled then none else some whitelist
  verifier := if c.verifySignatureDisabled then none else some Ed25519.verifier

def initialState (c : IngestConfig) : PipelineState BackendState where
  attempts := .empty
  destinations := c.storage.backends.map Backend.destination

end IngestConfig

end UptimeIntake
