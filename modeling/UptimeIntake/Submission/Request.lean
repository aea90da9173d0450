import UptimeIntake.Json.Record
import UptimeIntake.Octets
import UptimeIntake.Text.Base64
import UptimeIntake.Time.Rfc3339

/-!
# Submission requests

The body of a submission as received, where every field may be unset, and a submission whose
required fields are present and not empty.
-/

set_option autoImplicit false

namespace UptimeIntake

open Json Text

/-- The `data` object of a request as received. -/
structure RequestData where
  peerId : Option String
  block : Option Bytes
  createdAt : Option Instant
  snarkWork : Option Bytes
  controlPort : Option UInt16
  /-- The commit that the peer was built with. -/
  commitSha : Option String
  deriving DecidableEq

structure Request where
  submitter : Option SubmitterKey
  /-- The signature over the hash of the payload. -/
  signature : Option Signature
  data : RequestData
  deriving DecidableEq

/-- The data of a submission with all required fields. -/
structure SubmissionData where
  peerId : String
  block : Bytes
  createdAt : Instant
  /-- The raw SNARK work; unset and empty differ. -/
  snarkWork : Option Bytes
  controlPort : Option UInt16
  /-- The commit that the peer was built with. -/
  commitSha : Option String
  deriving DecidableEq

/-- A submission with all required fields. -/
structure Submission where
  submitter : SubmitterKey
  /-- The signature over the hash of the payload. -/
  signature : Signature
  data : SubmissionData
  deriving DecidableEq

/-! ## Reading -/

def readBase64? (v : Value) : Option Bytes :=
  v.text?.bind fun s => Base64.decode s.toList

/-- Reads an instant in the relaxed form of RFC 3339. -/
def readInstant? (v : Value) : Option Instant :=
  v.text?.bind fun s => Rfc3339.read? s.toList

/-- Reads a byte string of length `n` in hexadecimal. -/
def readOctets? (n : Nat) (v : Value) : Option (Octets n) :=
  v.text?.bind fun s => Octets.parse? n s.toList

namespace RequestData

def unset : RequestData := ⟨none, none, none, none, none, none⟩

def fieldNames : List String :=
  ["peer_id", "block", "created_at", "snark_work", "graphql_control_port",
   "built_with_commit_sha"]

/-- Reads the data object. A null field counts as unset. -/
def read? (v : Value) : Option RequestData := do
  let field ← v.fields? fieldNames
  let peerId ← Value.optional Value.text? (field "peer_id")
  let block ← Value.optional readBase64? (field "block")
  let createdAt ← Value.optional readInstant? (field "created_at")
  let snarkWork ← Value.optional readBase64? (field "snark_work")
  let controlPort ← Value.optional Value.uint16? (field "graphql_control_port")
  let commitSha ← Value.optional Value.text? (field "built_with_commit_sha")
  return { peerId, block, createdAt, snarkWork, controlPort, commitSha }

end RequestData

namespace Request

def fieldNames : List String :=
  ["submitter", "sig", "data"]

/-- Reads a request. A null key or signature counts as unset; null data is refused. -/
def read? (v : Value) : Option Request := do
  let field ← v.fields? fieldNames
  let submitter ← Value.optional (readOctets? 32) (field "submitter")
  let signature ← Value.optional (readOctets? 64) (field "sig")
  let data ← Value.withDefault RequestData.unset RequestData.read? (field "data")
  return { submitter, signature, data }

def decode? (body : Bytes) : Option Request :=
  (Value.read? body).bind read?

/-- The submission of a request, if the key, the signature and the creation time are set and the
block and the peer are set and not empty. -/
def submission? (r : Request) : Option Submission := do
  let block ← r.data.block.filter fun block => !block.isEmpty
  let peerId ← r.data.peerId.filter fun peerId => !peerId.isEmpty
  let submitter ← r.submitter
  let signature ← r.signature
  let createdAt ← r.data.createdAt
  return {
    submitter
    signature
    data := {
      peerId
      block
      createdAt
      snarkWork := r.data.snarkWork
      controlPort := r.data.controlPort
      commitSha := r.data.commitSha } }

end Request

end UptimeIntake
