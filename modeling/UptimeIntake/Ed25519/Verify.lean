import UptimeIntake.Ed25519.Curve
import UptimeIntake.Hash.Sha512

/-!
# Ed25519 verification of a submission's hash

The signed message is the network discriminator followed by the hash of the payload, so that a
signature for one network is none for another. The equation is checked without cofactor, and
the commitment is compared as bytes.
-/

set_option autoImplicit false

namespace UptimeIntake.Ed25519

/-- The message that a submitter signs. -/
def signingMessage (hash : Bytes) (networkId : UInt8) : Bytes :=
  networkId :: hash

def challenge (commitment key message : Bytes) : Nat :=
  littleEndian (Hash.Sha512.digest (commitment ++ key ++ message)) % groupOrder

/-- The signature of `message` is valid under `key`: the key is a point, the response is reduced,
and the commitment is the encoding of `response · base - challenge · key`. -/
def verifyMessage (key : SubmitterKey) (signature : Signature) (message : Bytes) : Bool :=
  let commitment := signature.bytes.take 32
  let response := littleEndian (signature.bytes.drop 32)
  match Point.decompress? key.bytes with
  | none => false
  | some A =>
    if response < groupOrder then
      let k := challenge commitment key.bytes message
      ((Point.base.smul response).add (A.neg.smul k)).compress == commitment
    else false

/-- The signature is valid for `hash` under `key` on the network `networkId`. -/
def verify (key : SubmitterKey) (signature : Signature) (hash : Bytes) (networkId : UInt8) : Bool :=
  verifyMessage key signature (signingMessage hash networkId)

end UptimeIntake.Ed25519
