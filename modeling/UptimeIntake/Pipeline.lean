import UptimeIntake.Attempts.Table
import UptimeIntake.Config.Basic
import UptimeIntake.Storage.Fanout
import UptimeIntake.Submission.Error
import UptimeIntake.Submission.Payload
import UptimeIntake.Whitelist.Document

/-!
# The pipeline

What happens to the body of a submission: it is decoded, checked for its required fields, the
registration of its submitter, its creation time, its signature and the quota of its submitter,
in this order, and then saved in every destination. The first check that fails decides the
outcome. Only the quota leaves a trace of a refused submission, and only a submission that passed
every check reaches the destinations.
-/

set_option autoImplicit false

namespace UptimeIntake

/-- What a verifier is asked. -/
structure SignatureQuery where
  key : SubmitterKey
  signature : Signature
  /-- The hash of the sign payload. -/
  hash : Bytes
  networkId : UInt8

abbrev SignatureVerifier := SignatureQuery → Bool

/-- The fixed parts of the service that a submission meets. -/
structure Pipeline where
  config : IngestConfig
  quota : Quota
  /-- The whitelist in force; without one nobody is registered. -/
  whitelist : Option Whitelist
  verifier : Option SignatureVerifier

/-- What submissions change. -/
structure PipelineState (σ : Type) where
  attempts : AttemptTable
  destinations : List (Destination σ)

/-- A body on its way through the pipeline. -/
structure Call where
  body : Bytes
  /-- Where it came from, as kept in the metadata. -/
  remoteAddr : String
  now : Instant
  moment : Moment
  deriving DecidableEq

inductive Refusal where
  | rejected (cause : SubmitError)
  /-- The tolerated skew is no span of time, or leads out of the range of instants. -/
  | outOfRange
  deriving DecidableEq

inductive Outcome where
  | accepted (report : SaveReport)
  | refused (cause : Refusal)
  deriving DecidableEq

namespace Pipeline

/-! ## Checks -/

/-- The body is a submission document with all required fields. -/
def readSubmission (body : Bytes) : Except Refusal Submission :=
  match Request.decode? body with
  | none => .error (.rejected .decode)
  | some request =>
    match request.submission? with
    | none => .error (.rejected .missingFields)
    | some submission => .ok submission

def isRegistered (p : Pipeline) (key : SubmitterKey) : Bool :=
  p.config.whitelist.disabled || p.whitelist.any fun whitelist => whitelist.contains key

def checkRegistration (p : Pipeline) (s : Submission) : Except Refusal Unit :=
  if p.isRegistered s.submitter then .ok ()
  else .error (.rejected (.notRegistered s.submitter))

/-- The creation time, less the tolerated skew, is not after `now`. -/
def checkFreshness (p : Pipeline) (now : Instant) (s : Submission) : Except Refusal Unit :=
  match p.config.limits.timeDiffDelta?.bind s.data.createdAt.minusSeconds? with
  | none => .error .outOfRange
  | some earliest =>
    if now.before earliest then .error (.rejected .futureTimestamp) else .ok ()

def signatureQuery (p : Pipeline) (s : Submission) : SignatureQuery where
  key := s.submitter
  signature := s.signature
  hash := (Hash.Blake2b.digest s.data.signPayload).bytes
  networkId := p.config.networkId

/-- The signature is valid, or signatures are not checked. -/
def checkSignature (p : Pipeline) (s : Submission) : Except Refusal Unit :=
  if p.config.verifySignatureDisabled then .ok ()
  else
    match p.verifier with
    | none => .error (.rejected (.internal "no signature verifier"))
    | some verify =>
      if verify (p.signatureQuery s) then .ok () else .error (.rejected .invalidSignature)

def checkBeforeSignature (p : Pipeline) (now : Instant) (body : Bytes) :
    Except Refusal Submission := do
  let s ← readSubmission body
  p.checkRegistration s
  p.checkFreshness now s
  return s

/-- All checks but that of the quota. -/
def check (p : Pipeline) (now : Instant) (body : Bytes) : Except Refusal Submission := do
  let s ← p.checkBeforeSignature now body
  p.checkSignature s
  return s

/-- What the verifier is asked about a body, if it is asked. -/
def asked? (p : Pipeline) (now : Instant) (body : Bytes) : Option SignatureQuery :=
  if p.config.verifySignatureDisabled || p.verifier.isNone then none
  else (p.checkBeforeSignature now body).toOption.map p.signatureQuery

/-- All checks, that of the quota last. An attempt is recorded exactly for what passes them. -/
def accept (p : Pipeline) (call : Call) (attempts : AttemptTable) :
    Except Refusal Submission × AttemptTable :=
  match p.check call.now call.body with
  | .error cause => (.error cause, attempts)
  | .ok s =>
    let (isLetThrough, attempts) := attempts.record p.quota s.submitter call.moment
    (if isLetThrough then .ok s else .error (.rejected .rateLimited), attempts)

/-! ## Saving -/

def paths (s : Submission) (now : Instant) : StoragePaths :=
  .build now s.data.blockHash s.submitter

/-- The objects kept for a submission: its metadata and its block. -/
def objects (s : Submission) (remoteAddr : String) (now : Instant) : ObjectSet :=
  .ofList
    [((paths s now).metadata, s.data.metadata s.submitter remoteAddr s.data.blockHash),
     ((paths s now).block, s.data.block)]

variable {σ : Type}

def process (p : Pipeline) (call : Call) (state : PipelineState σ) :
    Outcome × PipelineState σ :=
  match p.accept call state.attempts with
  | (.error cause, attempts) => (.refused cause, { state with attempts })
  | (.ok s, attempts) =>
    let (report, destinations) :=
      Destination.saveAll (objects s call.remoteAddr call.now) state.destinations
    (.accepted report, ⟨attempts, destinations⟩)

end Pipeline

end UptimeIntake
