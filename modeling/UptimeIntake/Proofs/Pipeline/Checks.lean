import UptimeIntake.Pipeline

/-!
# What the checks decide

When a submission passes each check of the pipeline, said without the check itself, and all that
processing a call can come to.
-/

set_option autoImplicit false

namespace UptimeIntake

namespace Request

/-- The request has every required field, block and peer are not empty, and all fields are those
of the submission. -/
structure Completes (r : Request) (s : Submission) : Prop where
  submitter : r.submitter = some s.submitter
  signature : r.signature = some s.signature
  block : r.data.block = some s.data.block
  block_ne : s.data.block ≠ []
  peerId : r.data.peerId = some s.data.peerId
  peerId_ne : s.data.peerId ≠ ""
  createdAt : r.data.createdAt = some s.data.createdAt
  snarkWork : r.data.snarkWork = s.data.snarkWork
  controlPort : r.data.controlPort = s.data.controlPort
  commitSha : r.data.commitSha = s.data.commitSha

/-- A required field is unset, or block or peer is empty. -/
def Lacks (r : Request) : Prop :=
  r.submitter = none ∨ r.signature = none ∨ r.data.createdAt = none ∨
    r.data.block = none ∨ r.data.block = some [] ∨
    r.data.peerId = none ∨ r.data.peerId = some ""

theorem Completes.submission? {r : Request} {s : Submission} (completes : r.Completes s) :
    r.submission? = some s := by
  have block_ne : (!s.data.block.isEmpty) = true := by simpa using completes.block_ne
  have peerId_ne : (!s.data.peerId.isEmpty) = true := by simpa using completes.peerId_ne
  simp [Request.submission?, Option.filter, completes.submitter, completes.signature,
    completes.block, block_ne, completes.peerId, peerId_ne, completes.createdAt,
    completes.snarkWork, completes.controlPort, completes.commitSha]

theorem completes_of_submission? {r : Request} {s : Submission}
    (completed : r.submission? = some s) : r.Completes s := by
  simp only [submission?, bind, Option.bind_eq_some_iff, Option.filter_eq_some_iff,
    Bool.not_eq_true', pure, Option.some.injEq] at completed
  obtain ⟨block, ⟨hasBlock, block_ne⟩, peerId, ⟨hasPeerId, peerId_ne⟩, submitter, hasSubmitter,
    signature, hasSignature, createdAt, hasCreatedAt, rfl⟩ := completed
  exact {
    submitter := hasSubmitter
    signature := hasSignature
    block := hasBlock
    block_ne := by simpa using block_ne
    peerId := hasPeerId
    peerId_ne := by simpa using peerId_ne
    createdAt := hasCreatedAt
    snarkWork := rfl
    controlPort := rfl
    commitSha := rfl }

theorem submission?_eq_some_iff {r : Request} {s : Submission} :
    r.submission? = some s ↔ r.Completes s :=
  ⟨completes_of_submission?, Completes.submission?⟩

theorem Completes.not_lacks {r : Request} {s : Submission} (completes : r.Completes s) :
    ¬ r.Lacks := by
  rintro (unset | unset | unset | unset | empty | unset | empty)
  · simp [completes.submitter] at unset
  · simp [completes.signature] at unset
  · simp [completes.createdAt] at unset
  · simp [completes.block] at unset
  · simp [completes.block, completes.block_ne] at empty
  · simp [completes.peerId] at unset
  · simp [completes.peerId, completes.peerId_ne] at empty

private theorem exists_completes {r : Request} (complete : ¬ r.Lacks) : ∃ s, r.Completes s := by
  simp only [Lacks, not_or, ← ne_eq, Option.ne_none_iff_exists'] at complete
  obtain ⟨⟨key, hasKey⟩, ⟨signature, hasSignature⟩, ⟨createdAt, hasCreatedAt⟩, ⟨block, hasBlock⟩,
    block_ne, ⟨peerId, hasPeerId⟩, peerId_ne⟩ := complete
  exact ⟨⟨key, signature, ⟨peerId, block, createdAt, r.data.snarkWork, r.data.controlPort,
      r.data.commitSha⟩⟩, {
    submitter := hasKey
    signature := hasSignature
    block := hasBlock
    block_ne := fun empty => block_ne (hasBlock.trans (congrArg some empty))
    peerId := hasPeerId
    peerId_ne := fun empty => peerId_ne (hasPeerId.trans (congrArg some empty))
    createdAt := hasCreatedAt
    snarkWork := rfl
    controlPort := rfl
    commitSha := rfl }⟩

theorem submission?_eq_none_iff {r : Request} : r.submission? = none ↔ r.Lacks := by
  constructor
  · intro refused
    by_cases complete : r.Lacks
    · exact complete
    · obtain ⟨s, completes⟩ := exists_completes complete
      rw [completes.submission?] at refused
      cases refused
  · intro lacks
    cases completed : r.submission? with
    | none => rfl
    | some s => exact absurd lacks (completes_of_submission? completed).not_lacks

end Request

namespace Pipeline

variable {p : Pipeline} {now : Instant} {s : Submission} {cause : Refusal}

/-! ## Conditions -/

/-- The body is a submission document with all required fields, which are those of the
submission. -/
def Writes (body : Bytes) (s : Submission) : Prop :=
  ∃ r, Request.decode? body = some r ∧ r.Completes s

/-- The whitelist is disabled, or there is one and the submitter is on it. -/
def LetsIn (p : Pipeline) (key : SubmitterKey) : Prop :=
  p.config.whitelist.disabled = true ∨ ∃ whitelist, p.whitelist = some whitelist ∧ key ∈ whitelist

/-- The creation time less the tolerated skew, if that is an instant. -/
def earliest? (p : Pipeline) (s : Submission) : Option Instant :=
  p.config.limits.timeDiffDelta?.bind s.data.createdAt.minusSeconds?

/-- The creation time less the tolerated skew is not after `now`. -/
def IsTimely (p : Pipeline) (now : Instant) (s : Submission) : Prop :=
  ∃ earliest, p.earliest? s = some earliest ∧ earliest ≤ now

/-- Signatures are not checked, or there is a verifier and it accepts the signature of the
submitter over the hash of the sign payload for the configured network. -/
def IsAuthentic (p : Pipeline) (s : Submission) : Prop :=
  p.config.verifySignatureDisabled = true ∨ ∃ verify, p.verifier = some verify ∧
    verify ⟨s.submitter, s.signature, (Hash.Blake2b.digest s.data.signPayload).bytes,
      p.config.networkId⟩ = true

/-- Fewer attempts of the submitter than the quota are left when those that expired by `moment`
are pruned. -/
def HasRoom (p : Pipeline) (moment : Moment) (attempts : AttemptTable) (key : SubmitterKey) :
    Prop :=
  (AttemptTable.prune p.quota.window moment (attempts.queue key)).length < p.quota.maxAttempts

theorem Writes.unique {body : Bytes} {s t : Submission} (first : Writes body s)
    (second : Writes body t) : s = t := by
  obtain ⟨r, decoded, completes⟩ := first
  obtain ⟨r', decoded', completes'⟩ := second
  obtain rfl := Option.some.inj (decoded.symm.trans decoded')
  exact Option.some.inj (completes.submission?.symm.trans completes'.submission?)

/-! ## One check after the other -/

theorem readSubmission_eq_ok_iff {body : Bytes} : readSubmission body = .ok s ↔ Writes body s := by
  unfold readSubmission Writes
  cases decoded : Request.decode? body with
  | none => simp
  | some r =>
      cases completed : r.submission? with
      | none =>
          have lacks := Request.submission?_eq_none_iff.1 completed
          simp only [completed, reduceCtorEq, Option.some.injEq, false_iff]
          rintro ⟨_, rfl, completes⟩
          exact completes.not_lacks lacks
      | some t => simp [completed, ← Request.submission?_eq_some_iff]

theorem readSubmission_eq_error {body : Bytes} (failed : readSubmission body = .error cause) :
    (Request.decode? body = none ∧ cause = .rejected .decode) ∨
      ∃ r, Request.decode? body = some r ∧ r.Lacks ∧ cause = .rejected .missingFields := by
  unfold readSubmission at failed
  cases decoded : Request.decode? body with
  | none =>
      simp only [decoded, Except.error.injEq] at failed
      exact .inl ⟨rfl, failed.symm⟩
  | some r =>
      simp only [decoded] at failed
      cases completed : r.submission? with
      | none =>
          simp only [completed, Except.error.injEq] at failed
          exact .inr ⟨r, rfl, Request.submission?_eq_none_iff.1 completed, failed.symm⟩
      | some t => simp [completed] at failed

private theorem ite_ok_iff {c : Prop} [Decidable c] {u : Unit} :
    (if c then Except.ok () else Except.error cause) = .ok u ↔ c := by
  split <;> simp [*]

theorem isRegistered_iff {key : SubmitterKey} : p.isRegistered key = true ↔ p.LetsIn key := by
  simp only [isRegistered, LetsIn, Bool.or_eq_true, Option.any_eq_true]
  refine or_congr_right (exists_congr fun whitelist => and_congr_right fun _ => ?_)
  exact List.contains_iff_mem

theorem checkRegistration_eq_ok_iff {u : Unit} :
    p.checkRegistration s = .ok u ↔ p.LetsIn s.submitter := by
  rw [← isRegistered_iff, checkRegistration, ite_ok_iff]

theorem checkRegistration_eq_error (failed : p.checkRegistration s = .error cause) :
    ¬ p.LetsIn s.submitter ∧ cause = .rejected (.notRegistered s.submitter) := by
  rw [← isRegistered_iff]
  unfold checkRegistration at failed
  split at failed
  · cases failed
  · next isOut =>
      cases failed
      exact ⟨isOut, rfl⟩

theorem checkFreshness_eq (p : Pipeline) (now : Instant) (s : Submission) :
    p.checkFreshness now s =
      match p.earliest? s with
      | none => .error .outOfRange
      | some earliest =>
        if now.before earliest then .error (.rejected .futureTimestamp) else .ok () := rfl

theorem checkFreshness_eq_ok_iff {u : Unit} :
    p.checkFreshness now s = .ok u ↔ p.IsTimely now s := by
  rw [checkFreshness_eq, IsTimely]
  cases p.earliest? s with
  | none => simp
  | some earliest => cases later : now.before earliest <;> simp [Instant.le_iff_before_eq_false, later]

theorem checkFreshness_eq_error (failed : p.checkFreshness now s = .error cause) :
    (p.earliest? s = none ∧ cause = .outOfRange) ∨
      ∃ earliest, p.earliest? s = some earliest ∧ ¬ earliest ≤ now ∧
        cause = .rejected .futureTimestamp := by
  rw [checkFreshness_eq] at failed
  cases reached : p.earliest? s with
  | none =>
      simp only [reached, Except.error.injEq] at failed
      exact .inl ⟨rfl, failed.symm⟩
  | some earliest =>
      simp only [reached] at failed
      split at failed
      · next later =>
          cases failed
          exact .inr ⟨earliest, rfl, by simp [Instant.le_iff_before_eq_false, later], rfl⟩
      · cases failed

theorem checkSignature_eq_ok_iff {u : Unit} :
    p.checkSignature s = .ok u ↔ p.IsAuthentic s := by
  unfold checkSignature IsAuthentic
  cases p.config.verifySignatureDisabled with
  | true => simp
  | false =>
      cases p.verifier with
      | none => simp
      | some verify =>
          simp only [Bool.false_eq_true, if_false, ite_ok_iff, false_or, Option.some.injEq,
            exists_eq_left']
          rfl

theorem checkSignature_eq_error (failed : p.checkSignature s = .error cause) :
    p.config.verifySignatureDisabled = false ∧
      ((p.verifier = none ∧ cause = .rejected (.internal "no signature verifier")) ∨
        ∃ verify, p.verifier = some verify ∧ verify (p.signatureQuery s) = false ∧
          cause = .rejected .invalidSignature) := by
  unfold checkSignature at failed
  cases disabled : p.config.verifySignatureDisabled with
  | true => simp [disabled] at failed
  | false =>
      refine ⟨rfl, ?_⟩
      cases present : p.verifier with
      | none =>
          simp only [disabled, present, Bool.false_eq_true, if_false, Except.error.injEq] at failed
          exact .inl ⟨rfl, failed.symm⟩
      | some verify =>
          simp only [disabled, present, Bool.false_eq_true, if_false] at failed
          split at failed
          · cases failed
          · next refused =>
              cases failed
              exact .inr ⟨verify, rfl, by simpa using refused, rfl⟩

/-! ## All checks -/

private theorem bind_eq_ok_iff {ε α β : Type} {first : Except ε α} {next : α → Except ε β}
    {b : β} : first >>= next = .ok b ↔ ∃ a, first = .ok a ∧ next a = .ok b := by
  cases first with
  | error e => simp [bind, Except.bind]
  | ok a => simp [bind, Except.bind]

private theorem bind_eq_error_iff {ε α β : Type} {first : Except ε α} {next : α → Except ε β}
    {e : ε} :
    first >>= next = .error e ↔ first = .error e ∨ ∃ a, first = .ok a ∧ next a = .error e := by
  cases first with
  | error e => simp [bind, Except.bind]
  | ok a => simp [bind, Except.bind]

theorem check_eq_ok_iff {body : Bytes} :
    p.check now body = .ok s ↔
      Writes body s ∧ p.LetsIn s.submitter ∧ p.IsTimely now s ∧ p.IsAuthentic s := by
  simp only [check, checkBeforeSignature, bind_eq_ok_iff, readSubmission_eq_ok_iff,
    checkRegistration_eq_ok_iff, checkFreshness_eq_ok_iff, checkSignature_eq_ok_iff, pure,
    Except.pure, Except.ok.injEq]
  constructor
  · rintro ⟨t, ⟨_, writes, _, isIn, _, timely, rfl⟩, _, authentic, rfl⟩
    exact ⟨writes, isIn, timely, authentic⟩
  · rintro ⟨writes, isIn, timely, authentic⟩
    exact ⟨s, ⟨s, writes, (), isIn, (), timely, rfl⟩, (), authentic, rfl⟩

theorem check_eq_error {body : Bytes} (failed : p.check now body = .error cause) :
    readSubmission body = .error cause ∨ ∃ s, Writes body s ∧
      (p.checkRegistration s = .error cause ∨ p.LetsIn s.submitter ∧
        (p.checkFreshness now s = .error cause ∨ p.IsTimely now s ∧
          p.checkSignature s = .error cause)) := by
  simp only [check, checkBeforeSignature, bind_eq_error_iff, bind_eq_ok_iff,
    readSubmission_eq_ok_iff, checkRegistration_eq_ok_iff, checkFreshness_eq_ok_iff, pure,
    Except.pure, reduceCtorEq, and_false, exists_false, or_false, Except.ok.injEq] at failed
  obtain (unread | ⟨s, writes, out | ⟨_, isIn, stale⟩⟩) |
    ⟨_, ⟨s, writes, _, isIn, _, timely, rfl⟩, forged⟩ := failed
  · exact .inl unread
  · exact .inr ⟨s, writes, .inl out⟩
  · exact .inr ⟨s, writes, .inr ⟨isIn, .inl stale⟩⟩
  · exact .inr ⟨s, writes, .inr ⟨isIn, .inr ⟨timely, forged⟩⟩⟩

/-! ## Processing -/

variable {σ : Type}

/-- All that processing a call can come to: a check fails and nothing happens; the quota is used
up and the attempts are left pruned; or the attempt is recorded and the objects are saved. -/
theorem process_cases (p : Pipeline) (call : Call) (state : PipelineState σ) :
    (∃ cause, p.check call.now call.body = .error cause ∧
      p.process call state = (.refused cause, state)) ∨
    (∃ s, p.check call.now call.body = .ok s ∧
      (state.attempts.record p.quota s.submitter call.moment).1 = false ∧
      p.process call state = (.refused (.rejected .rateLimited),
        { state with
          attempts := (state.attempts.record p.quota s.submitter call.moment).2 })) ∨
    (∃ s, p.check call.now call.body = .ok s ∧
      (state.attempts.record p.quota s.submitter call.moment).1 = true ∧
      p.process call state =
        (.accepted
          (Destination.saveAll (objects s call.remoteAddr call.now) state.destinations).1,
          ⟨(state.attempts.record p.quota s.submitter call.moment).2,
            (Destination.saveAll (objects s call.remoteAddr call.now) state.destinations).2⟩)) := by
  cases checked : p.check call.now call.body with
  | error cause =>
      refine .inl ⟨cause, rfl, ?_⟩
      simp only [process, accept, checked]
  | ok s =>
      cases verdict : (state.attempts.record p.quota s.submitter call.moment).1 with
      | false =>
          refine .inr (.inl ⟨s, rfl, verdict, ?_⟩)
          simp only [process, accept, checked, verdict, Bool.false_eq_true, if_false]
      | true =>
          refine .inr (.inr ⟨s, rfl, verdict, ?_⟩)
          simp only [process, accept, checked, verdict, if_true]

/-- The destinations have no say in what is refused. -/
theorem process_eq_refused_iff {call : Call} {state : PipelineState σ} :
    (p.process call state).1 = .refused cause ↔
      (p.accept call state.attempts).1 = .error cause := by
  unfold process
  split
  · next accepted => simp [accepted]
  · next accepted => simp [accepted]

/-! ## A bare submission -/

/-- Settings that let everybody in and check no signatures. -/
def unguarded (limits : LimitsConfig) (quota : Quota) : Pipeline where
  config := {
    limits
    whitelist := { disabled := true }
    storage := { memory := true }
    verifySignatureDisabled := true }
  quota
  whitelist := none
  verifier := none

/-- A submission of three bytes, with zeros for the key and the signature. -/
def bareBody (createdAt : String) : Bytes :=
  Text.Utf8.encode <|
    "\x7b\"submitter\":\"".toList ++ (Octets.zero 32).toHex ++
      "\",\"sig\":\"".toList ++ (Octets.zero 64).toHex ++
      "\",\"data\":\x7b\"peer_id\":\"p\",\"block\":\"AQID\",\"created_at\":\"".toList ++
      createdAt.toList ++ "\"\x7d\x7d".toList

end Pipeline

end UptimeIntake
