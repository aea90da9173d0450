import UptimeIntake.Ed25519.Verify
import UptimeIntake.Proofs.Submission.Fields

/-!
# Sign payloads and metadata read back

A request whose data is a sign payload decodes to the data that was signed, at the precision of the
second that a clock shows. So the payload determines every field: whoever signs a payload signs
these data and no others. The metadata decode likewise, without the block and with the further
members skipped.
-/

set_option autoImplicit false

namespace UptimeIntake

open Json Text Json.Value

namespace SubmissionData

/-! ## What the written members denote -/

def snarkWorkValue (d : SubmissionData) : List (String × Value) :=
  optionalMember "snark_work" (fun bytes => .ofText (Base64.encode bytes)) d.snarkWork

def controlPortValue (d : SubmissionData) : List (String × Value) :=
  optionalMember "graphql_control_port" (fun port => .number (Decimal.digits port.toNat))
    d.controlPort

def commitValue (d : SubmissionData) : List (String × Value) :=
  optionalMember "built_with_commit_sha" (fun sha => .ofText sha.toList) d.commitSha

def signValues (d : SubmissionData) : List (String × Value) :=
  [("block", .ofText (Base64.encode d.block)),
   ("created_at", .ofText (Rfc3339.write d.createdAt)),
   ("peer_id", .ofText d.peerId.toList)] ++
    d.snarkWorkValue ++ d.controlPortValue ++ d.commitValue

def metaValues (d : SubmissionData) (submitter : SubmitterKey) (remoteAddr blockHash : String) :
    List (String × Value) :=
  [("created_at", .ofText (Rfc3339.write d.createdAt)),
   ("peer_id", .ofText d.peerId.toList)] ++
    d.snarkWorkValue ++
    [("remote_addr", .ofText remoteAddr.toList),
     ("submitter", .ofText submitter.toHex)] ++
    d.controlPortValue ++ d.commitValue ++
    [("block_hash", .ofText blockHash.toList)]

theorem memberWritten_text (name : String) (cs : List Char) :
    Value.MemberWritten (.text name cs) (name, .ofText cs) :=
  ⟨rfl, Value.written_quote cs⟩

theorem forall₂_optionalMember {α : Type} {name : String} {member : α → Member} {value : α → Value}
    (written : ∀ x, Value.MemberWritten (member x) (name, value x)) (field : Option α) :
    List.Forall₂ Value.MemberWritten (field.toList.map member) (optionalMember name value field) := by
  cases field with
  | none => exact .nil
  | some x => exact .cons (written x) .nil

theorem written_snarkWork (d : SubmissionData) :
    List.Forall₂ Value.MemberWritten d.snarkWorkMember d.snarkWorkValue :=
  forall₂_optionalMember (fun _ => memberWritten_text _ _) d.snarkWork

theorem written_controlPort (d : SubmissionData) :
    List.Forall₂ Value.MemberWritten d.controlPortMember d.controlPortValue := by
  have member (port : UInt16) : Value.MemberWritten
      ("graphql_control_port", Decimal.digits port.toNat)
      ("graphql_control_port", .number (Decimal.digits port.toNat)) :=
    ⟨rfl, Value.written_digits port.toNat⟩
  exact forall₂_optionalMember member d.controlPort

theorem written_commit (d : SubmissionData) :
    List.Forall₂ Value.MemberWritten d.commitMember d.commitValue :=
  forall₂_optionalMember (fun _ => memberWritten_text _ _) d.commitSha

theorem written_signText (d : SubmissionData) :
    Value.Written d.signText (.object (d.signValues.map Value.unnamed)) := by
  have front : List.Forall₂ Value.MemberWritten
      [.text "block" (Base64.encode d.block), .text "created_at" (Rfc3339.write d.createdAt),
        .text "peer_id" d.peerId.toList]
      [("block", .ofText (Base64.encode d.block)),
        ("created_at", .ofText (Rfc3339.write d.createdAt)),
        ("peer_id", .ofText d.peerId.toList)] :=
    .cons (memberWritten_text _ _) (.cons (memberWritten_text _ _)
      (.cons (memberWritten_text _ _) .nil))
  exact Value.written_writeObject (List.rel_append (List.rel_append (List.rel_append front
    d.written_snarkWork) d.written_controlPort) d.written_commit)

theorem written_metaText (d : SubmissionData) (submitter : SubmitterKey)
    (remoteAddr blockHash : String) :
    Value.Written (d.metaText submitter remoteAddr blockHash)
      (.object ((d.metaValues submitter remoteAddr blockHash).map Value.unnamed)) := by
  have front : List.Forall₂ Value.MemberWritten
      [.text "created_at" (Rfc3339.write d.createdAt), .text "peer_id" d.peerId.toList]
      [("created_at", .ofText (Rfc3339.write d.createdAt)), ("peer_id", .ofText d.peerId.toList)] :=
    .cons (memberWritten_text _ _) (.cons (memberWritten_text _ _) .nil)
  have origin : List.Forall₂ Value.MemberWritten
      [.text "remote_addr" remoteAddr.toList, .text "submitter" submitter.toHex]
      [("remote_addr", .ofText remoteAddr.toList), ("submitter", .ofText submitter.toHex)] :=
    .cons (memberWritten_text _ _) (.cons (memberWritten_text _ _) .nil)
  have hash : List.Forall₂ Value.MemberWritten
      [.text "block_hash" blockHash.toList] [("block_hash", .ofText blockHash.toList)] :=
    .cons (memberWritten_text _ _) .nil
  exact Value.written_writeObject (List.rel_append (List.rel_append (List.rel_append
    (List.rel_append (List.rel_append front d.written_snarkWork) origin) d.written_controlPort)
    d.written_commit) hash)

/-! ## Decoding them -/

/-- The data as received when every required field is set. -/
def received (d : SubmissionData) : RequestData where
  peerId := some d.peerId
  block := some d.block
  createdAt := some d.createdAt
  snarkWork := d.snarkWork
  controlPort := d.controlPort
  commitSha := d.commitSha

/-- The data with the time of creation cut to the second that a clock shows. -/
def toSecond (d : SubmissionData) : SubmissionData :=
  { d with createdAt := d.createdAt.floorSecond }

private theorem nodup_signValues (d : SubmissionData) : (d.signValues.map Prod.fst).Nodup := by
  have names : (d.signValues.map Prod.fst).Sublist
      (["block", "created_at", "peer_id"] ++ ["snark_work"] ++ ["graphql_control_port"] ++
        ["built_with_commit_sha"]) := by
    simp only [signValues, List.map_append]
    exact (((List.Sublist.refl _).append (map_fst_optionalMember _ _ _)).append
      (map_fst_optionalMember _ _ _)).append (map_fst_optionalMember _ _ _)
  exact names.nodup (by decide)

private theorem nodup_metaValues (d : SubmissionData) (submitter : SubmitterKey)
    (remoteAddr blockHash : String) :
    ((d.metaValues submitter remoteAddr blockHash).map Prod.fst).Nodup := by
  have names : ((d.metaValues submitter remoteAddr blockHash).map Prod.fst).Sublist
      (["created_at", "peer_id"] ++ ["snark_work"] ++ ["remote_addr", "submitter"] ++
        ["graphql_control_port"] ++ ["built_with_commit_sha"] ++ ["block_hash"]) := by
    simp only [metaValues, List.map_append]
    exact (((((List.Sublist.refl _).append (map_fst_optionalMember _ _ _)).append
      (List.Sublist.refl _)).append (map_fst_optionalMember _ _ _)).append
      (map_fst_optionalMember _ _ _)).append (List.Sublist.refl _)
  exact names.nodup (by decide)

private theorem writtenAs_signValues (d : SubmissionData) :
    d.toSecond.received.WrittenAs (.object (d.signValues.map unnamed)) where
  isRecord := isRecord_object d.nodup_signValues
  peerId := tells_set (by simp [signValues]) (isText_toList d.peerId)
  block := tells_set (by simp [signValues]) (isText_ofList (Base64.encode d.block))
  createdAt := tells_set (by simp [signValues]) (isInstant_write d.createdAt)
  snarkWork := tells_optional (by simp [signValues, snarkWorkValue, controlPortValue, commitValue,
    received, toSecond]) fun _ _ => isText_ofList _
  controlPort := tells_optional (by simp [signValues, snarkWorkValue, controlPortValue, commitValue,
    received, toSecond]) fun _ _ => rfl
  commitSha := tells_optional (by simp [signValues, snarkWorkValue, controlPortValue, commitValue,
    received, toSecond]) fun sha _ => isText_toList sha

/-- The further members of the metadata are none of the fields. -/
theorem writtenAs_metaValues (d : SubmissionData) (submitter : SubmitterKey)
    (remoteAddr blockHash : String) :
    ({ d.toSecond.received with block := none } : RequestData).WrittenAs
      (.object ((d.metaValues submitter remoteAddr blockHash).map unnamed)) where
  isRecord := isRecord_object (d.nodup_metaValues submitter remoteAddr blockHash)
  peerId := tells_set (by simp [metaValues]) (isText_toList d.peerId)
  block := tells_unset (by simp [metaValues, snarkWorkValue, controlPortValue, commitValue])
  createdAt := tells_set (by simp [metaValues]) (isInstant_write d.createdAt)
  snarkWork := tells_optional (by simp [metaValues, snarkWorkValue, controlPortValue, commitValue,
    received, toSecond]) fun _ _ => isText_ofList _
  controlPort := tells_optional (by simp [metaValues, snarkWorkValue, controlPortValue, commitValue,
    received, toSecond]) fun _ _ => rfl
  commitSha := tells_optional (by simp [metaValues, snarkWorkValue, controlPortValue, commitValue,
    received, toSecond]) fun sha _ => isText_toList sha

end SubmissionData

/-! ## Requests that hold nothing but data -/

/-- The body of a request with these data and nothing else. White space may stand in front of the
data. -/
def Request.bodyOf (space : List Char) (data : Bytes) : Bytes :=
  Utf8.encode ("\x7b\"data\":".toList ++ space) ++ data ++ Utf8.encode ['\x7d']

private theorem Request.writtenAs_data {data : RequestData} {v : Value}
    (written : data.WrittenAs v) :
    Request.WrittenAs ⟨none, none, data⟩ (.object ([("data", v)].map unnamed)) where
  isRecord := isRecord_object (by simp)
  submitter := tells_unset (by simp)
  signature := tells_unset (by simp)
  data := .inl ⟨v, holds_object_iff.2 List.mem_cons_self, written⟩

theorem Request.decode?_bodyOf {space text : List Char} {v : Value} {data : RequestData}
    (areSpaces : ∀ c ∈ space, Token.isSpace c = true) (isJson : Value.Written text v)
    (written : data.WrittenAs v) :
    Request.decode? (bodyOf space (Utf8.encode text)) = some ⟨none, none, data⟩ := by
  have shape : bodyOf space (Utf8.encode text) =
      Utf8.encode (Member.writeObject [("data", space ++ text ++ [])]) := by
    rw [bodyOf, ← Utf8.encode_append, ← Utf8.encode_append]
    congr 1
    simp [Member.writeObject, Member.write, Member.writeFurther, Text.quoteString, Text.quote,
      Text.escapeChar]
  have body : Value.Written (Member.writeObject [("data", space ++ text ++ [])])
      (.object ([("data", v)].map Value.unnamed)) :=
    Value.written_writeObject (.cons ⟨rfl, .spaced areSpaces (List.forall_mem_nil _) isJson⟩ .nil)
  have isSpelling : Request.IsSpelling ⟨none, none, data⟩ _ := ⟨_, body, writtenAs_data written⟩
  rw [shape, isSpelling.decode?]

namespace SubmissionData

theorem decode?_signPayload (d : SubmissionData) {space : List Char}
    (areSpaces : ∀ c ∈ space, Token.isSpace c = true) :
    Request.decode? (Request.bodyOf space d.signPayload) = some ⟨none, none, d.toSecond.received⟩ :=
  Request.decode?_bodyOf areSpaces d.written_signText d.writtenAs_signValues

private theorem decode?_metadata (d : SubmissionData) (submitter : SubmitterKey)
    (remoteAddr blockHash : String) {space : List Char}
    (areSpaces : ∀ c ∈ space, Token.isSpace c = true) :
    Request.decode? (Request.bodyOf space (d.metadata submitter remoteAddr blockHash)) =
      some ⟨none, none, { d.toSecond.received with block := none }⟩ :=
  Request.decode?_bodyOf areSpaces (d.written_metaText submitter remoteAddr blockHash)
    (d.writtenAs_metaValues submitter remoteAddr blockHash)

theorem signPayload_toSecond (d : SubmissionData) : d.toSecond.signPayload = d.signPayload := by
  simp only [signPayload, signText, signMembers, toSecond, Rfc3339.write_floorSecond]
  rfl

/-- The same data, but for the part of the second in the time of creation. -/
structure Agrees (d e : SubmissionData) : Prop where
  block : d.block = e.block
  peerId : d.peerId = e.peerId
  createdAt : d.createdAt.SameSecond e.createdAt
  snarkWork : d.snarkWork = e.snarkWork
  controlPort : d.controlPort = e.controlPort
  commitSha : d.commitSha = e.commitSha

theorem agrees_iff {d e : SubmissionData} : d.Agrees e ↔ d.toSecond = e.toSecond := by
  constructor
  · rintro ⟨block, peerId, createdAt, snarkWork, controlPort, commitSha⟩
    simp only [toSecond, block, peerId, snarkWork, controlPort, commitSha, mk.injEq, and_true,
      true_and]
    exact createdAt
  · intro same
    simp only [toSecond, mk.injEq] at same
    obtain ⟨peerId, block, createdAt, snarkWork, controlPort, commitSha⟩ := same
    exact ⟨block, peerId, createdAt, snarkWork, controlPort, commitSha⟩

private theorem received_injective {d e : SubmissionData} (same : d.received = e.received) :
    d = e := by
  cases d
  cases e
  simp_all [received]

theorem signPayload_eq_iff {d e : SubmissionData} :
    d.signPayload = e.signPayload ↔ d.Agrees e := by
  rw [agrees_iff]
  constructor
  · intro same
    have noSpace : ∀ c ∈ ([] : List Char), Token.isSpace c = true := fun _ member => by cases member
    have decoded := d.decode?_signPayload noSpace
    rw [same, e.decode?_signPayload noSpace, Option.some.injEq, Request.mk.injEq] at decoded
    exact (received_injective decoded.2.2).symm
  · intro same
    rw [← d.signPayload_toSecond, same, e.signPayload_toSecond]

/-- Two submissions have the same sign payload exactly if they agree in every field, the time of
creation being taken to the second that a clock shows. An unset field differs from an empty one,
and a leap second `:60` from the second before it. The message that is signed determines the hash
and the network. -/
theorem signPayload_binds_every_field :
    (∀ d e : SubmissionData, d.signPayload = e.signPayload ↔ d.Agrees e) ∧
    ∀ (h₁ h₂ : Bytes) (n₁ n₂ : UInt8),
      Ed25519.signingMessage h₁ n₁ = Ed25519.signingMessage h₂ n₂ ↔ h₁ = h₂ ∧ n₁ = n₂ := by
  refine ⟨fun d e => signPayload_eq_iff, ?_⟩
  intro h₁ h₂ n₁ n₂
  rw [Ed25519.signingMessage, Ed25519.signingMessage, List.cons.injEq]
  exact and_comm

/-- A leap second behind 10:00:05, which no clock shows as `:60`, is signed as 10:00:06. -/
theorem signPayload_joins_leap_in_minute :
    let t : Instant := ⟨1709287205, 1000000000, by decide, by decide, by decide⟩
    let u : Instant := ⟨1709287206, 0, by decide, by decide, by decide⟩
    let d : SubmissionData := ⟨"p", [1, 2, 3], t, none, none, none⟩
    d.signText =
        ("\x7b\"block\":\"AQID\",\"created_at\":\"2024-03-01T10:00:06Z\"," ++
          "\"peer_id\":\"p\"\x7d").toList ∧
      d.signPayload = { d with createdAt := u }.signPayload ∧
      t.secs ≠ u.secs ∧ t.isLeapSecond ≠ u.isLeapSecond := by
  intro t u d
  refine ⟨by decide +kernel, ?_, by decide, by decide⟩
  exact signPayload_eq_iff.2 ⟨rfl, rfl, by decide, rfl, rfl, rfl⟩

/-- A request whose data is a sign payload decodes to the data that was signed, its time of creation
cut to the second that a clock shows, and these data have the same payload again. One whose data are
metadata decodes to the same fields without the block. -/
theorem encoders_undone_by_decoding (d : SubmissionData) (submitter : SubmitterKey)
    (remoteAddr blockHash : String) (space : List Char)
    (areSpaces : ∀ c ∈ space, Token.isSpace c = true) :
    Request.decode? (Request.bodyOf space d.signPayload) =
        some ⟨none, none, d.toSecond.received⟩ ∧
      d.toSecond.signPayload = d.signPayload ∧
      Request.decode? (Request.bodyOf space (d.metadata submitter remoteAddr blockHash)) =
        some ⟨none, none, { d.toSecond.received with block := none }⟩ :=
  ⟨d.decode?_signPayload areSpaces, d.signPayload_toSecond,
    d.decode?_metadata submitter remoteAddr blockHash areSpaces⟩

/-- Inside a leap second of the year before year 0, with texts that look like JSON. -/
theorem encoders_undone_by_decoding_in_leap_second :
    let d : SubmissionData := {
      peerId := "\"\\\u0000,\x7b\u2028"
      block := [0, 255]
      createdAt := ⟨-62167219201, 1999999999, by decide, by decide, by decide⟩
      snarkWork := some []
      controlPort := some 65535
      commitSha := some "" }
    (∀ c ∈ [' '], Token.isSpace c = true) ∧
      Request.decode? (Request.bodyOf [' '] d.signPayload) =
        some ⟨none, none, {
          peerId := some "\"\\\u0000,\x7b\u2028"
          block := some [0, 255]
          createdAt := some
            ⟨-62167219201, 1000000000, by decide, by decide, by decide⟩
          snarkWork := some []
          controlPort := some 65535
          commitSha := some "" }⟩ := by
  intro d
  have isSpace : ∀ c ∈ [' '], Token.isSpace c = true := List.forall_mem_singleton.2 rfl
  have undone := encoders_undone_by_decoding d (Octets.zero 32) "" "" [' '] isSpace
  exact ⟨isSpace, undone.1⟩

/-- The leap second behind 10:00:05 is not read back. -/
theorem decoding_loses_leap_in_minute :
    let t : Instant := ⟨1709287205, 1000000000, by decide, by decide, by decide⟩
    let u : Instant := ⟨1709287206, 0, by decide, by decide, by decide⟩
    let d : SubmissionData := ⟨"p", [1, 2, 3], t, none, none, none⟩
    Request.decode? (Request.bodyOf [] d.signPayload) =
        some ⟨none, none, { d with createdAt := u }.received⟩ ∧
      t.secs ≠ u.secs ∧ t.isLeapSecond ≠ u.isLeapSecond := by
  intro t u d
  refine ⟨?_, by decide, by decide⟩
  rw [decode?_signPayload _ (List.forall_mem_nil _)]
  rfl

end SubmissionData

end UptimeIntake
