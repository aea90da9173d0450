import UptimeIntake.Pipeline
import UptimeIntake.Proofs.Submission.Fields

/-!
# Spellings of a request

One request can be written in many ways: as objects with their members in any order, with further
members, with null or nothing for what is unset, with escapes and white space, or as arrays that
are cut behind the last field that is set. All of them decode to the same request, and so the
pipeline cannot tell them apart. A field that stands twice is refused.
-/

set_option autoImplicit false

namespace UptimeIntake

open Json Text Json.Value

variable {r : Request} {data : RequestData}

/-! ## One text for each request -/

namespace RequestData

def values (data : RequestData) : List (String × Value) :=
  optionalMember "peer_id" (fun s => .ofText s.toList) data.peerId ++
    optionalMember "block" (fun bytes => .ofText (Base64.encode bytes)) data.block ++
    optionalMember "created_at" (fun t => .ofText (Rfc3339.write t)) data.createdAt ++
    optionalMember "snark_work" (fun bytes => .ofText (Base64.encode bytes)) data.snarkWork ++
    optionalMember "graphql_control_port" (fun port => .number (Decimal.digits port.toNat))
      data.controlPort ++
    optionalMember "built_with_commit_sha" (fun sha => .ofText sha.toList) data.commitSha

theorem nodup_values (data : RequestData) : (data.values.map Prod.fst).Nodup := by
  have names : (data.values.map Prod.fst).Sublist
      (["peer_id"] ++ ["block"] ++ ["created_at"] ++ ["snark_work"] ++ ["graphql_control_port"] ++
        ["built_with_commit_sha"]) := by
    simp only [values, List.map_append]
    exact (((((map_fst_optionalMember _ _ _).append
      (map_fst_optionalMember _ _ _)).append
      (map_fst_optionalMember _ _ _)).append
      (map_fst_optionalMember _ _ _)).append
      (map_fst_optionalMember _ _ _)).append
      (map_fst_optionalMember _ _ _)
  exact names.nodup (by decide)

theorem writtenAs_values (whole : ∀ t, data.createdAt = some t → t.floorSecond = t) :
    data.WrittenAs (.object (data.values.map unnamed)) where
  isRecord := isRecord_object data.nodup_values
  peerId := tells_optional (by simp [values]) fun s _ => isText_toList s
  block := tells_optional (by simp [values]) fun _ _ => isText_ofList _
  createdAt := tells_optional (by simp [values]) fun t isSet =>
    isInstant_write_of_whole (whole t isSet)
  snarkWork := tells_optional (by simp [values]) fun _ _ => isText_ofList _
  controlPort := tells_optional (by simp [values]) fun _ _ => rfl
  commitSha := tells_optional (by simp [values]) fun sha _ => isText_toList sha

theorem exists_text_values (data : RequestData) :
    ∀ n ∈ data.values, ∃ text, Value.Written text n.2 := by
  simp only [values, List.forall_mem_append]
  have quoted {α : Type} (name : String) (chars : α → List Char) (field : Option α) :
      ∀ n ∈ optionalMember name (fun x => ofText (chars x)) field, ∃ text, Written text n.2 :=
    exists_text_optionalMember fun x => ⟨_, written_quote (chars x)⟩
  exact ⟨⟨⟨⟨⟨quoted _ _ _, quoted _ _ _⟩, quoted _ _ _⟩, quoted _ _ _⟩,
    exists_text_optionalMember fun port => ⟨_, written_digits port.toNat⟩⟩, quoted _ _ _⟩

/-- What stands in the places of the fields. -/
def items (data : RequestData) : List Value :=
  [slot (fun s => .ofText s.toList) data.peerId,
   slot (fun bytes => .ofText (Base64.encode bytes)) data.block,
   slot (fun t => .ofText (Rfc3339.write t)) data.createdAt,
   slot (fun bytes => .ofText (Base64.encode bytes)) data.snarkWork,
   slot (fun port => .number (Decimal.digits port.toNat)) data.controlPort,
   slot (fun sha => .ofText sha.toList) data.commitSha]

theorem writtenAs_items (whole : ∀ t, data.createdAt = some t → t.floorSecond = t) :
    data.WrittenAs (.array data.items) where
  isRecord := .array (Nat.le_refl 6)
  peerId := tells_slot (i := 0) nodup_fieldNames rfl rfl fun s _ => isText_toList s
  block := tells_slot (i := 1) nodup_fieldNames rfl rfl fun _ _ => isText_ofList _
  createdAt := tells_slot (i := 2) nodup_fieldNames rfl rfl fun t isSet =>
    isInstant_write_of_whole (whole t isSet)
  snarkWork := tells_slot (i := 3) nodup_fieldNames rfl rfl fun _ _ => isText_ofList _
  controlPort := tells_slot (i := 4) nodup_fieldNames rfl rfl fun _ _ => rfl
  commitSha := tells_slot (i := 5) nodup_fieldNames rfl rfl fun sha _ => isText_toList sha

private theorem exists_written_items (data : RequestData) :
    ∃ text, Value.Written text (.array data.items) := by
  apply exists_written_array
  have quoted {α : Type} (chars : α → List Char) (field : Option α) :
      ∃ text, Written text (slot (fun x => ofText (chars x)) field) :=
    exists_written_slot (fun x => ⟨_, written_quote (chars x)⟩) field
  simp only [items, List.forall_mem_cons]
  exact ⟨quoted _ _, quoted _ _, quoted _ _, quoted _ _,
    exists_written_slot (fun port : UInt16 => ⟨_, written_digits port.toNat⟩) _, quoted _ _,
    List.forall_mem_nil _⟩

end RequestData

namespace Request

def values (r : Request) : List (String × Value) :=
  optionalMember "submitter" (fun key => .ofText key.toHex) r.submitter ++
    optionalMember "sig" (fun sig => .ofText sig.toHex) r.signature ++
    [("data", .object (r.data.values.map unnamed))]

/-- The members with any value for the data. -/
def valuesWith (r : Request) (v : Value) : List (String × Value) :=
  optionalMember "submitter" (fun key => .ofText key.toHex) r.submitter ++
    optionalMember "sig" (fun sig => .ofText sig.toHex) r.signature ++ [("data", v)]

private theorem nodup_valuesWith (r : Request) (v : Value) :
    ((r.valuesWith v).map Prod.fst).Nodup := by
  have names : ((r.valuesWith v).map Prod.fst).Sublist (["submitter"] ++ ["sig"] ++ ["data"]) := by
    simp only [valuesWith, List.map_append]
    exact ((map_fst_optionalMember _ _ _).append
      (map_fst_optionalMember _ _ _)).append (List.Sublist.refl _)
  exact names.nodup (by decide)

theorem writtenAs_valuesWith {v : Value} (written : r.data.WrittenAs v) :
    r.WrittenAs (.object ((r.valuesWith v).map unnamed)) where
  isRecord := isRecord_object (r.nodup_valuesWith v)
  submitter := tells_optional (by simp [valuesWith]) fun key _ => isOctets_toHex key
  signature := tells_optional (by simp [valuesWith]) fun sig _ => isOctets_toHex sig
  data := .inl ⟨v, holds_object_iff.2 (by simp [valuesWith]), written⟩

theorem exists_written_valuesWith (r : Request) {v : Value} {dataText : List Char}
    (isData : Value.Written dataText v) :
    ∃ text, Value.Written text (.object ((r.valuesWith v).map unnamed)) := by
  apply exists_written_object
  simp only [valuesWith, List.forall_mem_append, List.forall_mem_singleton]
  exact ⟨⟨exists_text_optionalMember fun key => ⟨_, written_quote key.toHex⟩,
    exists_text_optionalMember fun sig => ⟨_, written_quote sig.toHex⟩⟩, dataText, isData⟩

theorem writtenAs_values (whole : ∀ t, r.data.createdAt = some t → t.floorSecond = t) :
    r.WrittenAs (.object (r.values.map unnamed)) :=
  writtenAs_valuesWith (r.data.writtenAs_values whole)

private theorem exists_object (whole : ∀ t, r.data.createdAt = some t → t.floorSecond = t) :
    ∃ text members, Value.Written text (.object members) ∧ r.WrittenAs (.object members) := by
  obtain ⟨_, dataWritten⟩ := exists_written_object r.data.exists_text_values
  obtain ⟨text, written⟩ := r.exists_written_valuesWith dataWritten
  exact ⟨text, _, written, writtenAs_values whole⟩

def items (r : Request) : List Value :=
  [slot (fun key => .ofText key.toHex) r.submitter, slot (fun sig => .ofText sig.toHex) r.signature,
   .array r.data.items]

theorem writtenAs_items (whole : ∀ t, r.data.createdAt = some t → t.floorSecond = t) :
    r.WrittenAs (.array r.items) where
  isRecord := .array (Nat.le_refl 3)
  submitter := tells_slot (i := 0) nodup_fieldNames rfl rfl fun key _ => isOctets_toHex key
  signature := tells_slot (i := 1) nodup_fieldNames rfl rfl fun sig _ => isOctets_toHex sig
  data := .inl ⟨_, .item (i := 2) rfl rfl, r.data.writtenAs_items whole⟩

private theorem exists_array (whole : ∀ t, r.data.createdAt = some t → t.floorSecond = t) :
    ∃ text items, Value.Written text (.array items) ∧ r.WrittenAs (.array items) := by
  have each : ∀ v ∈ r.items, ∃ text, Value.Written text v := by
    simp only [items, List.forall_mem_cons]
    exact ⟨exists_written_slot (fun key : SubmitterKey => ⟨_, written_quote key.toHex⟩) _,
      exists_written_slot (fun sig : Signature => ⟨_, written_quote sig.toHex⟩) _,
      r.data.exists_written_items, List.forall_mem_nil _⟩
  obtain ⟨text, written⟩ := exists_written_array each
  exact ⟨text, _, written, writtenAs_items whole⟩

end Request

/-! ## The pipeline -/

namespace Pipeline

variable {σ : Type}

/-- The body matters to the pipeline only as the request that it decodes to. -/
theorem process_eq_of_decode?_eq (p : Pipeline) (call : Call) {body : Bytes}
    (same : Request.decode? body = Request.decode? call.body) (state : PipelineState σ) :
    p.process { call with body } state = p.process call state := by
  have sameReading : readSubmission body = readSubmission call.body := by
    rw [readSubmission, readSubmission, same]
  have sameCheck : p.check call.now body = p.check call.now call.body := by
    rw [check, check, checkBeforeSignature, checkBeforeSignature, sameReading]
  rw [process, process, accept, accept, sameCheck]

end Pipeline

/-- Every spelling of a request decodes to it, no text decodes in which a field stands twice, and
every request to the second is spelled by an object and by an array. So the pipeline does the same
for all spellings of a request. -/
theorem Request.decoded_from_every_spelling :
    (∀ (r : Request) (text : List Char), r.IsSpelling text →
      decode? (Utf8.encode text) = some r) ∧
    (∀ (text : List Char) (v : Value), Value.Written text v → RepeatsField v →
      decode? (Utf8.encode text) = none) ∧
    (∀ r : Request, (∀ t, r.data.createdAt = some t → t.floorSecond = t) →
      (∃ text members, Value.Written text (.object members) ∧ r.WrittenAs (.object members)) ∧
      ∃ text items, Value.Written text (.array items) ∧ r.WrittenAs (.array items)) ∧
    ∀ (σ : Type) (p : Pipeline) (state : PipelineState σ) (call : Call) (r : Request)
      (text other : List Char), r.IsSpelling text → r.IsSpelling other →
        p.process { call with body := Utf8.encode text } state =
          p.process { call with body := Utf8.encode other } state := by
  refine ⟨fun _ _ => IsSpelling.decode?, fun _ _ => decode?_of_repeatsField,
    fun _ whole => ⟨exists_object whole, exists_array whole⟩, ?_⟩
  intro σ p state call r text other isSpelling isOther
  have same := isSpelling.decode?.trans isOther.decode?.symm
  exact p.process_eq_of_decode?_eq { call with body := Utf8.encode other } same state

example :
    Request.decode? (Utf8.encode "[null, null, [\"peer\", null]]".toList) =
      Request.decode? (Utf8.encode
        "\x7b\"more\": [\x7b\x7d, -1.5e+3], \"data\": \x7b\"p\\u0065er_id\": \"peer\"\x7d\x7d".toList) := by
  decide +kernel

end UptimeIntake
