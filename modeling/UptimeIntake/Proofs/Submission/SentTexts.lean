import UptimeIntake.Proofs.Submission.Payload

/-!
# Texts as they were sent

Which texts the fields of a request hold in its body, and which the members of a document hold. A
list of bytes has one text in base64, so that a payload repeats the texts of the block and of the
SNARK work that the client sent.
-/

set_option autoImplicit false

namespace UptimeIntake

open Json Text Json.Value

/-! ## Fields that hold texts -/

namespace Json.Value

/-- A record has the value in a field: an object in a member whose name is read as that of the
field, an array in the place of the field. -/
inductive HasField (names : List String) : Value → String → Value → Prop
  | member {members : List (Bytes × Value)} {m : Bytes × Value} {name : String} :
      m ∈ members → Json.Text.read? m.1 = some name → HasField names (.object members) name m.2
  | item {items : List Value} {i : Nat} {name : String} {w : Value} :
      names[i]? = some name → items[i]? = some w → HasField names (.array items) name w

def TextIn (names : List String) (v : Value) (name s : String) : Prop :=
  ∃ w, HasField names v name w ∧ w.text? = some s

variable {names : List String} {name s : String} {v w : Value} {field : String → Option Value}
  {named : List (String × Value)}

theorem hasField_iff (nodup : names.Nodup) (reads : fields? names v = some field)
    (isField : name ∈ names) : HasField names v name w ↔ field name = some w := by
  cases v with
  | object members =>
      rw [fields?_object_iff reads isField]
      constructor
      · rintro ⟨⟩
        next m member isNamed => exact ⟨m, member, isNamed, rfl⟩
      · rintro ⟨m, member, isNamed, rfl⟩
        exact .member member isNamed
  | array items =>
      rw [fields?_array_iff nodup reads isField]
      constructor
      · rintro ⟨⟩
        next i isPlace found => exact ⟨i, isPlace, found⟩
      · rintro ⟨i, isPlace, found⟩
        exact .item isPlace found
  | null | bool | number | text => cases reads

theorem hasField_object_iff :
    HasField names (.object (named.map unnamed)) name w ↔ (name, w) ∈ named := by
  constructor
  · rintro ⟨⟩
    next m member isNamed =>
      obtain ⟨n, isMember, rfl⟩ := List.mem_map.1 member
      rw [unnamed, Json.Text.read?_quotedBytes, Option.some.injEq] at isNamed
      exact isNamed ▸ isMember
  · intro member
    exact HasField.member (m := unnamed (name, w)) (List.mem_map.2 ⟨_, member, rfl⟩)
      (Json.Text.read?_quotedBytes name)

theorem textIn_object_iff :
    TextIn names (.object (named.map unnamed)) name s ↔
      ∃ w, (name, w) ∈ named ∧ w.text? = some s := by
  simp only [TextIn, hasField_object_iff]

theorem text?_ofText (cs : List Char) : (ofText cs).text? = some (String.ofList cs) :=
  (isText_ofList cs).text?

variable {α : Type} {g : String → Option α} {found : Option Value} {x : Option α}

private theorem optional_of_text? (isText : w.text? = some s) :
    optional (fun w => w.text?.bind g) (some w) = (g s).map some := by
  cases w with
  | text raw =>
      simp only [optional]
      rw [isText, Option.bind_some]
  | null | bool | number | array | object => cases isText

/-- A text that stands in an optional field is read there. -/
theorem exists_read_of_optional (reads : optional (fun w => w.text?.bind g) found = some x)
    (isThere : found = some w) (isText : w.text? = some s) : ∃ y, x = some y ∧ g s = some y := by
  rw [isThere, optional_of_text? isText] at reads
  obtain ⟨y, isRead, rfl⟩ := Option.map_eq_some_iff.1 reads
  exact ⟨y, rfl, isRead⟩

private theorem exists_text_of_optional {y : α}
    (reads : optional (fun w => w.text?.bind g) found = some (some y)) :
    ∃ w s, found = some w ∧ w.text? = some s ∧ g s = some y := by
  cases found with
  | none => cases reads
  | some w =>
      cases isText : w.text? with
      | none => cases w <;> simp [optional, isText] at reads
      | some s =>
          obtain ⟨_, same, isRead⟩ := exists_read_of_optional reads rfl isText
          exact ⟨w, s, rfl, isText, isRead.trans same.symm⟩

end Json.Value

/-! ## Requests -/

/-- The body is JSON with this text in a field of the data of a request. -/
def Request.SendsText (body : Bytes) (name s : String) : Prop :=
  ∃ v w, Value.read? body = some v ∧ HasField fieldNames v "data" w ∧
    TextIn RequestData.fieldNames w name s

/-- The data were read from these fields, as far as they are written as text in a form of their
own. -/
structure RequestData.IsReadFrom (data : RequestData) (field : String → Option Value) : Prop where
  block : Value.optional readBase64? (field "block") = some data.block
  createdAt : Value.optional readInstant? (field "created_at") = some data.createdAt
  snarkWork : Value.optional readBase64? (field "snark_work") = some data.snarkWork

variable {body : Bytes} {r : Request} {data : RequestData} {d : SubmissionData} {name s : String}

private theorem RequestData.exists_isReadFrom {v : Value}
    (reads : RequestData.read? v = some data) :
    ∃ field, v.fields? fieldNames = some field ∧ data.IsReadFrom field := by
  simp only [RequestData.read?, bind, Option.bind_eq_some_iff] at reads
  obtain ⟨field, fields, _, _, _, block, _, createdAt, _, snarkWork, _, _, _, _, made⟩ := reads
  cases made
  exact ⟨field, fields, block, createdAt, snarkWork⟩

/-- The fields from which the data of a request are read hold the texts that were sent; data that
were left out hold none. -/
theorem Request.exists_fields_of_decode? (decoded : decode? body = some r) :
    ∃ field, r.data.IsReadFrom field ∧ ∀ name ∈ RequestData.fieldNames, ∀ s,
      SendsText body name s ↔ ∃ w, field name = some w ∧ w.text? = some s := by
  obtain ⟨v, isJson, reads⟩ := Option.bind_eq_some_iff.1 decoded
  simp only [Request.read?, bind, Option.bind_eq_some_iff] at reads
  obtain ⟨field, fields, _, _, _, _, data, isData, made⟩ := reads
  cases made
  have isDataField (w : Value) : HasField fieldNames v "data" w ↔ field "data" = some w :=
    hasField_iff nodup_fieldNames fields (by decide)
  cases found : field "data" with
  | none =>
      rw [found] at isData
      cases isData
      refine ⟨fun _ => none, ⟨rfl, rfl, rfl⟩, fun name _ s => ?_⟩
      constructor
      · rintro ⟨v', w, isJson', hasField, _⟩
        obtain rfl := Option.some.inj (isJson.symm.trans isJson')
        rw [isDataField, found] at hasField
        cases hasField
      · rintro ⟨w, nothing, _⟩
        cases nothing
  | some w =>
      rw [found] at isData
      obtain ⟨inner, innerFields, isReadFrom⟩ := RequestData.exists_isReadFrom isData
      refine ⟨inner, isReadFrom, fun name isField s => ?_⟩
      constructor
      · rintro ⟨v', w', isJson', hasField, x, holds, isText⟩
        obtain rfl := Option.some.inj (isJson.symm.trans isJson')
        rw [isDataField, found] at hasField
        obtain rfl := Option.some.inj hasField
        exact ⟨x, (hasField_iff RequestData.nodup_fieldNames innerFields isField).1 holds, isText⟩
      · rintro ⟨x, isThere, isText⟩
        exact ⟨v, w, isJson, (isDataField w).2 found, x,
          (hasField_iff RequestData.nodup_fieldNames innerFields isField).2 isThere, isText⟩

/-! ## Base64 -/

theorem readBase64?_eq_some_iff {v : Value} {bytes : Bytes} :
    readBase64? v = some bytes ↔ v.text? = some (Base64.encodeString bytes) := by
  simp only [readBase64?, Option.bind_eq_some_iff, Base64.decode_eq_some_iff]
  constructor
  · rintro ⟨s, isText, written⟩
    rw [isText, Base64.encodeString, ← written, String.ofList_toList]
  · intro isText
    exact ⟨_, isText, String.toList_ofList⟩

theorem decode_toList_iff {bytes : Bytes} :
    Base64.decode s.toList = some bytes ↔ Base64.encodeString bytes = s := by
  rw [Base64.decode_eq_some_iff, ← String.toList_inj, Base64.encodeString, String.toList_ofList]
  exact eq_comm

/-- A field in base64 was sent as the one text of what was read there. -/
theorem exists_text_iff_of_optional {found : Option Value} {x : Option Bytes}
    (reads : Value.optional readBase64? found = some x) :
    (∃ w, found = some w ∧ w.text? = some s) ↔ x.map Base64.encodeString = some s := by
  constructor
  · rintro ⟨w, isThere, isText⟩
    obtain ⟨bytes, rfl, isRead⟩ := exists_read_of_optional reads isThere isText
    exact congrArg some (decode_toList_iff.1 isRead)
  · intro written
    obtain ⟨bytes, rfl, rfl⟩ := Option.map_eq_some_iff.1 written
    obtain ⟨w, sent, isThere, isText, isRead⟩ := exists_text_of_optional reads
    rw [decode_toList_iff.1 isRead]
    exact ⟨w, isThere, isText⟩

/-! ## Documents -/

/-- The document is a JSON object with this text in a member of the name. -/
def Json.HasText (document : Bytes) (name s : String) : Prop :=
  ∃ v, Value.read? document = some v ∧ TextIn [] v name s

theorem Json.hasText_iff {text : List Char} {named : List (String × Value)}
    (isJson : Value.Written text (.object (named.map unnamed))) :
    HasText (Utf8.encode text) name s ↔ ∃ w, (name, w) ∈ named ∧ w.text? = some s := by
  constructor
  · rintro ⟨v, isJson', holds⟩
    obtain rfl := Option.some.inj (isJson.read?.symm.trans isJson')
    exact textIn_object_iff.1 holds
  · intro holds
    exact ⟨_, isJson.read?, textIn_object_iff.2 holds⟩

namespace SubmissionData

theorem hasText_block_iff : HasText d.signPayload "block" s ↔ Base64.encodeString d.block = s := by
  rw [signPayload, hasText_iff d.written_signText]
  simp [signValues, snarkWorkValue, controlPortValue, commitValue, text?_ofText,
    Base64.encodeString]

theorem hasText_snarkWork_iff :
    HasText d.signPayload "snark_work" s ↔ d.snarkWork.map Base64.encodeString = some s := by
  rw [signPayload, hasText_iff d.written_signText]
  simp [signValues, snarkWorkValue, controlPortValue, commitValue, text?_ofText,
    Base64.encodeString]

/-! ## Metadata -/

variable {submitter : SubmitterKey} {remoteAddr blockHash : String}

theorem hasText_metadata_iff :
    HasText (d.metadata submitter remoteAddr blockHash) name s ↔
      ∃ w, (name, w) ∈ d.metaValues submitter remoteAddr blockHash ∧ w.text? = some s :=
  hasText_iff (d.written_metaText submitter remoteAddr blockHash)

theorem hasText_metadata_createdAt_iff :
    HasText (d.metadata submitter remoteAddr blockHash) "created_at" s ↔
      s = Rfc3339.writeString d.createdAt := by
  rw [hasText_metadata_iff]
  simp [metaValues, snarkWorkValue, controlPortValue, commitValue, text?_ofText,
    Rfc3339.writeString, eq_comm]

theorem hasText_metadata_peerId_iff :
    HasText (d.metadata submitter remoteAddr blockHash) "peer_id" s ↔ s = d.peerId := by
  rw [hasText_metadata_iff]
  simp [metaValues, snarkWorkValue, controlPortValue, commitValue, text?_ofText, eq_comm]

theorem hasText_metadata_remoteAddr_iff :
    HasText (d.metadata submitter remoteAddr blockHash) "remote_addr" s ↔ s = remoteAddr := by
  rw [hasText_metadata_iff]
  simp [metaValues, snarkWorkValue, controlPortValue, commitValue, text?_ofText, eq_comm]

theorem hasText_metadata_submitter_iff :
    HasText (d.metadata submitter remoteAddr blockHash) "submitter" s ↔
      s = submitter.toHexString := by
  rw [hasText_metadata_iff]
  simp [metaValues, snarkWorkValue, controlPortValue, commitValue, text?_ofText,
    Octets.toHexString, Hex.encodeString, Octets.toHex, eq_comm]

theorem hasText_metadata_blockHash_iff :
    HasText (d.metadata submitter remoteAddr blockHash) "block_hash" s ↔ s = blockHash := by
  rw [hasText_metadata_iff]
  simp [metaValues, snarkWorkValue, controlPortValue, commitValue, text?_ofText, eq_comm]

end SubmissionData

/-- Every list of bytes is written as one text in base64 and read from no other: a text is read
exactly if it has the canonical form. So a sign payload holds for the block the text that the client
sent for it, and likewise for the SNARK work, if there was any. -/
theorem base64_text_is_signed_as_sent :
    (∀ bytes, readBase64? (ofText (Base64.encode bytes)) = some bytes) ∧
    (∀ v bytes, readBase64? v = some bytes → v.text? = some (Base64.encodeString bytes)) ∧
    (∀ text, (∃ bytes, Base64.decode text = some bytes) ↔ Base64.IsCanonical text) ∧
    ∀ (body : Bytes) (r : Request) (d : SubmissionData), Request.decode? body = some r →
      r.data.block = some d.block → r.data.snarkWork = d.snarkWork →
      (∃ s, Request.SendsText body "block" s) ∧
      ∀ s, (Request.SendsText body "block" s ↔ HasText d.signPayload "block" s) ∧
        (Request.SendsText body "snark_work" s ↔ HasText d.signPayload "snark_work" s) := by
  refine ⟨fun bytes => ?_, fun v bytes => readBase64?_eq_some_iff.1,
    fun text => Base64.isCanonical_iff.symm, ?_⟩
  · exact readBase64?_eq_some_iff.2 (text?_ofText _)
  · intro body r d decoded isBlock isSnarkWork
    obtain ⟨field, isReadFrom, sends⟩ := Request.exists_fields_of_decode? decoded
    have block (s : String) : Request.SendsText body "block" s ↔ Base64.encodeString d.block = s := by
      rw [sends "block" (by decide), exists_text_iff_of_optional isReadFrom.block, isBlock,
        Option.map_some, Option.some.injEq]
    have snarkWork (s : String) : Request.SendsText body "snark_work" s ↔
        d.snarkWork.map Base64.encodeString = some s := by
      rw [sends "snark_work" (by decide), exists_text_iff_of_optional isReadFrom.snarkWork,
        isSnarkWork]
    refine ⟨⟨_, (block _).2 rfl⟩, fun s => ⟨?_, ?_⟩⟩
    · rw [block, SubmissionData.hasText_block_iff]
    · rw [snarkWork, SubmissionData.hasText_snarkWork_iff]

/-- The padding of the block is sent as an escape and the SNARK work as an empty text. With a bit
that the padding leaves over, or without the padding, nothing is read. -/
theorem base64_text_is_signed_as_sent_with_escape :
    let body := Utf8.encode
      "\x7b\"data\":\x7b\"snark_work\":\"\",\"block\":\"AQ\\u003d=\"\x7d\x7d".toList
    let r : Request := ⟨none, none, { RequestData.unset with block := some [1], snarkWork := some [] }⟩
    let d : SubmissionData := ⟨"peer", [1],
      ⟨0, 0, by decide, by decide, by decide⟩, some [], none, none⟩
    Request.decode? body = some r ∧ HasText d.signPayload "block" "AQ==" ∧
      Request.SendsText body "block" "AQ==" ∧ Request.SendsText body "snark_work" "" ∧
      Base64.decode "AQ==".toList = some [1] ∧ ¬ Base64.IsCanonical "AR==".toList ∧
      ¬ Base64.IsCanonical "AQ".toList := by
  intro body r d
  obtain ⟨_, _, canonical, asSent⟩ := base64_text_is_signed_as_sent
  have decoded : Request.decode? body = some r := by decide +kernel
  obtain ⟨_, same⟩ := asSent body r d decoded rfl rfl
  have block : HasText d.signPayload "block" "AQ==" :=
    SubmissionData.hasText_block_iff.2 (by decide +kernel)
  have snarkWork : HasText d.signPayload "snark_work" "" :=
    SubmissionData.hasText_snarkWork_iff.2 (by decide +kernel)
  refine ⟨decoded, block, (same _).1.2 block, (same _).2.2 snarkWork, by decide +kernel, ?_, ?_⟩
  · rw [← canonical, show Base64.decode "AR==".toList = none by decide +kernel]
    simp
  · rw [← canonical, show Base64.decode "AQ".toList = none by decide +kernel]
    simp

end UptimeIntake
