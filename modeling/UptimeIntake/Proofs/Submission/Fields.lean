import UptimeIntake.Proofs.Json.Documents
import UptimeIntake.Proofs.Json.Records
import UptimeIntake.Proofs.Octets
import UptimeIntake.Proofs.Text.Base64
import UptimeIntake.Proofs.Time.Rfc3339

/-!
# Requests as JSON values

The values that write a request, and what is read of them. A value writes a request if it is a
record whose fields hold what is set and nothing more than null for what is not; the data are such a
record within. What repeats a field writes no request and is refused.
-/

set_option autoImplicit false

namespace UptimeIntake

open Json Text

/-! ## Fields -/

namespace Json.Value

variable {v : Value} {s : String}

def IsText (s : String) (v : Value) : Prop :=
  ∃ raw, v = .text (Utf8.encode raw) ∧ Json.Text.Spells raw s.toList

def IsBase64 (bytes : Bytes) : Value → Prop :=
  IsText (String.ofList (Base64.encode bytes))

/-- A text that is read as the instant. -/
def IsInstant (t : Instant) (v : Value) : Prop :=
  ∃ s, IsText s v ∧ Rfc3339.read? s.toList = some t

def IsOctets {n : Nat} (a : Octets n) (v : Value) : Prop :=
  ∃ s digits, IsText s v ∧ Octets.Spelling a digits s.toList

def IsPort (port : UInt16) (v : Value) : Prop :=
  v = .number (Decimal.digits port.toNat)

theorem IsText.text? (isText : IsText s v) : v.text? = some s := by
  obtain ⟨raw, rfl, spells⟩ := isText
  exact spells.read?

theorem IsBase64.read? {bytes : Bytes} (isBase64 : IsBase64 bytes v) :
    readBase64? v = some bytes := by
  rw [readBase64?, IsText.text? isBase64, Option.bind_some, String.toList_ofList,
    Base64.decode_encode]

theorem IsInstant.read? {t : Instant} (isInstant : IsInstant t v) : readInstant? v = some t := by
  obtain ⟨s, isText, reads⟩ := isInstant
  rw [readInstant?, isText.text?, Option.bind_some, reads]

theorem IsOctets.read? {n : Nat} {a : Octets n} (isOctets : IsOctets a v) :
    readOctets? n v = some a := by
  obtain ⟨s, digits, isText, spelling⟩ := isOctets
  rw [readOctets?, isText.text?, Option.bind_some]
  exact Octets.parse?_eq_some_iff.2 ⟨digits, spelling⟩

theorem IsPort.read? {port : UInt16} (isPort : IsPort port v) : v.uint16? = some port := by
  rw [isPort, uint16?_digits]

theorem isText_toList (s : String) : IsText s (ofText s.toList) :=
  ⟨_, rfl, Text.spells_escaped s.toList⟩

theorem isText_ofList (cs : List Char) : IsText (String.ofList cs) (ofText cs) := by
  have isText := isText_toList (String.ofList cs)
  rwa [String.toList_ofList] at isText

/-- The text that is written for an instant is one for it to the second. -/
theorem isInstant_write (t : Instant) : IsInstant t.floorSecond (ofText (Rfc3339.write t)) := by
  refine ⟨_, isText_ofList _, ?_⟩
  rw [String.toList_ofList, Rfc3339.read?_write]

theorem isInstant_write_of_whole {t : Instant} (whole : t.floorSecond = t) :
    IsInstant t (ofText (Rfc3339.write t)) := by
  have isInstant := isInstant_write t
  rwa [whole] at isInstant

theorem isOctets_toHex {n : Nat} (a : Octets n) : IsOctets a (ofText a.toHex) := by
  refine ⟨_, a.toHex, isText_ofList _, ?_⟩
  rw [String.toList_ofList]
  exact Octets.spelling_toHex a

end Json.Value

open Json.Value

/-! ## Records -/

structure RequestData.WrittenAs (data : RequestData) (v : Value) : Prop where
  isRecord : IsRecord fieldNames v
  peerId : Tells fieldNames v "peer_id" IsText data.peerId
  block : Tells fieldNames v "block" IsBase64 data.block
  createdAt : Tells fieldNames v "created_at" IsInstant data.createdAt
  snarkWork : Tells fieldNames v "snark_work" IsBase64 data.snarkWork
  controlPort : Tells fieldNames v "graphql_control_port" IsPort data.controlPort
  commitSha : Tells fieldNames v "built_with_commit_sha" IsText data.commitSha

/-- The value is one way to write the request. Data may be left out if nothing is set in them, but
not be null. -/
structure Request.WrittenAs (r : Request) (v : Value) : Prop where
  isRecord : IsRecord fieldNames v
  submitter : Tells fieldNames v "submitter" IsOctets r.submitter
  signature : Tells fieldNames v "sig" IsOctets r.signature
  data : (∃ w, Holds fieldNames v "data" w ∧ r.data.WrittenAs w) ∨
    r.data = .unset ∧ ∀ w, ¬ Holds fieldNames v "data" w

/-- A field of the request or of its data stands twice. -/
def Request.RepeatsField (v : Value) : Prop :=
  Repeats fieldNames v ∨
    ∃ w, Holds fieldNames v "data" w ∧ Repeats RequestData.fieldNames w

theorem RequestData.nodup_fieldNames : fieldNames.Nodup := by decide

theorem Request.nodup_fieldNames : fieldNames.Nodup := by decide

variable {r : Request} {data : RequestData} {v w : Value} {text other : List Char}

theorem RequestData.WrittenAs.read? (written : data.WrittenAs v) :
    RequestData.read? v = some data := by
  obtain ⟨field, reads⟩ := written.isRecord.exists_fields?
  have optional {α : Type} {IsValue : α → Value → Prop} {read? : Value → Option α} {x : Option α}
      {name : String} (tells : Tells fieldNames v name IsValue x) (isField : name ∈ fieldNames)
      (refusesNull : read? .null = none) (readsValue : ∀ x w, IsValue x w → read? w = some x) :
      Value.optional read? (field name) = some x :=
    tells.optional written.isRecord nodup_fieldNames isField reads refusesNull readsValue
  have peerId := optional written.peerId (by decide) rfl fun _ _ => IsText.text?
  have block := optional written.block (by decide) rfl fun _ _ => IsBase64.read?
  have createdAt := optional written.createdAt (by decide) rfl fun _ _ => IsInstant.read?
  have snarkWork := optional written.snarkWork (by decide) rfl fun _ _ => IsBase64.read?
  have controlPort := optional written.controlPort (by decide) rfl fun _ _ => IsPort.read?
  have commitSha := optional written.commitSha (by decide) rfl fun _ _ => IsText.text?
  rw [RequestData.read?, reads]
  simp only [bind, Option.bind, peerId, block, createdAt, snarkWork, controlPort, commitSha]
  rfl

theorem Request.WrittenAs.read? (written : r.WrittenAs v) : Request.read? v = some r := by
  obtain ⟨field, reads⟩ := written.isRecord.exists_fields?
  have submitter : Value.optional (readOctets? 32) (field "submitter") = some r.submitter :=
    written.submitter.optional written.isRecord nodup_fieldNames (by decide) reads rfl
      fun _ _ => IsOctets.read?
  have signature : Value.optional (readOctets? 64) (field "sig") = some r.signature :=
    written.signature.optional written.isRecord nodup_fieldNames (by decide) reads rfl
      fun _ _ => IsOctets.read?
  have data : Value.withDefault RequestData.unset RequestData.read? (field "data") =
      some r.data := by
    rcases written.data with ⟨w, holds, isData⟩ | ⟨unset, nowhere⟩
    · rw [holds.read nodup_fieldNames (by decide) reads]
      exact isData.read?
    · cases found : field "data" with
      | none => rw [unset]; rfl
      | some w =>
          have holds := written.isRecord.holds nodup_fieldNames (by decide) reads found
          exact absurd holds (nowhere w)
  rw [Request.read?, reads]
  simp only [bind, Option.bind, submitter, signature, data]
  rfl

private theorem Request.read?_of_repeatsField (repeats : RepeatsField v) :
    Request.read? v = none := by
  rw [Request.read?]
  rcases repeats with repeats | ⟨w, holds, repeats⟩
  · rw [fields?_of_repeats repeats]
    rfl
  · cases reads : Value.fields? fieldNames v with
    | none => rfl
    | some field =>
        have refused : RequestData.read? w = none := by
          rw [RequestData.read?, fields?_of_repeats repeats]
          rfl
        have data : Value.withDefault RequestData.unset RequestData.read? (field "data") = none := by
          rw [holds.read nodup_fieldNames (by decide) reads]
          exact refused
        cases submitter : Value.optional (readOctets? 32) (field "submitter") with
        | none => simp only [bind, Option.bind, submitter]
        | some key =>
            cases signature : Value.optional (readOctets? 64) (field "sig") with
            | none => simp only [bind, Option.bind, submitter, signature]
            | some sig => simp only [bind, Option.bind, submitter, signature, data]

/-! ## Texts -/

/-- The text is JSON for one of the ways to write the request. -/
def Request.IsSpelling (r : Request) (text : List Char) : Prop :=
  ∃ v, Value.Written text v ∧ r.WrittenAs v

theorem Request.IsSpelling.decode? (isSpelling : r.IsSpelling text) :
    decode? (Utf8.encode text) = some r := by
  obtain ⟨v, isJson, written⟩ := isSpelling
  rw [Request.decode?, isJson.read?, Option.bind_some, written.read?]

theorem Request.decode?_of_repeatsField (isJson : Value.Written text v) (repeats : RepeatsField v) :
    decode? (Utf8.encode text) = none := by
  rw [decode?, isJson.read?, Option.bind_some, read?_of_repeatsField repeats]

end UptimeIntake
