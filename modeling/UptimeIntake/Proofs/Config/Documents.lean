import Mathlib.Data.Finset.Dedup
import UptimeIntake.Config.Document
import UptimeIntake.Proofs.Config.Settings
import UptimeIntake.Proofs.Net.IpAddress
import UptimeIntake.Proofs.Submission.Fields

/-!
# Documents with some of the settings

A configuration document may write out any of the fields, in any order, with or without the sections
that have none of them. What it writes out is read as it was, and all other fields have their
defaults; so a document with all fields is read as the settings it was written for.
-/

set_option autoImplicit false

namespace UptimeIntake

open Json Text Json.Value

/-! ## Kinds as JSON -/

namespace Json.Value

def IsAddress (a : IpAddress) : Value → Prop :=
  IsText (String.ofList a.write)

theorem IsAddress.read? {a : IpAddress} {v : Value} (isAddress : IsAddress a v) :
    HttpConfig.readHost? v = some a := by
  rw [HttpConfig.readHost?, IsText.text? isAddress, Option.bind_some, String.toList_ofList,
    IpAddress.parse?_write]

end Json.Value

namespace SettingKind

/-- The value writes what a field of the kind holds. -/
def IsValue : (k : SettingKind) → k.Content → Value → Prop
  | address, a => IsAddress a
  | port, n => (· = .number (Decimal.digits (UInt16.toNat n)))
  | count, n => (· = .number (Decimal.digits (UInt32.toNat n)))
  | number, n => (· = .number (Decimal.digits (UInt64.toNat n)))
  | flag, b => (· = .bool b)
  | text, s => IsText s
  | optionalText, some s => IsText s
  | optionalText, none => (· = .null)

/-- How a field of the kind is read, with its default. -/
def read? : (k : SettingKind) → k.Content → Option Value → Option k.Content
  | address, default => Value.withDefault default HttpConfig.readHost?
  | port, default => Value.withDefault default Value.uint16?
  | count, default => Value.withDefault default Value.uint32?
  | number, default => Value.withDefault default Value.uint64?
  | flag, default => Value.withDefault default Value.bool?
  | text, default => Value.withDefault default Value.text?
  | optionalText, _ => Value.optional Value.text?

theorem IsValue.read? {k : SettingKind} {x : k.Content} {w : Value} (isValue : k.IsValue x w)
    (default : k.Content) : k.read? default (some w) = some x := by
  cases k with
  | address => exact IsAddress.read? isValue
  | port =>
      cases isValue
      exact uint16?_digits x
  | count =>
      cases isValue
      exact uint32?_digits x
  | number =>
      cases isValue
      exact uint64?_digits x
  | flag =>
      cases isValue
      rfl
  | text => exact IsText.text? isValue
  | optionalText =>
      cases x with
      | none =>
          cases isValue
          rfl
      | some s =>
          obtain ⟨raw, rfl, spells⟩ := isValue
          exact congrArg (Option.map some) spells.read?

end SettingKind

/-! ## Sections -/

namespace ConfigSection

def name : ConfigSection → String
  | http => "http"
  | limits => "limits"
  | rateLimit => "rate_limit"
  | whitelist => "whitelist"
  | storage => "storage"

def Content : ConfigSection → Type
  | http => HttpConfig
  | limits => LimitsConfig
  | rateLimit => RateLimitConfig
  | whitelist => WhitelistConfig
  | storage => StorageConfig

def fieldNames : ConfigSection → List String
  | http => HttpConfig.fieldNames
  | limits => LimitsConfig.fieldNames
  | rateLimit => RateLimitConfig.fieldNames
  | whitelist => WhitelistConfig.fieldNames
  | storage => StorageConfig.fieldNames

def read? : (s : ConfigSection) → Value → Option s.Content
  | http => HttpConfig.read?
  | limits => LimitsConfig.read?
  | rateLimit => RateLimitConfig.read?
  | whitelist => WhitelistConfig.read?
  | storage => StorageConfig.read?

/-- The section of the settings. -/
def of (c : IngestConfig) : (s : ConfigSection) → s.Content
  | http => c.http
  | limits => c.limits
  | rateLimit => c.rateLimit
  | whitelist => c.whitelist
  | storage => c.storage

end ConfigSection

namespace Setting

/-- The name of the field where it stands. -/
def name : Setting → String
  | host => "host"
  | port => "port"
  | maxPayloadSize => "max_payload_size"
  | bodyReadTimeoutSecs => "body_read_timeout_secs"
  | timeDiffDeltaSecs => "time_diff_delta_secs"
  | maxAttempts => "max_attempts"
  | windowSecs => "window_secs"
  | cleanupIntervalSecs => "cleanup_interval_secs"
  | disabled => "disabled"
  | file => "file"
  | url => "url"
  | refreshIntervalSecs => "refresh_interval_secs"
  | initialAttempts => "initial_attempts"
  | refreshAttempts => "refresh_attempts"
  | retryBackoffMs => "retry_backoff_ms"
  | localPath => "local_path"
  | memory => "memory"
  | networkName => "network_name"
  | verifySignatureDisabled => "verify_signature_disabled"

/-- The fields that stand in a section, or in the document itself. -/
def standingIn (place : Option ConfigSection) : List Setting :=
  all.filter fun f => f.section? = place

theorem mem_standingIn {f : Setting} {place : Option ConfigSection} :
    f ∈ standingIn place ↔ f.section? = place := by
  rw [standingIn, List.mem_filter, decide_eq_true_eq]
  exact and_iff_right (mem_all f)

theorem nodup_names (place : Option ConfigSection) : ((standingIn place).map name).Nodup := by
  cases place with
  | none => decide
  | some s => cases s <;> decide

private theorem eq_of_name {f g : Setting} (samePlace : f.section? = g.section?)
    (sameName : f.name = g.name) : f = g :=
  List.inj_on_of_nodup_map (nodup_names g.section?) (mem_standingIn.2 samePlace)
    (mem_standingIn.2 rfl) sameName

end Setting

/-- The names of the members that are read in a section, or in the document itself. -/
def fieldNamesIn : Option ConfigSection → List String
  | none => IngestConfig.fieldNames
  | some s => s.fieldNames

theorem nodup_fieldNamesIn (place : Option ConfigSection) : (fieldNamesIn place).Nodup := by
  cases place with
  | none => decide
  | some s => cases s <;> decide

theorem name_mem_fieldNamesIn (f : Setting) : f.name ∈ fieldNamesIn f.section? := by
  cases f <;> decide

theorem section_mem_fieldNamesIn (s : ConfigSection) : s.name ∈ fieldNamesIn none := by
  cases s <;> decide

/-! ## Reading fields -/

variable {content : (f : Setting) → f.kind.Content} {field : String → Option Value} {v : Value}

/-- Every field that stands in the place is read as its content. -/
def Contains (content : (f : Setting) → f.kind.Content) (place : Option ConfigSection)
    (field : String → Option Value) : Prop :=
  ∀ f : Setting, f.section? = place →
    f.kind.read? (IngestConfig.defaults.get f) (field f.name) = some (content f)

theorem bind_of_some {α β : Type} {x : Option α} {a : α} {next : α → Option β} {b : Option β}
    (isSome : x = some a) (onward : next a = b) : x.bind next = b := by
  rw [isSome, Option.bind_some, onward]

theorem ConfigSection.read?_eq (s : ConfigSection) (reads : fields? s.fieldNames v = some field)
    (contains : Contains content (some s) field) :
    s.read? v = some (s.of (.ofContents content)) := by
  cases s with
  | http =>
      refine bind_of_some reads ?_
      refine bind_of_some (contains .host rfl) ?_
      refine bind_of_some (contains .port rfl) ?_
      rfl
  | limits =>
      refine bind_of_some reads ?_
      refine bind_of_some (contains .maxPayloadSize rfl) ?_
      refine bind_of_some (contains .bodyReadTimeoutSecs rfl) ?_
      refine bind_of_some (contains .timeDiffDeltaSecs rfl) ?_
      rfl
  | rateLimit =>
      refine bind_of_some reads ?_
      refine bind_of_some (contains .maxAttempts rfl) ?_
      refine bind_of_some (contains .windowSecs rfl) ?_
      refine bind_of_some (contains .cleanupIntervalSecs rfl) ?_
      rfl
  | whitelist =>
      refine bind_of_some reads ?_
      refine bind_of_some (contains .disabled rfl) ?_
      refine bind_of_some (contains .file rfl) ?_
      refine bind_of_some (contains .url rfl) ?_
      refine bind_of_some (contains .refreshIntervalSecs rfl) ?_
      refine bind_of_some (contains .initialAttempts rfl) ?_
      refine bind_of_some (contains .refreshAttempts rfl) ?_
      refine bind_of_some (contains .retryBackoffMs rfl) ?_
      rfl
  | storage =>
      refine bind_of_some reads ?_
      refine bind_of_some (contains .localPath rfl) ?_
      refine bind_of_some (contains .memory rfl) ?_
      rfl

theorem IngestConfig.read?_eq (reads : fields? fieldNames v = some field)
    (contains : Contains content none field)
    (sections : ∀ s : ConfigSection,
      Value.withDefault (s.of defaults) s.read? (field s.name) = some (s.of (ofContents content))) :
    read? v = some (ofContents content) := by
  refine bind_of_some reads ?_
  refine bind_of_some (sections .http) ?_
  refine bind_of_some (sections .limits) ?_
  refine bind_of_some (sections .rateLimit) ?_
  refine bind_of_some (sections .whitelist) ?_
  refine bind_of_some (sections .storage) ?_
  refine bind_of_some (contains .networkName rfl) ?_
  refine bind_of_some (contains .verifySignatureDisabled rfl) ?_
  rfl

/-- A section is settled by its fields. -/
theorem ConfigSection.of_eq {s : ConfigSection} {c d : IngestConfig}
    (same : ∀ f : Setting, f.section? = some s → c.get f = d.get f) : s.of c = s.of d := by
  cases s with
  | http =>
      have whole := congr (congrArg HttpConfig.mk (same .host rfl)) (same .port rfl)
      exact whole
  | limits =>
      have whole := congr (congr (congrArg LimitsConfig.mk (same .maxPayloadSize rfl))
        (same .bodyReadTimeoutSecs rfl)) (same .timeDiffDeltaSecs rfl)
      exact whole
  | rateLimit =>
      have whole := congr (congr (congrArg RateLimitConfig.mk (same .maxAttempts rfl))
        (same .windowSecs rfl)) (same .cleanupIntervalSecs rfl)
      exact whole
  | whitelist =>
      have source := congr (congr (congrArg WhitelistConfig.mk (same .disabled rfl))
        (same .file rfl)) (same .url rfl)
      have whole := congr (congr (congr (congr source (same .refreshIntervalSecs rfl))
        (same .initialAttempts rfl)) (same .refreshAttempts rfl)) (same .retryBackoffMs rfl)
      exact whole
  | storage =>
      have whole := congr (congrArg StorageConfig.mk (same .localPath rfl)) (same .memory rfl)
      exact whole

/-! ## Documents -/

namespace IngestConfig

variable {c : IngestConfig} {S : Finset Setting} {place : Option ConfigSection}

/-- The contents of the fields in `S`, and the defaults of the others. -/
def only (c : IngestConfig) (S : Finset Setting) (f : Setting) : f.kind.Content :=
  if f ∈ S then c.get f else defaults.get f

/-- The entries for those fields in `S` that stand in the place. -/
def entries (c : IngestConfig) (S : Finset Setting) (place : Option ConfigSection) : List Entry :=
  ((Setting.standingIn place).filter (· ∈ S)).map fun f => (f.name, f.kind.IsValue (c.get f))

/-- The value writes out exactly the fields in `S`, in any order. A section that has none of them
may be left out or be an object without members. -/
def IsDocument (c : IngestConfig) (S : Finset Setting) (v : Value) : Prop :=
  ∃ sections : List ConfigSection, sections.Nodup ∧
    (∀ f ∈ S, ∀ s, f.section? = some s → s ∈ sections) ∧
    IsObjectOf (c.entries S none ++
      sections.map fun s => (s.name, IsObjectOf (c.entries S (some s)))) v

theorem mem_entries {f : Setting} (isIn : f ∈ S) (stands : f.section? = place) :
    (f.name, f.kind.IsValue (c.get f)) ∈ c.entries S place :=
  List.mem_map.2 ⟨f, List.mem_filter.2 ⟨Setting.mem_standingIn.2 stands, decide_eq_true isIn⟩, rfl⟩

theorem mem_names_iff {name : String} :
    name ∈ (c.entries S place).map Prod.fst ↔ ∃ f ∈ S, f.section? = place ∧ f.name = name := by
  rw [entries, List.map_map, List.mem_map]
  constructor
  · rintro ⟨f, isKept, rfl⟩
    obtain ⟨stands, isIn⟩ := List.mem_filter.1 isKept
    exact ⟨f, of_decide_eq_true isIn, Setting.mem_standingIn.1 stands, rfl⟩
  · rintro ⟨f, isIn, stands, rfl⟩
    exact ⟨f, List.mem_filter.2 ⟨Setting.mem_standingIn.2 stands, decide_eq_true isIn⟩, rfl⟩

theorem nodup_entries (c : IngestConfig) (S : Finset Setting) (place : Option ConfigSection) :
    ((c.entries S place).map Prod.fst).Nodup := by
  rw [entries, List.map_map]
  exact (List.filter_sublist.map Setting.name).nodup (Setting.nodup_names place)

theorem not_mem_names {f : Setting} (isOut : f ∉ S) (stands : f.section? = place) :
    f.name ∉ (c.entries S place).map Prod.fst := by
  rw [mem_names_iff]
  rintro ⟨g, isIn, standsToo, sameName⟩
  rw [Setting.eq_of_name (standsToo.trans stands.symm) sameName] at isIn
  exact isOut isIn

private theorem kind_read?_none (f : Setting) :
    f.kind.read? (defaults.get f) none = some (defaults.get f) := by
  cases f <;> rfl

/-- What is read of an object with these entries and others of other names. -/
theorem contains_only
    (present : ∀ f ∈ S, f.section? = place → ∃ w, field f.name = some w ∧ f.kind.IsValue (c.get f) w)
    (absent : ∀ f ∉ S, f.section? = place → field f.name = none) :
    Contains (c.only S) place field := by
  intro f stands
  rw [only]
  split
  · next isIn =>
      obtain ⟨w, found, isValue⟩ := present f isIn stands
      rw [found, isValue.read?]
  · next isOut => rw [absent f isOut stands, kind_read?_none]

private theorem read?_section {s : ConfigSection} {w : Value}
    (isObject : IsObjectOf (c.entries S (some s)) w) :
    s.read? w = some (s.of (ofContents (c.only S))) := by
  obtain ⟨field, reads, present, absent⟩ :=
    isObject.fields (nodup_fieldNamesIn (some s)) (c.nodup_entries S (some s))
  refine s.read?_eq reads (contains_only ?_ ?_)
  · intro f isIn stands
    exact present f.name (stands ▸ name_mem_fieldNamesIn f) _ (mem_entries isIn stands)
  · intro f isOut stands
    exact absent f.name (stands ▸ name_mem_fieldNamesIn f) (not_mem_names isOut stands)

theorem name_ne_section {f : Setting} (stands : f.section? = none) (s : ConfigSection) :
    f.name ≠ s.name := by
  have all : ∀ f ∈ Setting.standingIn none, ∀ s ∈ ConfigSection.all, f.name ≠ s.name := by decide
  exact all f (Setting.mem_standingIn.2 stands) s s.mem_all

theorem section_name_injective : Function.Injective ConfigSection.name := by
  intro s t sameName
  have nodup : (ConfigSection.all.map ConfigSection.name).Nodup := by decide
  exact List.inj_on_of_nodup_map nodup s.mem_all t.mem_all sameName

private theorem nodup_documentEntries {sections : List ConfigSection} (nodup : sections.Nodup) :
    ((c.entries S none ++
      sections.map fun s => (s.name, IsObjectOf (c.entries S (some s)))).map Prod.fst).Nodup := by
  rw [List.map_append, List.map_map, List.nodup_append]
  refine ⟨c.nodup_entries S none, nodup.map section_name_injective, ?_⟩
  intro name isField other isSection
  obtain ⟨f, _, stands, rfl⟩ := mem_names_iff.1 isField
  obtain ⟨s, _, rfl⟩ := List.mem_map.1 isSection
  exact name_ne_section stands s

theorem IsDocument.read? (isDocument : c.IsDocument S v) :
    IngestConfig.read? v = some (ofContents (c.only S)) := by
  obtain ⟨sections, nodup, covers, isObject⟩ := isDocument
  obtain ⟨field, reads, present, absent⟩ :=
    isObject.fields (nodup_fieldNamesIn none) (nodup_documentEntries nodup)
  refine read?_eq reads (contains_only ?_ ?_) ?_
  · intro f isIn stands
    exact present f.name (stands ▸ name_mem_fieldNamesIn f) _
      (List.mem_append_left _ (mem_entries isIn stands))
  · intro f isOut stands
    refine absent f.name (stands ▸ name_mem_fieldNamesIn f) ?_
    rw [List.map_append, List.mem_append, not_or]
    refine ⟨not_mem_names isOut stands, ?_⟩
    rw [List.map_map]
    intro member
    obtain ⟨s, _, sameName⟩ := List.mem_map.1 member
    exact name_ne_section stands s sameName.symm
  · intro s
    by_cases isWritten : s ∈ sections
    · obtain ⟨w, found, isSection⟩ := present s.name (section_mem_fieldNamesIn s) _
        (List.mem_append_right _ (List.mem_map.2 ⟨s, isWritten, rfl⟩))
      rw [found]
      exact read?_section isSection
    · have leftOut : field s.name = none := by
        refine absent s.name (section_mem_fieldNamesIn s) ?_
        rw [List.map_append, List.mem_append, not_or, List.map_map]
        constructor
        · intro member
          obtain ⟨f, _, stands, sameName⟩ := mem_names_iff.1 member
          exact name_ne_section stands s sameName
        · intro member
          obtain ⟨t, isToo, sameName⟩ := List.mem_map.1 member
          exact isWritten (section_name_injective sameName ▸ isToo)
      have asDefault : s.of defaults = s.of (ofContents (c.only S)) := by
        refine ConfigSection.of_eq fun f stands => ?_
        have isOut : f ∉ S := fun isIn => isWritten (covers f isIn s stands)
        rw [get_ofContents, only, if_neg isOut]
      rw [leftOut, ← asDefault]
      rfl

end IngestConfig

/-! ## Writing documents -/

namespace SettingKind

def write : (k : SettingKind) → k.Content → List Char
  | address, a => Json.Text.quote (IpAddress.write a)
  | port, n => Decimal.digits (UInt16.toNat n)
  | count, n => Decimal.digits (UInt32.toNat n)
  | number, n => Decimal.digits (UInt64.toNat n)
  | flag, true => ['t', 'r', 'u', 'e']
  | flag, false => ['f', 'a', 'l', 's', 'e']
  | text, s => Json.Text.quoteString s
  | optionalText, some s => Json.Text.quoteString s
  | optionalText, none => ['n', 'u', 'l', 'l']

private theorem exists_isValue (k : SettingKind) (x : k.Content) :
    ∃ w, Value.Written (k.write x) w ∧ k.IsValue x w := by
  cases k with
  | address => exact ⟨_, written_quote _, isText_ofList (IpAddress.write x)⟩
  | port | count | number => exact ⟨_, written_digits _, rfl⟩
  | flag =>
      cases x with
      | true => exact ⟨_, .true, rfl⟩
      | false => exact ⟨_, .false, rfl⟩
  | text => exact ⟨_, written_quote _, isText_toList x⟩
  | optionalText =>
      cases x with
      | none => exact ⟨_, .null, rfl⟩
      | some s => exact ⟨_, written_quote _, isText_toList s⟩

end SettingKind

namespace IngestConfig

variable (c : IngestConfig) (S : Finset Setting)

def members (place : Option ConfigSection) : List Member :=
  ((Setting.standingIn place).filter (· ∈ S)).map fun f => (f.name, f.kind.write (c.get f))

/-- The sections that have fields in `S`. -/
def sectionsOf (S : Finset Setting) : List ConfigSection :=
  ConfigSection.all.filter fun s => (Setting.standingIn (some s)).any (· ∈ S)

/-- The compact document that writes out the fields in `S`. -/
def document : List Char :=
  Member.writeObject
    ((sectionsOf S).map (fun s => (s.name, Member.writeObject (c.members S (some s)))) ++
      c.members S none)

theorem meets_members (place : Option ConfigSection) :
    List.Forall₂ Meets (c.members S place) (c.entries S place) := by
  rw [members, entries, List.forall₂_map_left_iff, List.forall₂_map_right_iff, List.forall₂_same]
  exact fun f _ => ⟨rfl, f.kind.exists_isValue (c.get f)⟩

theorem exists_isDocument : ∃ v, Value.Written (c.document S) v ∧ c.IsDocument S v := by
  have sections : List.Forall₂ Meets
      ((sectionsOf S).map fun s => (s.name, Member.writeObject (c.members S (some s))))
      ((sectionsOf S).map fun s => (s.name, IsObjectOf (c.entries S (some s)))) := by
    rw [List.forall₂_map_left_iff, List.forall₂_map_right_iff, List.forall₂_same]
    exact fun s _ => ⟨rfl, exists_isObjectOf (c.meets_members S (some s))⟩
  obtain ⟨v, written, isObject⟩ :=
    exists_isObjectOf (List.rel_append sections (c.meets_members S none))
  refine ⟨v, written, sectionsOf S, ?_, ?_, isObject.perm List.perm_append_comm⟩
  · have nodup : ConfigSection.all.Nodup := by decide
    exact nodup.filter _
  · intro f isIn s stands
    refine List.mem_filter.2 ⟨s.mem_all, List.any_eq_true.2 ?_⟩
    exact ⟨f, Setting.mem_standingIn.2 stands, decide_eq_true isIn⟩

theorem IsDocument.decode? {c : IngestConfig} {S : Finset Setting} {text : List Char} {v : Value}
    (written : Value.Written text v) (isDocument : c.IsDocument S v) :
    IngestConfig.decode? (Utf8.encode text) = some (ofContents (c.only S)) := by
  rw [IngestConfig.decode?, written.read?, Option.bind_some, isDocument.read?]

/-- Every document that writes out some fields of the settings is read as the settings that have
these fields and the defaults in all others. There is such a document for any settings and any of
their fields, and the one with all fields is read as the settings themselves. -/
theorem written_fields_kept_and_others_default :
    (∀ (c : IngestConfig) (S : Finset Setting) (text : List Char) (v : Value),
      Value.Written text v → c.IsDocument S v →
        ∃ d, decode? (Utf8.encode text) = some d ∧ (∀ f ∈ S, d.get f = c.get f) ∧
          ∀ f ∉ S, d.get f = defaults.get f) ∧
    (∀ (c : IngestConfig) (S : Finset Setting),
      ∃ v, Value.Written (c.document S) v ∧ c.IsDocument S v) ∧
    ∀ c : IngestConfig, decode? (Utf8.encode (c.document Setting.all.toFinset)) = some c := by
  refine ⟨?_, exists_isDocument, ?_⟩
  · intro c S text v written isDocument
    refine ⟨_, isDocument.decode? written, ?_, ?_⟩
    · intro f isIn
      rw [get_ofContents, only, if_pos isIn]
    · intro f isOut
      rw [get_ofContents, only, if_neg isOut]
  · intro c
    obtain ⟨v, written, isDocument⟩ := c.exists_isDocument Setting.all.toFinset
    have everything : c.only Setting.all.toFinset = c.get := by
      funext f
      rw [only, if_pos (List.mem_toFinset.2 f.mem_all)]
    rw [isDocument.decode? written, everything, ofContents_get]

example :
    decode? (Utf8.encode
      "\x7b\"storage\": \x7b\x7d, \"rate_limit\": \x7b\"max_attempts\": 5\x7d\x7d".toList) =
      some { rateLimit := { maxAttempts := 5 } } := by
  decide +kernel

end IngestConfig

end UptimeIntake
