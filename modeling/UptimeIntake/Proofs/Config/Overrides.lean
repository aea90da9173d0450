import Mathlib.Data.List.Forall2
import UptimeIntake.Config.Load
import UptimeIntake.Proofs.Config.Settings
import UptimeIntake.Proofs.Text.Decimal
import UptimeIntake.Proofs.Text.Trim
import UptimeIntake.Proofs.Text.Utf8

/-!
# Settings overridden by variables

Loading starts from the document of the named file or from the defaults and fails only over that
file. Each variable that overrides has a field of its own: a text that gives a value decides the
field, and every field that no variable decides is as it was.
-/

set_option autoImplicit false

namespace UptimeIntake

open Text

/-! ## Texts of variables -/

/-- A flag is on if its text is `1` or `true` in letters of either case. -/
def IsOnText (s : String) : Prop :=
  s = "1" ∨
    List.Forall₂ (fun c cases => c ∈ cases) s.toList [['t', 'T'], ['r', 'R'], ['u', 'U'], ['e', 'E']]

/-- Without white space around it the text is the number in digits, behind an optional `+`. -/
def IsNumberText (s : String) (n : Nat) : Prop :=
  ∃ inner, Trims isBlank s.toList inner ∧ Decimal.IsUnsigned inner n

theorem unsigned?_trim_eq_some_iff {bound n : Nat} {s : String} :
    Decimal.unsigned? bound (trim s.toList) = some n ↔ IsNumberText s n ∧ n ≤ bound := by
  rw [Decimal.unsigned?_eq_some_iff]
  constructor
  · rintro ⟨isUnsigned, fits⟩
    exact ⟨⟨trim s.toList, trim_eq_iff.1 rfl, isUnsigned⟩, fits⟩
  · rintro ⟨⟨inner, trims, isUnsigned⟩, fits⟩
    rw [trim_eq_iff.2 trims]
    exact ⟨isUnsigned, fits⟩

/-- Numbers are read into a type that holds exactly those below its size. -/
theorem unsigned?_map_eq_some_iff {α : Type} {size : Nat} {toNat : α → Nat} {ofNat : Nat → α}
    {s : String} {v : α} (lt : ∀ v, toNat v < size) (ofNat_toNat : ∀ v, ofNat (toNat v) = v)
    (toNat_ofNat : ∀ n < size, toNat (ofNat n) = n) :
    (Decimal.unsigned? (size - 1) (trim s.toList)).map ofNat = some v ↔
      IsNumberText s (toNat v) := by
  have inRange := lt v
  simp only [Option.map_eq_some_iff, unsigned?_trim_eq_some_iff]
  constructor
  · rintro ⟨n, ⟨isNumber, fits⟩, rfl⟩
    rwa [toNat_ofNat n (by omega)]
  · intro isNumber
    exact ⟨toNat v, ⟨isNumber, by omega⟩, ofNat_toNat v⟩

namespace Environment

/-- A letter counts as the capital that stands 32 places before it. -/
theorem lower_eq_iff {c small capital : Char} (isCapital : 'A' ≤ capital ∧ capital ≤ 'Z')
    (shifted : small.toNat = capital.toNat + 32) : lower c = small ↔ c ∈ [small, capital] := by
  have le_iff (a b : Char) : a ≤ b ↔ a.toNat ≤ b.toNat := UInt32.le_iff_toNat_le
  have eq_iff (a b : Char) : a = b ↔ a.toNat = b.toNat := Char.toNat_inj.symm
  have bounds : 'A'.toNat = 65 ∧ 'Z'.toNat = 90 := by decide
  rw [le_iff, le_iff] at isCapital
  rw [lower, List.mem_pair]
  split
  · next isUpper =>
      rw [le_iff, le_iff] at isUpper
      have moved : (Char.ofNat (c.toNat + 32)).toNat = c.toNat + 32 :=
        Utf8.toNat_ofNat_of_isValidChar (.inl (by omega))
      rw [eq_iff, moved, eq_iff c small, eq_iff c capital]
      omega
  · next notUpper =>
      rw [le_iff, le_iff] at notUpper
      rw [eq_iff c small, eq_iff c capital]
      omega

theorem isOn_iff {s : String} : isOn s = true ↔ IsOnText s := by
  have t (c : Char) : lower c = 't' ↔ c ∈ ['t', 'T'] := lower_eq_iff (by decide) (by decide)
  have r (c : Char) : lower c = 'r' ↔ c ∈ ['r', 'R'] := lower_eq_iff (by decide) (by decide)
  have u (c : Char) : lower c = 'u' ↔ c ∈ ['u', 'U'] := lower_eq_iff (by decide) (by decide)
  have e (c : Char) : lower c = 'e' ↔ c ∈ ['e', 'E'] := lower_eq_iff (by decide) (by decide)
  have spelled : s.toList.map lower = ['t', 'r', 'u', 'e'] ↔
      List.Forall₂ (fun c small => lower c = small) s.toList ['t', 'r', 'u', 'e'] := by
    rw [← List.forall₂_map_left_iff, List.forall₂_eq_eq_eq]
  rw [isOn, IsOnText, Bool.or_eq_true, decide_eq_true_iff, decide_eq_true_iff, or_comm, spelled]
  simp only [List.forall₂_cons_right_iff, List.forall₂_nil_right_iff, t, r, u, e]

theorem isOn_eq_iff {s : String} {on : Bool} : isOn s = on ↔ (on = true ↔ IsOnText s) := by
  rw [← isOn_iff, Bool.eq_iff_iff]
  exact iff_comm

end Environment

namespace SettingKind

/-- A variable with this text gives a field of the kind this content. -/
def Gives : (k : SettingKind) → String → k.Content → Prop
  | address, _, _ => False
  | port, s, n => IsNumberText s (UInt16.toNat n)
  | count, s, n => IsNumberText s (UInt32.toNat n)
  | number, s, n => IsNumberText s (UInt64.toNat n)
  | flag, s, b => b = true ↔ IsOnText s
  | text, s, t => t = s
  | optionalText, s, t => t = some s

def given? : (k : SettingKind) → String → Option k.Content
  | address, _ => none
  | port, s => (Decimal.unsigned? (UInt16.size - 1) (trim s.toList)).map UInt16.ofNat
  | count, s => (Decimal.unsigned? (UInt32.size - 1) (trim s.toList)).map UInt32.ofNat
  | number, s => (Decimal.unsigned? (UInt64.size - 1) (trim s.toList)).map UInt64.ofNat
  | flag, s => some (Environment.isOn s)
  | text, s => some s
  | optionalText, s => some (some s)

theorem given?_eq_some_iff {k : SettingKind} {s : String} {v : k.Content} :
    k.given? s = some v ↔ k.Gives s v := by
  cases k with
  | address => exact ⟨nofun, nofun⟩
  | port =>
      exact unsigned?_map_eq_some_iff UInt16.toNat_lt_size (fun _ => UInt16.ofNat_toNat)
        fun _ fits => UInt16.toNat_ofNat_of_lt fits
  | count =>
      exact unsigned?_map_eq_some_iff UInt32.toNat_lt_size (fun _ => UInt32.ofNat_toNat)
        fun _ fits => UInt32.toNat_ofNat_of_lt fits
  | number =>
      exact unsigned?_map_eq_some_iff UInt64.toNat_lt_size (fun _ => UInt64.ofNat_toNat)
        fun _ fits => UInt64.toNat_ofNat_of_lt fits
  | flag => exact Option.some_inj.trans Environment.isOn_eq_iff
  | text => exact Option.some_inj.trans eq_comm
  | optionalText => exact Option.some_inj.trans eq_comm

end SettingKind

/-! ## Variables -/

/-- The variables that override a field. -/
inductive Override where
  | listenPort
  | network
  | requestsPerKey
  | whitelistDisabled
  | whitelistFile
  | whitelistUrl
  | whitelistRefresh
  | signatureCheckDisabled
  | storagePath
  deriving DecidableEq

namespace Override

def variableName : Override → String
  | listenPort => "UPTIME_LISTEN_PORT"
  | network => "UPTIME_NETWORK"
  | requestsPerKey => "UPTIME_REQUESTS_PER_PK_HOURLY"
  | whitelistDisabled => "UPTIME_WHITELIST_DISABLED"
  | whitelistFile => "UPTIME_WHITELIST_FILE"
  | whitelistUrl => "UPTIME_WHITELIST_URL"
  | whitelistRefresh => "UPTIME_WHITELIST_REFRESH_SECS"
  | signatureCheckDisabled => "UPTIME_VERIFY_SIGNATURE_DISABLED"
  | storagePath => "UPTIME_STORAGE_PATH"

def setting : Override → Setting
  | listenPort => .port
  | network => .networkName
  | requestsPerKey => .maxAttempts
  | whitelistDisabled => .disabled
  | whitelistFile => .file
  | whitelistUrl => .url
  | whitelistRefresh => .refreshIntervalSecs
  | signatureCheckDisabled => .verifySignatureDisabled
  | storagePath => .localPath

end Override

namespace IngestConfig

private theorem natural?_getD {α : Type} (env : Environment) (bound : Nat) (name : String)
    (ofNat : Nat → α)
    (a : α) :
    ((env.natural? bound name).map ofNat).getD a =
      ((env name).bind fun s => (Decimal.unsigned? bound (trim s.toList)).map ofNat).getD a := by
  rw [Environment.natural?, Option.map_bind]
  rfl

private theorem flag?_getD (env : Environment) (name : String) (on : Bool) :
    (env.flag? name).getD on = ((env name).bind fun s => some (Environment.isOn s)).getD on := by
  rw [Environment.flag?, Option.map_eq_bind]
  rfl

private theorem or_eq_getD {α : Type} (o o' : Option α) :
    o.or o' = (o.bind fun a => some (some a)).getD o' := by
  cases o <;> rfl

/-- A variable overrides its own field, if it is set to a text that gives a value. -/
theorem get_override (env : Environment) (c : IngestConfig) (x : Override) :
    (override env c).get x.setting =
      ((env x.variableName).bind x.setting.kind.given?).getD (c.get x.setting) := by
  cases x with
  | listenPort | requestsPerKey | whitelistRefresh => exact natural?_getD ..
  | whitelistDisabled | signatureCheckDisabled => exact flag?_getD ..
  | network => exact congrArg (Option.getD · c.networkName) (Option.bind_fun_some _).symm
  | whitelistFile | whitelistUrl | storagePath => exact or_eq_getD ..

theorem get_override_of_ne {f : Setting} (env : Environment) (c : IngestConfig)
    (notOverridden : ∀ x : Override, x.setting ≠ f) : (override env c).get f = c.get f := by
  cases f with
  | host | maxPayloadSize | bodyReadTimeoutSecs | timeDiffDeltaSecs | windowSecs
  | cleanupIntervalSecs | initialAttempts | refreshAttempts | retryBackoffMs | memory => rfl
  | port => exact absurd rfl (notOverridden .listenPort)
  | maxAttempts => exact absurd rfl (notOverridden .requestsPerKey)
  | disabled => exact absurd rfl (notOverridden .whitelistDisabled)
  | file => exact absurd rfl (notOverridden .whitelistFile)
  | url => exact absurd rfl (notOverridden .whitelistUrl)
  | refreshIntervalSecs => exact absurd rfl (notOverridden .whitelistRefresh)
  | localPath => exact absurd rfl (notOverridden .storagePath)
  | networkName => exact absurd rfl (notOverridden .network)
  | verifySignatureDisabled => exact absurd rfl (notOverridden .signatureCheckDisabled)

/-- Each variable whose text gives a value decides its field, and all else is as in the base. -/
structure IsOverriddenBy (env : Environment) (base c : IngestConfig) : Prop where
  decided : ∀ (x : Override) (s : String) (v : x.setting.kind.Content),
    env x.variableName = some s → x.setting.kind.Gives s v → c.get x.setting = v
  undecided : ∀ x : Override,
    (∀ s v, env x.variableName = some s → ¬ x.setting.kind.Gives s v) →
      c.get x.setting = base.get x.setting
  untouched : ∀ f : Setting, (∀ x : Override, x.setting ≠ f) → c.get f = base.get f

section IsOverriddenBy

variable {env : Environment} {base c : IngestConfig} {x : Override}

theorem given?_eq_some {v : x.setting.kind.Content} :
    (env x.variableName).bind x.setting.kind.given? = some v ↔
      ∃ s, env x.variableName = some s ∧ x.setting.kind.Gives s v := by
  simp only [Option.bind_eq_some_iff, SettingKind.given?_eq_some_iff]

theorem given?_eq_none :
    (env x.variableName).bind x.setting.kind.given? = none ↔
      ∀ s v, env x.variableName = some s → ¬ x.setting.kind.Gives s v := by
  simp only [Option.eq_none_iff_forall_ne_some, ne_eq, given?_eq_some, not_exists, not_and]
  exact forall_comm

private theorem isOverriddenBy_override (env : Environment) (base : IngestConfig) :
    base.IsOverriddenBy env (override env base) where
  decided x s v isSet gives := by
    rw [get_override, given?_eq_some.2 ⟨s, isSet, gives⟩, Option.getD_some]
  undecided x nothing := by
    rw [get_override, given?_eq_none.2 nothing, Option.getD_none]
  untouched _ notOverridden := get_override_of_ne env base notOverridden

theorem IsOverriddenBy.get_eq (overridden : base.IsOverriddenBy env c) (x : Override) :
    c.get x.setting =
      ((env x.variableName).bind x.setting.kind.given?).getD (base.get x.setting) := by
  cases given : (env x.variableName).bind x.setting.kind.given? with
  | none => exact overridden.undecided x (given?_eq_none.1 given)
  | some v =>
      obtain ⟨s, isSet, gives⟩ := given?_eq_some.1 given
      exact overridden.decided x s v isSet gives

private theorem IsOverriddenBy.eq_override (overridden : base.IsOverriddenBy env c) :
    c = override env base := by
  refine eq_of_get fun f => ?_
  by_cases overrides : ∃ x : Override, x.setting = f
  · obtain ⟨x, rfl⟩ := overrides
    rw [overridden.get_eq, get_override]
  · have notOverridden (x : Override) : x.setting ≠ f := fun same => overrides ⟨x, same⟩
    rw [overridden.untouched f notOverridden, get_override_of_ne env base notOverridden]

end IsOverriddenBy

/-! ## Loading -/

/-- What loading starts from if the named file has these contents; `none` stands for no named file,
and no contents for a file that cannot be read. -/
inductive StartsFrom : Option (Option Bytes) → IngestConfig → Prop where
  | defaults : StartsFrom none defaults
  | document {text : List Char} {bytes : Bytes} {c : IngestConfig} :
      bytes = Utf8.encode text → decode? bytes = some c → StartsFrom (some (some bytes)) c

section Load

variable {env : Environment} {contents : String → Option Bytes} {path : String} {text : List Char}
  {base c : IngestConfig} {file : Option (Option Bytes)}

theorem StartsFrom.unique (first : StartsFrom file base) (second : StartsFrom file c) : base = c := by
  cases first with
  | defaults => cases second with | defaults => rfl
  | document _ decoded =>
      cases second with
      | document _ decoded' => exact Option.some.inj (decoded.symm.trans decoded')

theorem load_of_unreadable (named : env "UPTIME_CONFIG_FILE" = some path)
    (noText : ∀ text, contents path ≠ some (Utf8.encode text)) :
    load env contents = .error (.unreadable path) := by
  have undecodable : (contents path).bind Utf8.decode = none := by
    refine Option.eq_none_iff_forall_ne_some.2 fun text decoded => ?_
    obtain ⟨bytes, holds, isText⟩ := Option.bind_eq_some_iff.1 decoded
    exact noText text (holds.trans (congrArg some (Utf8.decode_eq_some_iff.1 isText)))
  simp only [load, named, ofFile, undecodable, Except.map]

theorem load_of_text (named : env "UPTIME_CONFIG_FILE" = some path)
    (holds : contents path = some (Utf8.encode text)) :
    load env contents =
      match decode? (Utf8.encode text) with
      | none => .error (.malformed path)
      | some base => .ok (override env base) := by
  simp only [load, named, ofFile, holds, Option.bind_some, Utf8.decode_encode]
  cases decode? (Utf8.encode text) <;> rfl

theorem load_of_startsFrom (starts : StartsFrom ((env "UPTIME_CONFIG_FILE").map contents) base) :
    load env contents = .ok (override env base) := by
  generalize isFile : (env "UPTIME_CONFIG_FILE").map contents = file at starts
  cases starts with
  | defaults => simp only [load, Option.map_eq_none_iff.1 isFile, defaults]
  | document isText decoded =>
      obtain ⟨path, named, holds⟩ := Option.map_eq_some_iff.1 isFile
      subst isText
      rw [load_of_text named holds, decoded]

/-- Loading ends in one of three ways, and which is decided by the named file alone. -/
theorem load_cases (env : Environment) (contents : String → Option Bytes) :
    (∃ path, env "UPTIME_CONFIG_FILE" = some path ∧
      (∀ text, contents path ≠ some (Utf8.encode text)) ∧
      load env contents = .error (.unreadable path)) ∨
    (∃ path, env "UPTIME_CONFIG_FILE" = some path ∧
      (∃ text, contents path = some (Utf8.encode text) ∧ decode? (Utf8.encode text) = none) ∧
      load env contents = .error (.malformed path)) ∨
    ∃ base, StartsFrom ((env "UPTIME_CONFIG_FILE").map contents) base ∧
      load env contents = .ok (override env base) := by
  cases named : env "UPTIME_CONFIG_FILE" with
  | none =>
      have starts : StartsFrom ((env "UPTIME_CONFIG_FILE").map contents) defaults := by
        rw [named]
        exact .defaults
      exact .inr (.inr ⟨defaults, .defaults, load_of_startsFrom starts⟩)
  | some path =>
      by_cases isText : ∃ text, contents path = some (Utf8.encode text)
      · obtain ⟨text, holds⟩ := isText
        have loaded := load_of_text named holds
        cases decoded : decode? (Utf8.encode text) with
        | none =>
            rw [decoded] at loaded
            exact .inr (.inl ⟨path, rfl, ⟨text, holds, decoded⟩, loaded⟩)
        | some base =>
            rw [decoded] at loaded
            refine .inr (.inr ⟨base, ?_, loaded⟩)
            rw [Option.map_some, holds]
            exact .document rfl decoded
      · have noText := not_exists.1 isText
        exact .inl ⟨path, rfl, noText, load_of_unreadable named noText⟩

theorem load_eq_unreadable_iff :
    load env contents = .error (.unreadable path) ↔
      env "UPTIME_CONFIG_FILE" = some path ∧
        ∀ text, contents path ≠ some (Utf8.encode text) := by
  constructor
  · intro loaded
    obtain ⟨other, named, noText, failed⟩ | ⟨_, _, _, failed⟩ | ⟨_, _, succeeded⟩ :=
      load_cases env contents
    · cases loaded.symm.trans failed
      exact ⟨named, noText⟩
    · exact nomatch loaded.symm.trans failed
    · exact nomatch loaded.symm.trans succeeded
  · rintro ⟨named, noText⟩
    exact load_of_unreadable named noText

theorem load_eq_malformed_iff :
    load env contents = .error (.malformed path) ↔
      env "UPTIME_CONFIG_FILE" = some path ∧
        ∃ text, contents path = some (Utf8.encode text) ∧ decode? (Utf8.encode text) = none := by
  constructor
  · intro loaded
    obtain ⟨_, _, _, failed⟩ | ⟨other, named, undecoded, failed⟩ | ⟨_, _, succeeded⟩ :=
      load_cases env contents
    · exact nomatch loaded.symm.trans failed
    · cases loaded.symm.trans failed
      exact ⟨named, undecoded⟩
    · exact nomatch loaded.symm.trans succeeded
  · rintro ⟨named, text, holds, undecoded⟩
    rw [load_of_text named holds, undecoded]

theorem load_eq_ok_iff :
    load env contents = .ok c ↔
      ∃ base, StartsFrom ((env "UPTIME_CONFIG_FILE").map contents) base ∧
        base.IsOverriddenBy env c := by
  constructor
  · intro loaded
    obtain ⟨_, _, _, failed⟩ | ⟨_, _, _, failed⟩ | ⟨base, starts, succeeded⟩ :=
      load_cases env contents
    · exact nomatch loaded.symm.trans failed
    · exact nomatch loaded.symm.trans failed
    · cases loaded.symm.trans succeeded
      exact ⟨base, starts, isOverriddenBy_override env base⟩
  · rintro ⟨base, starts, overridden⟩
    rw [load_of_startsFrom starts, overridden.eq_override]

end Load

/-- Loading fails exactly if the named file cannot be read as text or is no configuration document.
Otherwise it ends with what that file says, or with the defaults, overridden by the variables; so
two loads from one file agree on the field of every variable on which their environments agree. -/
theorem loaded_from_file_then_overridden :
    (∀ (env : Environment) (contents : String → Option Bytes),
      (∀ path, load env contents = .error (.unreadable path) ↔
        env "UPTIME_CONFIG_FILE" = some path ∧
          ∀ text, contents path ≠ some (Utf8.encode text)) ∧
      (∀ path, load env contents = .error (.malformed path) ↔
        env "UPTIME_CONFIG_FILE" = some path ∧
          ∃ text, contents path = some (Utf8.encode text) ∧ decode? (Utf8.encode text) = none) ∧
      ∀ c, load env contents = .ok c ↔
        ∃ base, StartsFrom ((env "UPTIME_CONFIG_FILE").map contents) base ∧
          base.IsOverriddenBy env c) ∧
    ∀ (env₁ env₂ : Environment) (contents₁ contents₂ : String → Option Bytes) (c₁ c₂ : IngestConfig),
      (env₁ "UPTIME_CONFIG_FILE").map contents₁ = (env₂ "UPTIME_CONFIG_FILE").map contents₂ →
      load env₁ contents₁ = .ok c₁ → load env₂ contents₂ = .ok c₂ →
        ∀ x : Override, env₁ x.variableName = env₂ x.variableName →
          c₁.get x.setting = c₂.get x.setting := by
  refine ⟨fun env contents => ⟨?_, ?_, ?_⟩, ?_⟩
  · exact fun _ => load_eq_unreadable_iff
  · exact fun _ => load_eq_malformed_iff
  · exact fun _ => load_eq_ok_iff
  · intro env₁ env₂ contents₁ contents₂ c₁ c₂ sameFile loaded₁ loaded₂ x sameText
    obtain ⟨base₁, starts₁, overridden₁⟩ := load_eq_ok_iff.1 loaded₁
    obtain ⟨base₂, starts₂, overridden₂⟩ := load_eq_ok_iff.1 loaded₂
    rw [sameFile] at starts₁
    rw [overridden₁.get_eq, overridden₂.get_eq, sameText, starts₁.unique starts₂]

example :
    override
      (fun name =>
        if name = "UPTIME_LISTEN_PORT" then some " +08081\n"
        else if name = "UPTIME_REQUESTS_PER_PK_HOURLY" then some "many"
        else if name = "UPTIME_WHITELIST_DISABLED" then some "tRuE"
        else none)
      {} =
      { http := { port := 8081 }, whitelist := { disabled := true } } := by
  decide +kernel

end IngestConfig

end UptimeIntake
