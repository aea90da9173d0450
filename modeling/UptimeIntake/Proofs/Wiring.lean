import UptimeIntake.Proofs.Attempts.Run
import UptimeIntake.Proofs.Pipeline.Stages
import UptimeIntake.Startup

/-!
# Settings that pass the check

What the check of the settings refuses, and what it is good for: settings that pass it call for
parts that work together. There is somewhere to save to and somewhere to take the whitelist from,
first attempts are let through, and no check of the pipeline lacks what it needs.
-/

set_option autoImplicit false

namespace UptimeIntake

/-! ## Faults -/

inductive ConfigFault where
  | payloadLimit
  | quota
  | window
  | source
  | refreshInterval
  | destinations
  deriving DecidableEq

namespace ConfigFault

/-- The faults in the order in which they are reported. -/
def inOrder : List ConfigFault :=
  [payloadLimit, quota, window, source, refreshInterval, destinations]

def IsIn (c : IngestConfig) : ConfigFault → Prop
  | payloadLimit => c.limits.maxPayloadSize = 0
  | quota => c.rateLimit.maxAttempts = 0
  | window => c.rateLimit.windowSecs = 0
  | source => c.whitelist.disabled = false ∧ c.whitelist.file = none ∧ c.whitelist.url = none
  | refreshInterval => c.whitelist.disabled = false ∧ c.whitelist.refreshIntervalSecs = 0
  | destinations => c.storage.localPath = none ∧ c.storage.memory = false

instance (c : IngestConfig) : (fault : ConfigFault) → Decidable (fault.IsIn c)
  | payloadLimit => inferInstanceAs (Decidable (c.limits.maxPayloadSize = 0))
  | quota => inferInstanceAs (Decidable (c.rateLimit.maxAttempts = 0))
  | window => inferInstanceAs (Decidable (c.rateLimit.windowSecs = 0))
  | source => inferInstanceAs (Decidable (c.whitelist.disabled = false ∧
      c.whitelist.file = none ∧ c.whitelist.url = none))
  | refreshInterval => inferInstanceAs (Decidable (c.whitelist.disabled = false ∧
      c.whitelist.refreshIntervalSecs = 0))
  | destinations => inferInstanceAs (Decidable (c.storage.localPath = none ∧
      c.storage.memory = false))

def error : ConfigFault → ConfigError
  | payloadLimit => .invalidLimit "max_payload_size cannot be 0"
  | quota => .invalidRateLimit "max_attempts cannot be 0"
  | window => .invalidRateLimit "window_secs cannot be 0"
  | source => .missingWhitelistSource
  | refreshInterval => .invalidWhitelist "refresh_interval_secs cannot be 0"
  | destinations => .noStorageBackend

/-- The settings have the fault and none before it. -/
def IsFirstIn (c : IngestConfig) (fault : ConfigFault) : Prop :=
  fault.IsIn c ∧ ∃ earlier later, inOrder = earlier ++ fault :: later ∧
    ∀ other ∈ earlier, ¬ other.IsIn c

private theorem mem_inOrder (fault : ConfigFault) : fault ∈ inOrder := by
  cases fault <;> decide

end ConfigFault

namespace IngestConfig

variable {c : IngestConfig}

theorem source_missing_iff :
    (!c.whitelist.disabled && c.whitelist.file.isNone && c.whitelist.url.isNone) = true ↔
      ConfigFault.source.IsIn c := by
  simp [ConfigFault.IsIn, and_assoc]

theorem refresh_missing_iff :
    (!c.whitelist.disabled && c.whitelist.refreshIntervalSecs = 0) = true ↔
      ConfigFault.refreshInterval.IsIn c := by
  simp [ConfigFault.IsIn]

theorem nowhere_to_save_iff :
    (!c.storage.anyEnabled) = true ↔ ConfigFault.destinations.IsIn c := by
  simp [ConfigFault.IsIn, StorageConfig.anyEnabled]

/-- The error for the first fault of a list that the settings have. -/
def verdict (c : IngestConfig) (faults : List ConfigFault) : Except ConfigError Unit :=
  match faults.find? fun fault => decide (fault.IsIn c) with
  | none => .ok ()
  | some fault => .error fault.error

private theorem verdict_cons (c : IngestConfig) (fault : ConfigFault) (rest : List ConfigFault) :
    c.verdict (fault :: rest) =
      if fault.IsIn c then .error fault.error else c.verdict rest := by
  rw [verdict, List.find?_cons]
  by_cases isIn : fault.IsIn c
  · simp only [isIn, decide_true, if_true]
  · simp only [isIn, decide_false, if_false]
    rfl

theorem validate_eq_verdict (c : IngestConfig) : c.validate = c.verdict ConfigFault.inOrder := by
  simp only [validate, source_missing_iff, refresh_missing_iff, nowhere_to_save_iff,
    ConfigFault.inOrder, verdict_cons]
  rfl

theorem validate_eq_error_iff {e : ConfigError} :
    c.validate = .error e ↔ ∃ fault : ConfigFault, fault.IsFirstIn c ∧ e = fault.error := by
  rw [validate_eq_verdict, verdict]
  constructor
  · intro failed
    cases found : ConfigFault.inOrder.find? fun fault => decide (fault.IsIn c) with
    | none =>
        rw [found] at failed
        cases failed
    | some fault =>
        rw [found] at failed
        cases failed
        obtain ⟨isIn, earlier, later, order, before⟩ := List.find?_eq_some_iff_append.1 found
        refine ⟨fault, ⟨of_decide_eq_true isIn, earlier, later, order, ?_⟩, rfl⟩
        intro other member isInToo
        exact absurd (before other member) (by simp [isInToo])
  · rintro ⟨fault, ⟨isIn, earlier, later, order, before⟩, rfl⟩
    have found : ConfigFault.inOrder.find? (fun fault => decide (fault.IsIn c)) = some fault := by
      refine List.find?_eq_some_iff_append.2 ⟨decide_eq_true isIn, earlier, later, order, ?_⟩
      intro other member
      simp [before other member]
    rw [found]

theorem validate_eq_ok_iff : c.validate = .ok () ↔ ∀ fault : ConfigFault, ¬ fault.IsIn c := by
  rw [validate_eq_verdict, verdict]
  cases found : ConfigFault.inOrder.find? fun fault => decide (fault.IsIn c) with
  | none =>
      have absent := List.find?_eq_none.1 found
      refine ⟨fun _ fault isIn => ?_, fun _ => rfl⟩
      exact absent fault fault.mem_inOrder (decide_eq_true isIn)
  | some fault =>
      have isIn : fault.IsIn c := by simpa using List.find?_some found
      refine ⟨fun valid => ?_, fun none => absurd isIn (none fault)⟩
      cases valid

end IngestConfig

/-! ## First attempts -/

namespace AttemptTable

variable {quota : Quota} {key : SubmitterKey}

private theorem queue_run_eq_nil {calls : List AttemptCall} {table : AttemptTable}
    (unheard : ∀ now, .attempt key now ∉ calls) (empty : table.queue key = []) :
    (run quota calls table).2.queue key = [] := by
  induction calls generalizing table with
  | nil => exact empty
  | cons call rest ih =>
      rw [run_cons]
      apply ih
      · intro now member
        exact unheard now (List.mem_cons_of_mem _ member)
      · rw [queue_make, empty]
        cases call with
        | attempt other now =>
            have elsewhere : ¬ other = key := by
              rintro rfl
              exact unheard now List.mem_cons_self
            exact if_neg elsewhere
        | cleanup now => rfl

private theorem first_attempt_granted {calls : List AttemptCall} {now : Moment}
    (room : 0 < quota.maxAttempts) (unheard : ∀ earlier, .attempt key earlier ∉ calls) :
    ((run quota calls empty).2.record quota key now).1 = true := by
  have nothing : (run quota calls empty).2.queue key = [] :=
    queue_run_eq_nil unheard (queue_empty key)
  rw [record_fst, nothing]
  exact decide_eq_true room

end AttemptTable

/-! ## Wired pipelines -/

/-- The pipeline is put together as the settings ask: it has their quota, a whitelist exactly if
the whitelist is enabled, and a verifier exactly if signatures are checked. -/
structure Pipeline.IsWiredFor (p : Pipeline) (c : IngestConfig) : Prop where
  config : p.config = c
  quota : p.quota = c.rateLimit.quota
  whitelist : p.whitelist.isSome = !c.whitelist.disabled
  verifier : p.verifier.isSome = !c.verifySignatureDisabled

theorem IngestConfig.pipeline_isWiredFor (c : IngestConfig) (whitelist : Whitelist) :
    (c.pipeline whitelist).IsWiredFor c where
  config := rfl
  quota := rfl
  whitelist := by cases disabled : c.whitelist.disabled <;> simp [pipeline, disabled]
  verifier := by cases disabled : c.verifySignatureDisabled <;> simp [pipeline, disabled]

namespace Pipeline

variable {p : Pipeline} {c : IngestConfig} {call : Call} {attempts : AttemptTable} {stage : Stage}
  {detail : String}

private theorem Fails.verifier_missing
    (fails : p.Fails call attempts stage (.rejected (.internal detail))) :
    p.config.verifySignatureDisabled = false ∧ p.verifier = none := by
  cases fails with
  | verifier _ enabled missing => exact ⟨enabled, missing⟩

private theorem IsWiredFor.not_internal {σ : Type} (wired : p.IsWiredFor c)
    (state : PipelineState σ) :
    (p.process call state).1 ≠ .refused (.rejected (.internal detail)) := by
  intro refused
  obtain ⟨stage, fails, _⟩ := exists_failsFirst_of_refused refused
  obtain ⟨enabled, missing⟩ := fails.verifier_missing
  have present := wired.verifier
  rw [missing, ← wired.config, enabled] at present
  cases present

end Pipeline

/-! ## Settings that pass -/

namespace IngestConfig

variable {c : IngestConfig}

private theorem backends_ne_nil (somewhere : ¬ ConfigFault.destinations.IsIn c) :
    c.storage.backends ≠ [] := by
  intro none
  obtain ⟨noPath, noMemory⟩ := List.append_eq_nil_iff.1 none
  refine somewhere ⟨?_, ?_⟩
  · simpa using noPath
  · cases memory : c.storage.memory with
    | true => simp [memory] at noMemory
    | false => rfl

theorem exists_source (enabled : c.whitelist.disabled = false)
    (sourced : ¬ ConfigFault.source.IsIn c) :
    ∃ source, WhitelistSource.ofConfig c.whitelist = .ok source := by
  cases url : c.whitelist.url with
  | some address => exact ⟨.url address, by rw [WhitelistSource.ofConfig, url]⟩
  | none =>
      cases file : c.whitelist.file with
      | some path => exact ⟨.file path, by rw [WhitelistSource.ofConfig, url, file]⟩
      | none => exact absurd ⟨enabled, file, url⟩ sourced

end IngestConfig

namespace Host

variable {host : Host} {c : IngestConfig}

private theorem loadConfig_eq_ok
    (loaded : IngestConfig.load host.environment host.contents = .ok c)
    (valid : c.validate = .ok ()) : host.loadConfig = .ok c := by
  rw [loadConfig, loaded]
  change (do (c.validate.mapError StartupError.invalid); return c) = Except.ok c
  rw [valid]
  rfl

private theorem startLogging_ne_noSource : host.startLogging ≠ .error .noSource := by
  intro failed
  rw [startLogging] at failed
  cases checked : LogFilter.check (TelemetryConfig.ofEnvironment host.environment).logFilter with
  | ok filter =>
      rw [checked] at failed
      cases failed
  | error cause =>
      rw [checked] at failed
      cases failed

private theorem loadWhitelist_source {settings : WhitelistConfig} {source : Option WhitelistSource}
    {whitelist : Whitelist} (loaded : host.loadWhitelist settings = .ok (source, whitelist)) :
    source.isSome = !settings.disabled := by
  rw [loadWhitelist] at loaded
  split at loaded
  · next disabled =>
      cases loaded
      simp [disabled]
  · next enabled =>
      split at loaded
      · cases loaded
      · simp only at loaded
        split at loaded
        · cases loaded
        · cases loaded
          simp [enabled]

private theorem loadWhitelist_ne_noSource {settings : WhitelistConfig}
    (sourced : settings.disabled = false → ∃ source, WhitelistSource.ofConfig settings = .ok source) :
    host.loadWhitelist settings ≠ .error .noSource := by
  intro failed
  rw [loadWhitelist] at failed
  split at failed
  · cases failed
  · next enabled =>
      obtain ⟨source, named⟩ := sourced (Bool.eq_false_iff.2 enabled)
      rw [named] at failed
      simp only at failed
      split at failed <;> cases failed

/-- How a start ends once the settings are loaded. -/
theorem start_cases (config : host.loadConfig = .ok c) :
    (∃ cause, host.startLogging = .error cause ∧ host.start = .error cause) ∨
    (∃ cause, host.loadWhitelist c.whitelist = .error cause ∧ host.start = .error cause) ∨
    host.start = .error (.bind c.httpAddress) ∨
    ∃ started whitelist, host.loadWhitelist c.whitelist = .ok (started.source, whitelist) ∧
      started.pipeline = c.pipeline whitelist ∧ host.start = .ok started := by
  cases logging : host.startLogging with
  | error cause =>
      refine .inl ⟨cause, rfl, ?_⟩
      simp only [start, logging, bind, Except.bind]
  | ok telemetry =>
      refine .inr ?_
      cases loaded : host.loadWhitelist c.whitelist with
      | error cause =>
          refine .inl ⟨cause, rfl, ?_⟩
          simp only [start, logging, config, loaded, bind, Except.bind]
      | ok found =>
          refine .inr ?_
          simp only [start, logging, config, loaded, bind, Except.bind]
          by_cases canBind : host.canBind c.http.host c.http.port = true
          · rw [if_pos canBind]
            exact .inr ⟨⟨telemetry, found.1, c.pipeline found.2⟩, found.2, rfl, rfl, rfl⟩
          · rw [if_neg canBind]
            exact .inl rfl

private theorem start_of_validated
    (loaded : IngestConfig.load host.environment host.contents = .ok c)
    (valid : c.validate = .ok ()) :
    host.start ≠ .error .noSource ∧
      ∀ started, host.start = .ok started →
        started.pipeline.IsWiredFor c ∧ started.source.isSome = !c.whitelist.disabled := by
  have sourced := fun enabled =>
    IngestConfig.exists_source enabled (IngestConfig.validate_eq_ok_iff.1 valid .source)
  rcases start_cases (loadConfig_eq_ok loaded valid) with ⟨cause, failed, shape⟩ |
    ⟨cause, failed, shape⟩ | shape | ⟨begun, whitelist, found, wired, shape⟩
  · rw [shape]
    refine ⟨fun same => ?_, fun started isStarted => by cases isStarted⟩
    exact startLogging_ne_noSource (Except.error.inj same ▸ failed)
  · rw [shape]
    refine ⟨fun same => ?_, fun started isStarted => by cases isStarted⟩
    exact loadWhitelist_ne_noSource sourced (Except.error.inj same ▸ failed)
  · rw [shape]
    refine ⟨fun same => ?_, fun started isStarted => by cases isStarted⟩
    cases same
  · rw [shape]
    refine ⟨fun same => (by cases same), ?_⟩
    intro started isStarted
    cases isStarted
    exact ⟨wired ▸ c.pipeline_isWiredFor whitelist, loadWhitelist_source found⟩

end Host

namespace IngestConfig

private theorem quota_maxAttempts_pos {c : IngestConfig} (granted : ¬ ConfigFault.quota.IsIn c) :
    0 < c.rateLimit.quota.maxAttempts := by
  refine Nat.pos_of_ne_zero fun zero => granted ?_
  exact UInt64.toNat_inj.1 zero

private theorem quota_window_pos {c : IngestConfig} (lasting : ¬ ConfigFault.window.IsIn c) :
    0 < c.rateLimit.quota.window := by
  refine Nat.mul_pos (Nat.pos_of_ne_zero fun zero => lasting ?_) (by decide)
  exact UInt64.toNat_inj.1 zero

/-- Settings that pass the check call for parts that work together: something is saved, an enabled
whitelist has a source and is refreshed, first attempts are let through and count for a while, and
no check of the pipeline lacks what it needs. The check fails exactly if there is a fault, and
reports the first one. -/
theorem validation_agrees_with_wiring (c : IngestConfig) :
    (c.validate = .ok () →
      c.initialState.destinations ≠ [] ∧
      (c.whitelist.disabled = false →
        (∃ source, WhitelistSource.ofConfig c.whitelist = .ok source) ∧
          c.whitelist.refreshIntervalSecs ≠ 0) ∧
      0 < c.rateLimit.quota.window ∧
      (∀ (calls : List AttemptCall) (key : SubmitterKey) (now : Moment),
        (∀ earlier, .attempt key earlier ∉ calls) →
          ((AttemptTable.run c.rateLimit.quota calls .empty).2.record c.rateLimit.quota key
            now).1 = true) ∧
      (∀ p : Pipeline, p.IsWiredFor c → ∀ (σ : Type) (state : PipelineState σ) (call : Call)
        (detail : String), (p.process call state).1 ≠ .refused (.rejected (.internal detail))) ∧
      (∀ whitelist, (c.pipeline whitelist).IsWiredFor c) ∧
      ∀ host : Host, load host.environment host.contents = .ok c →
        host.start ≠ .error .noSource ∧
        ∀ started, host.start = .ok started →
          started.pipeline.IsWiredFor c ∧ started.source.isSome = !c.whitelist.disabled) ∧
    (c.validate = .ok () ↔ ∀ fault : ConfigFault, ¬ fault.IsIn c) ∧
    ∀ e, c.validate = .error e ↔ ∃ fault : ConfigFault, fault.IsFirstIn c ∧ e = fault.error := by
  refine ⟨fun valid => ?_, validate_eq_ok_iff, fun _ => validate_eq_error_iff⟩
  have sound := validate_eq_ok_iff.1 valid
  refine ⟨?_, ?_, quota_window_pos (sound .window), ?_, ?_, c.pipeline_isWiredFor, ?_⟩
  · intro none
    exact backends_ne_nil (sound .destinations) (List.map_eq_nil_iff.1 none)
  · intro enabled
    refine ⟨exists_source enabled (sound .source), ?_⟩
    intro zero
    exact sound .refreshInterval ⟨enabled, zero⟩
  · intro calls key now unheard
    exact AttemptTable.first_attempt_granted (quota_maxAttempts_pos (sound .quota)) unheard
  · intro p wired σ state call detail
    exact wired.not_internal state
  · intro host loaded
    exact Host.start_of_validated loaded valid

/-- A host whose document disables the whitelist and whose variables enable it again. -/
def overridingHost : Host where
  environment
    | "UPTIME_CONFIG_FILE" => some "settings.json"
    | "UPTIME_WHITELIST_DISABLED" => some "false"
    | "UPTIME_WHITELIST_FILE" => some "whitelist.csv"
    | _ => none
  contents
    | "settings.json" => some (Text.Utf8.encode ("\x7b\"whitelist\":\x7b\"disabled\":true\x7d," ++
        "\"storage\":\x7b\"memory\":true\x7d\x7d").toList)
    | _ => none
  download _ := none
  canBind _ _ := true

def overriddenSettings : IngestConfig where
  whitelist := { file := some "whitelist.csv" }
  storage := { memory := true }

theorem load_overridingHost :
    load overridingHost.environment overridingHost.contents = .ok overriddenSettings := by
  have found : (load overridingHost.environment overridingHost.contents).toOption =
      some overriddenSettings := by decide +kernel
  cases loaded : load overridingHost.environment overridingHost.contents with
  | error e =>
      rw [loaded] at found
      cases found
  | ok c =>
      rw [loaded] at found
      exact congrArg Except.ok (Option.some.inj found)

theorem overriddenSettings_wired :
    overriddenSettings.validate = .ok () ∧
      load overridingHost.environment overridingHost.contents = .ok overriddenSettings ∧
      overriddenSettings.initialState.destinations ≠ [] ∧
      overridingHost.start ≠ .error .noSource := by
  have valid : overriddenSettings.validate = .ok () := by
    simp [validate, overriddenSettings, StorageConfig.anyEnabled]
  obtain ⟨stored, _, _, _, _, _, started⟩ :=
    (validation_agrees_with_wiring overriddenSettings).1 valid
  exact ⟨valid, load_overridingHost, stored, (started overridingHost load_overridingHost).1⟩

end IngestConfig

end UptimeIntake
