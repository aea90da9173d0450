import UptimeIntake.Config.Basic

/-!
# Settings field by field

The settings as a family of fields, each with the kind of what it holds, so that a statement can be
made of every field at once. The settings are determined by what their fields hold.
-/

set_option autoImplicit false

namespace UptimeIntake

/-- The kinds of what fields hold. -/
inductive SettingKind where
  | address
  | port
  | count
  | number
  | flag
  | text
  /-- A text that may be unset. -/
  | optionalText
  deriving DecidableEq

def SettingKind.Content : SettingKind → Type
  | address => IpAddress
  | port => UInt16
  | count => UInt32
  | number => UInt64
  | flag => Bool
  | text => String
  | optionalText => Option String

inductive ConfigSection where
  | http
  | limits
  | rateLimit
  | whitelist
  | storage
  deriving DecidableEq

/-- The fields of the settings. -/
inductive Setting where
  | host
  | port
  | maxPayloadSize
  | bodyReadTimeoutSecs
  | timeDiffDeltaSecs
  | maxAttempts
  | windowSecs
  | cleanupIntervalSecs
  | disabled
  | file
  | url
  | refreshIntervalSecs
  | initialAttempts
  | refreshAttempts
  | retryBackoffMs
  | localPath
  | memory
  | networkName
  | verifySignatureDisabled
  deriving DecidableEq

namespace ConfigSection

/-- The sections in the order in which they are written. -/
def all : List ConfigSection := [http, limits, rateLimit, whitelist, storage]

theorem mem_all (s : ConfigSection) : s ∈ all := by
  cases s <;> decide

end ConfigSection

namespace Setting

/-- The fields in the order in which they are written. -/
def all : List Setting :=
  [host, port, maxPayloadSize, bodyReadTimeoutSecs, timeDiffDeltaSecs, maxAttempts, windowSecs,
   cleanupIntervalSecs, disabled, file, url, refreshIntervalSecs, initialAttempts, refreshAttempts,
   retryBackoffMs, localPath, memory, networkName, verifySignatureDisabled]

theorem mem_all (f : Setting) : f ∈ all := by
  cases f <;> decide

def kind : Setting → SettingKind
  | host => .address
  | port => .port
  | initialAttempts | refreshAttempts => .count
  | maxPayloadSize | bodyReadTimeoutSecs | timeDiffDeltaSecs | maxAttempts | windowSecs
  | cleanupIntervalSecs | refreshIntervalSecs | retryBackoffMs => .number
  | disabled | memory | verifySignatureDisabled => .flag
  | networkName => .text
  | file | url | localPath => .optionalText

/-- The section that the field stands in; there is none for the fields of the document itself. -/
def section? : Setting → Option ConfigSection
  | host | port => some .http
  | maxPayloadSize | bodyReadTimeoutSecs | timeDiffDeltaSecs => some .limits
  | maxAttempts | windowSecs | cleanupIntervalSecs => some .rateLimit
  | disabled | file | url | refreshIntervalSecs | initialAttempts | refreshAttempts
  | retryBackoffMs => some .whitelist
  | localPath | memory => some .storage
  | networkName | verifySignatureDisabled => none

end Setting

namespace IngestConfig

def get (c : IngestConfig) : (f : Setting) → f.kind.Content
  | .host => c.http.host
  | .port => c.http.port
  | .maxPayloadSize => c.limits.maxPayloadSize
  | .bodyReadTimeoutSecs => c.limits.bodyReadTimeoutSecs
  | .timeDiffDeltaSecs => c.limits.timeDiffDeltaSecs
  | .maxAttempts => c.rateLimit.maxAttempts
  | .windowSecs => c.rateLimit.windowSecs
  | .cleanupIntervalSecs => c.rateLimit.cleanupIntervalSecs
  | .disabled => c.whitelist.disabled
  | .file => c.whitelist.file
  | .url => c.whitelist.url
  | .refreshIntervalSecs => c.whitelist.refreshIntervalSecs
  | .initialAttempts => c.whitelist.initialAttempts
  | .refreshAttempts => c.whitelist.refreshAttempts
  | .retryBackoffMs => c.whitelist.retryBackoffMs
  | .localPath => c.storage.localPath
  | .memory => c.storage.memory
  | .networkName => c.networkName
  | .verifySignatureDisabled => c.verifySignatureDisabled

/-- The settings with these contents. -/
def ofContents (content : (f : Setting) → f.kind.Content) : IngestConfig where
  http := { host := content .host, port := content .port }
  limits :=
    { maxPayloadSize := content .maxPayloadSize
      bodyReadTimeoutSecs := content .bodyReadTimeoutSecs
      timeDiffDeltaSecs := content .timeDiffDeltaSecs }
  rateLimit :=
    { maxAttempts := content .maxAttempts
      windowSecs := content .windowSecs
      cleanupIntervalSecs := content .cleanupIntervalSecs }
  whitelist :=
    { disabled := content .disabled
      file := content .file
      url := content .url
      refreshIntervalSecs := content .refreshIntervalSecs
      initialAttempts := content .initialAttempts
      refreshAttempts := content .refreshAttempts
      retryBackoffMs := content .retryBackoffMs }
  storage := { localPath := content .localPath, memory := content .memory }
  networkName := content .networkName
  verifySignatureDisabled := content .verifySignatureDisabled

@[simp] theorem ofContents_get (c : IngestConfig) : ofContents c.get = c := rfl

@[simp] theorem get_ofContents (content : (f : Setting) → f.kind.Content) (f : Setting) :
    (ofContents content).get f = content f := by
  cases f <;> rfl

theorem eq_of_get {c d : IngestConfig} (same : ∀ f, c.get f = d.get f) : c = d := by
  rw [← ofContents_get c, ← ofContents_get d, funext same]

/-- The settings as they are if nothing sets them. -/
def defaults : IngestConfig := {}

end IngestConfig

end UptimeIntake
