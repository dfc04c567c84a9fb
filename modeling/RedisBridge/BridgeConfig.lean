import RedisBridge.ClientAddress
import RedisBridge.Lockout
import RedisBridge.SecurityPolicy
import RedisBridge.Targets

/-!
The whole configuration, read from the environment in the order of
`Bridge::from_env`: numbers first, then the trusted proxies, the command sets,
the checks between values, and last the targets.
-/
namespace RedisBridge.BridgeConfig

open ClientAddress Commands EnvVars Fallible Instants RustText Security Targets

structure Bridge where
  host : String
  port : U16
  targets : List Redis
  hashToken : Option String
  security : SecurityPolicy
  maxBodyBytes : Usize
  maxConcurrency : Usize
  maxRealtimeConcurrency : Usize
  requestTimeout : Duration
  acquireTimeout : Duration
  maxResponseBytes : Usize
  metricsToken : Option String
  authLockoutFailures : Usize
  authLockoutWindow : Duration
  authLockoutDuration : Duration
  authLockoutMaxEntries : Usize
  trustProxyHeaders : Bool
  trustedProxies : TrustedProxies

/-- The numbers and the flag at the head of `from_env`, before any check between
them. -/
structure Settings where
  port : U16
  maxBodyBytes : Usize
  maxConcurrency : Usize
  maxRealtimeConcurrency : Usize
  maxPipelineCommands : Usize
  maxCommandArgs : Usize
  maxArgBytes : Usize
  requestTimeoutMs : U64
  acquireTimeoutMs : U64
  maxResponseBytes : Usize
  authLockoutFailures : Usize
  authLockoutWindowSeconds : U64
  authLockoutSeconds : U64
  authLockoutMaxEntries : Usize
  trustProxyHeaders : Bool

def readSettings (env : Env) : Except ConfigError Settings := do
  let port ← parseEnvOrDefault env "RRB_PORT" 8080
  let maxBodyBytes ← parseEnvOrDefault env "RRB_MAX_BODY_BYTES" (1024 * 1024)
  let maxConcurrency ← parseEnvOrDefault env "RRB_MAX_CONCURRENCY" 1024
  let maxRealtimeConcurrency ← parseEnvOrDefault env "RRB_REALTIME_MAX_CONCURRENCY" 1024
  let maxPipelineCommands ← parseEnvOrDefault env "RRB_MAX_PIPELINE_COMMANDS" 1000
  let maxCommandArgs ← parseEnvOrDefault env "RRB_MAX_COMMAND_ARGS" 256
  let maxArgBytes ← parseEnvOrDefault env "RRB_MAX_ARG_BYTES" (256 * 1024)
  let requestTimeoutMs ← parseEnvOrDefault env "RRB_REQUEST_TIMEOUT_MS" 5000
  let acquireTimeoutMs ← parseEnvOrDefault env "RRB_ACQUIRE_TIMEOUT_MS" 100
  let maxResponseBytes ← parseEnvOrDefault env "RRB_MAX_RESPONSE_BYTES" (10 * 1024 * 1024)
  let authLockoutFailures ← parseEnvOrDefault env "RRB_AUTH_LOCKOUT_FAILURES" 10
  let authLockoutWindowSeconds ← parseEnvOrDefault env "RRB_AUTH_LOCKOUT_WINDOW_SECONDS" 300
  let authLockoutSeconds ← parseEnvOrDefault env "RRB_AUTH_LOCKOUT_SECONDS" 300
  let authLockoutMaxEntries ← parseEnvOrDefault env "RRB_AUTH_LOCKOUT_MAX_ENTRIES" 65536
  let trustProxyHeaders ← parseBoolEnv env "RRB_TRUST_PROXY_HEADERS" false
  pure ⟨port, maxBodyBytes, maxConcurrency, maxRealtimeConcurrency, maxPipelineCommands,
    maxCommandArgs, maxArgBytes, requestTimeoutMs, acquireTimeoutMs, maxResponseBytes,
    authLockoutFailures, authLockoutWindowSeconds, authLockoutSeconds, authLockoutMaxEntries,
    trustProxyHeaders⟩

/-- Proxies are read only when their headers are to be believed. -/
def readTrustedProxies (env : Env) (trustProxyHeaders : Bool) :
    Except ConfigError TrustedProxies :=
  if trustProxyHeaders = false then .ok TrustedProxies.noneTrusted
  else do
    let proxies ← match envFirst env ["RRB_TRUSTED_PROXIES"] with
      | some value => asConfigError (TrustedProxies.parse value)
      | none => .ok TrustedProxies.noneTrusted
    bailIf (proxies.entries = []) (.message ("RRB_TRUSTED_PROXIES must include at least one " ++
      "IP or CIDR when RRB_TRUST_PROXY_HEADERS=true"))
    pure proxies

/-- The denied commands less both scoped profiles. -/
def defaultBlockedCommands : Finset String :=
  (parseCommandList deniedCommands).filter
    (fun command => command ∉ ratelimitCommands ++ realtimeCommands)

/-- The allowlist and the block list. -/
def readCommandSets (env : Env) : Except ConfigError (Finset String × Finset String) := do
  let allowed ← parseCsvEnvFirst env ["RRB_ALLOWED_COMMANDS"]
  let extraBlocked ← parseCsvEnvFirst env ["RRB_BLOCKED_COMMANDS"]
  pure (allowed.getD (parseCommandList allowedCommands),
    defaultBlockedCommands ∪ extraBlocked.getD ∅)

/-- A positive failure limit needs a window, a duration and room for an entry. -/
def checkLockout (settings : Settings) : Except ConfigError Unit := do
  bailIf (0 < settings.authLockoutFailures ∧ settings.authLockoutWindowSeconds = 0)
    (.message ("RRB_AUTH_LOCKOUT_WINDOW_SECONDS must be greater than zero " ++
      "when auth lockout is enabled"))
  bailIf (0 < settings.authLockoutFailures ∧ settings.authLockoutSeconds = 0)
    (.message "RRB_AUTH_LOCKOUT_SECONDS must be greater than zero when auth lockout is enabled")
  bailIf (0 < settings.authLockoutFailures ∧ settings.authLockoutMaxEntries = 0)
    (.message
      "RRB_AUTH_LOCKOUT_MAX_ENTRIES must be greater than zero when auth lockout is enabled")

def checkLimits (settings : Settings) : Except ConfigError Unit := do
  bailIf (settings.maxConcurrency = 0)
    (.message "RRB_MAX_CONCURRENCY must be greater than zero")
  bailIf (settings.maxRealtimeConcurrency = 0)
    (.message "RRB_REALTIME_MAX_CONCURRENCY must be greater than zero")
  bailIf (settings.requestTimeoutMs = 0)
    (.message "RRB_REQUEST_TIMEOUT_MS must be greater than zero")
  bailIf (settings.acquireTimeoutMs = 0)
    (.message "RRB_ACQUIRE_TIMEOUT_MS must be greater than zero")
  bailIf (settings.requestTimeoutMs ≤ settings.acquireTimeoutMs)
    (.message "RRB_ACQUIRE_TIMEOUT_MS must be less than RRB_REQUEST_TIMEOUT_MS")
  bailIf (settings.maxResponseBytes = 0)
    (.message "RRB_MAX_RESPONSE_BYTES must be greater than zero")

namespace Bridge

/-- The lockout that `AppState::new` builds from a configuration. -/
def lockout (bridge : Bridge) : Lockout.AuthLockout :=
  ⟨bridge.authLockoutFailures, bridge.authLockoutWindow, bridge.authLockoutDuration,
    bridge.authLockoutMaxEntries⟩

def fromEnv (crates : Crates) (env : Env) : Except ConfigError Bridge := do
  let settings ← readSettings env
  let trustedProxies ← readTrustedProxies env settings.trustProxyHeaders
  let (allowedCommands, blockedCommands) ← readCommandSets env
  checkLockout settings
  let security : SecurityPolicy := ⟨allowedCommands, blockedCommands,
    settings.maxPipelineCommands, settings.maxCommandArgs, settings.maxArgBytes⟩
  asConfigError security.validate
  checkLimits settings
  let targets ← loadTargets crates env
  bailIf (targets = []) (.message "No Redis targets configured")
  pure {
    host := envOr env "RRB_HOST" "0.0.0.0"
    port := settings.port
    targets := targets
    hashToken :=
      if envOr env "RRB_MODE" "file" = "file" then trimmed (envFirst env ["RRB_HASH_TOKEN"])
      else none
    security := security
    maxBodyBytes := settings.maxBodyBytes
    maxConcurrency := settings.maxConcurrency
    maxRealtimeConcurrency := settings.maxRealtimeConcurrency
    requestTimeout := Duration.fromMillis settings.requestTimeoutMs
    acquireTimeout := Duration.fromMillis settings.acquireTimeoutMs
    maxResponseBytes := settings.maxResponseBytes
    metricsToken := trimmed (envFirst env ["RRB_METRICS_TOKEN"])
    authLockoutFailures := settings.authLockoutFailures
    authLockoutWindow := Duration.fromSecs settings.authLockoutWindowSeconds
    authLockoutDuration := Duration.fromSecs settings.authLockoutSeconds
    authLockoutMaxEntries := settings.authLockoutMaxEntries
    trustProxyHeaders := settings.trustProxyHeaders
    trustedProxies := trustedProxies }

/-- The parts of an accepted configuration, each with the check it passed. -/
theorem fromEnv_cases (crates : Crates) (env : Env) (bridge : Bridge)
    (h : fromEnv crates env = .ok bridge) :
    ∃ settings proxies allowed blocked,
      readSettings env = .ok settings ∧
      readTrustedProxies env settings.trustProxyHeaders = .ok proxies ∧
      readCommandSets env = .ok (allowed, blocked) ∧
      checkLockout settings = .ok () ∧
      bridge.security.validate = .ok () ∧
      loadTargets crates env = .ok bridge.targets ∧
      bridge.security = ⟨allowed, blocked, settings.maxPipelineCommands,
        settings.maxCommandArgs, settings.maxArgBytes⟩ ∧
      bridge.authLockoutFailures = settings.authLockoutFailures ∧
      bridge.authLockoutWindow = Duration.fromSecs settings.authLockoutWindowSeconds ∧
      bridge.authLockoutDuration = Duration.fromSecs settings.authLockoutSeconds ∧
      bridge.authLockoutMaxEntries = settings.authLockoutMaxEntries := by
  simp only [fromEnv, bind_eq_ok, pure_eq_ok] at h
  obtain ⟨settings, hsettings, proxies, hproxies, ⟨allowed, blocked⟩, hsets, _, hlockout, _,
    hvalid, _, _, targets, htargets, _, _, rfl⟩ := h
  exact ⟨settings, proxies, allowed, blocked, hsettings, hproxies, hsets, hlockout,
    (mapError_eq_ok _ _ _).mp hvalid, htargets, rfl, rfl, rfl, rfl, rfl⟩

end Bridge

/-- The SHA-256 digest of the text `abc`, in front of crates that are not asked
for anything else. -/
def abcCrates : Crates where
  sha256 := fun _ => #v[0xBA, 0x78, 0x16, 0xBF, 0x8F, 0x01, 0xCF, 0xEA, 0x41, 0x41, 0x40, 0xDE,
    0x5D, 0xAE, 0x22, 0x23, 0xB0, 0x03, 0x61, 0xA3, 0x96, 0x17, 0x7A, 0x9C, 0xB4, 0x10, 0xFF,
    0x61, 0xF2, 0x00, 0x15, 0xAD]
  hmacSha256 := fun _ _ => Vector.replicate 32 0
  decodeHex := fun _ => none
  decodeFileConfig := fun _ => .error "EOF while parsing a value at line 1 column 0"

/-- The variables of a bridge in env mode with the token `abc`. -/
def envMode : List (String × String) :=
  [("RRB_MODE", "env"), ("RRB_TOKEN", "abc"), ("RRB_CONNECTION_STRING", "redis://localhost")]

end RedisBridge.BridgeConfig
