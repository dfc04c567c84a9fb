import RedisBridge.BridgeConfig
import RedisBridge.Responses

/-!
The state behind the routes. The fixed part is built once from a configuration:
the targets, the table that routes an enabled digest to its target and
capabilities, and the limits. What requests change is kept apart: the lockout
table under its mutex, and the metrics.
-/
namespace RedisBridge.App

open AssocTables BridgeConfig ClientAddress Fallible Instants IpAddress Lockout RustText
open Security Targets TokenType

/-- Counters by label; the gauges that the lockout sets. -/
structure Metrics where
  authFailedTotal : ℕ
  authLockoutsTotal : ℕ
  authLockedRequestsTotal : ℕ
  authLockoutEntryLimitTotal : ℕ
  authLockoutTrackedIps : ℕ
  authLockoutLockedIps : ℕ
  requestDeniedTotal : String → String → ℕ
  commandDeniedTotal : String → String → ℕ
  redisOperationsTotal : String → String → String → ℕ
  redisOperationDuration : String → String → ℕ
  redisOperationsInflight : String → String → ℤ

namespace Metrics

def new : Metrics :=
  ⟨0, 0, 0, 0, 0, 0, fun _ _ => 0, fun _ _ => 0, fun _ _ _ => 0, fun _ _ => 0, fun _ _ => 0⟩

def authFailed (metrics : Metrics) : Metrics :=
  { metrics with authFailedTotal := metrics.authFailedTotal + 1 }

def lockoutCreated (metrics : Metrics) : Metrics :=
  { metrics with authLockoutsTotal := metrics.authLockoutsTotal + 1 }

def lockedRequest (metrics : Metrics) : Metrics :=
  { metrics with authLockedRequestsTotal := metrics.authLockedRequestsTotal + 1 }

def lockoutEntryLimit (metrics : Metrics) : Metrics :=
  { metrics with authLockoutEntryLimitTotal := metrics.authLockoutEntryLimitTotal + 1 }

def setLockoutState (metrics : Metrics) (counts : AuthSnapshot) : Metrics :=
  { metrics with
    authLockoutTrackedIps := counts.trackedIps
    authLockoutLockedIps := counts.lockedIps }

/-- One more at a pair of labels. -/
def bump (count : String → String → ℕ) (first second : String) : String → String → ℕ :=
  fun a b => if a = first ∧ b = second then count a b + 1 else count a b

def requestDenied (metrics : Metrics) (route reason : String) : Metrics :=
  { metrics with requestDeniedTotal := bump metrics.requestDeniedTotal route reason }

def commandDenied (metrics : Metrics) (target kind : String) : Metrics :=
  { metrics with commandDeniedTotal := bump metrics.commandDeniedTotal target kind }

/-- The gauge of a target and kind moves by `change`. -/
def moveInflight (metrics : Metrics) (target kind : String) (change : ℤ) : Metrics :=
  { metrics with redisOperationsInflight := fun a b =>
      if a = target ∧ b = kind then metrics.redisOperationsInflight a b + change
      else metrics.redisOperationsInflight a b }

def beginOperation (metrics : Metrics) (target kind : String) : Metrics :=
  metrics.moveInflight target kind 1

/-- The guard of an operation ends: its outcome is counted, the gauge falls, the
duration is observed. -/
def endOperation (metrics : Metrics) (target kind outcome : String) : Metrics :=
  let metrics := metrics.moveInflight target kind (-1)
  { metrics with
    redisOperationsTotal := fun a b c =>
      if a = target ∧ b = kind ∧ c = outcome then metrics.redisOperationsTotal a b c + 1
      else metrics.redisOperationsTotal a b c
    redisOperationDuration := bump metrics.redisOperationDuration target kind }

end Metrics

/-- A route names its target by its position among the targets, which stands for
the shared reference to it. -/
structure AuthRoute where
  target : ℕ
  tokenType : TokenCaps
  deriving DecidableEq

def AuthRoute.allowsCommandRoute (route : AuthRoute) : Bool := route.tokenType.allowsCommandRoute

def AuthRoute.allowsRealtime (route : AuthRoute) : Bool := route.tokenType.allowsRealtime

structure AppState where
  targets : List Redis
  tokenRoutes : Table TokenHash AuthRoute
  security : SecurityPolicy
  requestTimeout : Duration
  acquireTimeout : Duration
  maxResponseBytes : Usize
  metricsToken : Option String
  hashToken : Option String
  authLockout : AuthLockout
  trustProxyHeaders : Bool
  trustedProxies : TrustedProxies
  realtimeLimit : Usize

/-- Why the state is not built. The last two are panics, of the vector of shard
channels and of the semaphore. -/
inductive StartupError
  | operationLimitZero (rrbId : String)
  | connectionShardsZero (rrbId : String)
  | invalidUrl (rrbId error : String)
  | duplicateTokenHash
  | capacityOverflow
  | tooManyPermits
  deriving DecidableEq

def StartupError.text : StartupError → String
  | .operationLimitZero rrbId => s!"Redis target {rrbId} has operation_limit=0"
  | .connectionShardsZero rrbId => s!"Redis target {rrbId} has connection_shards=0"
  | .invalidUrl rrbId _ => s!"Invalid Redis URL for target {rrbId}"
  | .duplicateTokenHash => "Duplicate enabled token hash configured"
  | .capacityOverflow => "capacity overflow"
  | .tooManyPermits => "a semaphore may not have more than MAX_PERMITS permits"

/-- The channels of shards that a `Vec` can be made for: `isize::MAX` bytes of
senders, each one pointer wide. -/
def maxChannels : ℕ := (2 ^ 63 - 1) / 8

/-- `Semaphore::MAX_PERMITS`. -/
def maxPermits : ℕ := usizeMax / 8

namespace AppState

/-- The digest is inserted, and found to be taken afterwards. -/
def routeToken (target : ℕ) (routes : Table TokenHash AuthRoute) (token : AuthToken) :
    Except StartupError (Table TokenHash AuthRoute) :=
  if token.enabled = true then do
    bailIf ((routes.lookup token.hash).isSome = true) .duplicateTokenHash
    pure (routes.insert token.hash ⟨target, token.tokenType⟩)
  else pure routes

/-- The opener of a Redis URL is the client library's. -/
def addTarget (openClient : String → Except String Unit)
    (acc : List Redis × Table TokenHash AuthRoute) (target : Redis) :
    Except StartupError (List Redis × Table TokenHash AuthRoute) := do
  bailIf (target.operationLimit = 0) (.operationLimitZero target.rrbId)
  bailIf (target.connectionShards = 0) (.connectionShardsZero target.rrbId)
  (openClient target.connectionString).mapError (.invalidUrl target.rrbId)
  -- The channels are collected before the semaphore is made.
  bailIf (maxChannels < target.connectionShards.val) .capacityOverflow
  bailIf (maxPermits < target.operationLimit.val) .tooManyPermits
  let routes ← target.tokens.foldlM (routeToken acc.1.length) acc.2
  pure (acc.1 ++ [target], routes)

def new (openClient : String → Except String Unit) (config : Bridge) :
    Except StartupError AppState := do
  let (targets, tokenRoutes) ← config.targets.foldlM (addTarget openClient) ([], ∅)
  bailIf (maxPermits < config.maxRealtimeConcurrency.val) .tooManyPermits
  pure {
    targets := targets
    tokenRoutes := tokenRoutes
    security := config.security
    requestTimeout := config.requestTimeout
    acquireTimeout := config.acquireTimeout
    maxResponseBytes := config.maxResponseBytes
    metricsToken := config.metricsToken
    hashToken := config.hashToken
    authLockout := config.lockout
    trustProxyHeaders := config.trustProxyHeaders
    trustedProxies := config.trustedProxies
    realtimeLimit := config.maxRealtimeConcurrency }

def clientIp (state : AppState) (headers : HeaderMap) (peer : IpAddr) : IpAddr :=
  if state.trustProxyHeaders = false then peer else state.trustedProxies.resolve headers peer

def base64 (headers : HeaderMap) : Bool :=
  match (headers "upstash-encoding").bind toStr with
  | some value => (split ',' value).any (fun entry => eqIgnoreAsciiCase (trim entry) "base64")
  | none => false

end AppState

/-- What requests change. -/
structure Cells where
  lockout : Guarded
  metrics : Metrics

/-- A piece of a request's work: it panics or yields, and leaves the cells. -/
abbrev Step (α : Type) := Except Panic α × Cells

def Step.andThen {α β : Type} (step : Step α) (next : α → Cells → Step β) : Step β :=
  match step with
  | (.ok result, cells) => next result cells
  | (.error panic, cells) => (.error panic, cells)

/-- Work that yields has a first part that yields and a rest that does. -/
theorem Step.andThen_eq_ok {α β : Type} (step : Step α) (next : α → Cells → Step β) (b : β)
    (cells' : Cells) :
    step.andThen next = (.ok b, cells') ↔
      ∃ a cells, step = (.ok a, cells) ∧ next a cells = (.ok b, cells') := by
  obtain ⟨result, cells⟩ := step
  cases result with
  | error panic => simp [Step.andThen]
  | ok a =>
    constructor
    · intro h
      exact ⟨a, cells, rfl, h⟩
    · rintro ⟨a', cells', hstep, h⟩
      cases hstep
      exact h

end RedisBridge.App
