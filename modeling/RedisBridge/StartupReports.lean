import Mathlib.Logic.Equiv.Basic
import RedisBridge.FallibleRelations
import RedisBridge.HexText
import RedisBridge.TargetIsolation
import RedisBridge.TrimmedText

/-!
What the bridge says about itself when it starts: the error it stops with, or the
Debug output of its configuration, of its targets and tokens, and of the state
built from it. Two environments that differ in their secrets only, the tokens, the
hash keys, the connection strings and the digests of the token file, start with
the same report, as long as the connection strings open alike and a token file
that is not decoded fails with the same error of the decoder.
-/
namespace RedisBridge.StartupReports

open App AssocTables BridgeConfig ClientAddress EnvVars Fallible FallibleRelations HexText Instants
open RustText Security Targets TokenType

/-! Debug output, field by field. -/

inductive Shown
  | text (value : String)
  | optional (value : Option String)
  | number (value : ℕ)
  | flag (value : Bool)
  | duration (value : Duration)
  | record (name : String) (fields : List (String × Shown))

def configValue (tokenType : TokenCaps) : String :=
  ",".intercalate ((if tokenType.command then ["command"] else []) ++
    (if tokenType.ratelimit then ["ratelimit"] else []) ++
    if tokenType.realtime then ["realtime"] else [])

def shownHash (_ : TokenHash) : Shown :=
  .record "TokenHash" [("algorithm", .text "hmac-sha256"), ("digest", .text "[redacted]")]

def shownToken (token : AuthToken) : Shown :=
  .record "AuthToken" [("id", .text token.id), ("name", .optional token.name),
    ("hash", shownHash token.hash), ("enabled", .flag token.enabled),
    ("token_type", .text (configValue token.tokenType))]

def shownRedis (target : Redis) : Shown :=
  .record "Redis" [("rrb_id", .text target.rrbId), ("connection_string", .text "[redacted]"),
    ("operation_limit", .number target.operationLimit.val),
    ("connection_shards", .number target.connectionShards.val),
    ("token_count", .number target.tokens.length)]

def shownPolicy (security : SecurityPolicy) : Shown :=
  .record "SecurityPolicy" [
    ("allowed_command_count", .number security.allowedCommands.card),
    ("blocked_command_count", .number security.blockedCommands.card),
    ("max_pipeline_commands", .number security.maxPipelineCommands.val),
    ("max_command_args", .number security.maxCommandArgs.val),
    ("max_arg_bytes", .number security.maxArgBytes.val)]

def shownBridge (bridge : Bridge) : Shown :=
  .record "Bridge" [("host", .text bridge.host), ("port", .number bridge.port.val),
    ("target_count", .number bridge.targets.length), ("security", shownPolicy bridge.security),
    ("max_body_bytes", .number bridge.maxBodyBytes.val),
    ("max_concurrency", .number bridge.maxConcurrency.val),
    ("max_realtime_concurrency", .number bridge.maxRealtimeConcurrency.val),
    ("request_timeout", .duration bridge.requestTimeout),
    ("acquire_timeout", .duration bridge.acquireTimeout),
    ("max_response_bytes", .number bridge.maxResponseBytes.val),
    ("metrics_token_configured", .flag bridge.metricsToken.isSome),
    ("auth_lockout_failures", .number bridge.authLockoutFailures.val),
    ("auth_lockout_window", .duration bridge.authLockoutWindow),
    ("auth_lockout_duration", .duration bridge.authLockoutDuration),
    ("auth_lockout_max_entries", .number bridge.authLockoutMaxEntries.val),
    ("trust_proxy_headers", .flag bridge.trustProxyHeaders),
    ("trusted_proxy_count", .number bridge.trustedProxies.entries.length)]

/-- A target of the state, with the shards that are connected. -/
def shownTarget (target : Redis) (initialized : ℕ) : Shown :=
  .record "RedisTarget" [("rrb_id", .text target.rrbId),
    ("connection_string", .text "[redacted]"),
    ("operation_limit", .number target.operationLimit.val),
    ("connection_shards", .number target.connectionShards.val),
    ("connections_initialized", .number initialized)]

/-- The state, with the permits that are left. -/
def shownState (state : AppState) (permits : ℕ) : Shown :=
  .record "AppState" [("target_count", .number state.targets.length),
    ("security", shownPolicy state.security), ("request_timeout", .duration state.requestTimeout),
    ("acquire_timeout", .duration state.acquireTimeout),
    ("max_response_bytes", .number state.maxResponseBytes.val),
    ("trust_proxy_headers", .flag state.trustProxyHeaders),
    ("trusted_proxy_count", .number state.trustedProxies.entries.length),
    ("realtime_permits_available", .number permits)]

/-- Everything that the bridge says of itself when it has started. -/
structure Report where
  bridge : Shown
  targets : List Shown
  tokens : List Shown
  state : Shown
  connections : List Shown

inductive StartFailure
  | config (error : ConfigError)
  | state (error : StartupError)

/-- The start of the bridge up to its first workers, as it shows. The address to
bind, which `main` reads from the host and the port in between, is left out. -/
def report (crates : Crates) (openClient : String → Except String Unit) (env : Env) :
    Except StartFailure Report := do
  let bridge ← (Bridge.fromEnv crates env).mapError .config
  let state ← (AppState.new openClient bridge).mapError .state
  pure {
    bridge := shownBridge bridge
    targets := bridge.targets.map shownRedis
    tokens := bridge.targets.flatMap fun target => target.tokens.map shownToken
    state := shownState state state.realtimeLimit.val
    connections := state.targets.map fun target => shownTarget target 0 }

/-! Environments that differ in their secrets. -/

/-- The variables that hold secrets. -/
def secretVars : List String :=
  ["RRB_TOKEN", "RRB_HASH_TOKEN", "RRB_METRICS_TOKEN", "RRB_CONNECTION_STRING", "REDIS_URL"]

/-- Whether a variable is set, and if so whether to a blank. -/
def blankness (value : Except VarError String) : Option Bool :=
  value.toOption.map fun value => decide (trim value = "")

variable (crates : Crates) (openClient : String → Except String Unit)
  (rename : TokenHash ↪ TokenHash)

/-- Connection strings that open alike. -/
def OpenAlike (connection connection' : String) : Prop :=
  (connection = "" ↔ connection' = "") ∧ openClient connection = openClient connection'

structure TokenAlike (token token' : FileAuthToken) : Prop where
  id : token'.id = token.id
  name : token'.name = token.name
  enabled : token'.enabled = token.enabled
  tokenType : token'.tokenType = token.tokenType
  hash : TokenHash.hmacSha256Parse crates token'.hash =
    (TokenHash.hmacSha256Parse crates token.hash).map rename

structure TargetAlike (target target' : FileTarget) : Prop where
  rrbId : target'.rrbId = target.rrbId
  operationLimit : target'.operationLimit = target.operationLimit
  connectionShards : target'.connectionShards = target.connectionShards
  connection : OpenAlike openClient (trim target.connectionString) (trim target'.connectionString)
  tokens : List.Forall₂ (TokenAlike crates rename) target.tokens target'.tokens

structure FileAlike (config config' : FileConfig) : Prop where
  version : config'.version = config.version
  targets : List.Forall₂ (TargetAlike crates openClient rename) config.targets config'.targets

/-- The environments differ in secrets only: their variables outside the secrets
are the same, the secrets are set alike, and what is decoded of their files is
alike up to a renaming of the digests. The error of the decoder tells the place
and the value it stops at, so it has to be the same. -/
structure EnvAlike (env env' : Env) : Prop where
  plain : ∀ key, key ∉ secretVars → env'.var key = env.var key
  secret : ∀ key ∈ secretVars, blankness (env'.var key) = blankness (env.var key)
  token : ∀ token token', trimmed (envFirst env ["RRB_TOKEN"]) = some token →
    trimmed (envFirst env' ["RRB_TOKEN"]) = some token' →
    TokenHash.sha256 crates token' = rename (TokenHash.sha256 crates token)
  connection : ∀ connection connection',
    trimmed (envFirst env ["RRB_CONNECTION_STRING", "REDIS_URL"]) = some connection →
    trimmed (envFirst env' ["RRB_CONNECTION_STRING", "REDIS_URL"]) = some connection' →
    openClient connection = openClient connection'
  file : ∀ path, Agrees (fun data data' => Agrees (FileAlike crates openClient rename)
      (crates.decodeFileConfig data) (crates.decodeFileConfig data'))
    (env.readToString path) (env'.readToString path)

/-! What is read of the variables. -/

theorem trimmed_trimmed (value : Option String) : trimmed (trimmed value) = trimmed value := by
  cases hvalue : trimmed value with
  | none => rfl
  | some text =>
    obtain ⟨hmapped, hfilled⟩ := Option.filter_eq_some_iff.mp hvalue
    obtain ⟨raw, -, rfl⟩ := Option.map_eq_some_iff.mp hmapped
    have hclear := TrimmedText.clear_trimMatches isWhitespace raw
    have hagain : trim (trim raw) = trim raw :=
      TrimmedText.trimMatches_of_clear isWhitespace _ hclear
    rw [trimmed, Option.map_some, hagain]
    exact Option.filter_some_pos hfilled

section Variables

variable {crates openClient rename} {env env' : Env}
  (halike : EnvAlike crates openClient rename env env')

include halike

theorem readSettings_alike : readSettings env' = readSettings env := by
  simp (disch := decide) only [readSettings, parseEnvOrDefault, parseBoolEnv, halike.plain]

theorem readTrustedProxies_alike (trustProxyHeaders : Bool) :
    readTrustedProxies env' trustProxyHeaders = readTrustedProxies env trustProxyHeaders := by
  simp (disch := decide) only [readTrustedProxies, envFirst, List.findSome?_cons,
    List.findSome?_nil, halike.plain]

theorem readCommandSets_alike : readCommandSets env' = readCommandSets env := by
  simp (disch := decide) only [readCommandSets, parseCsvEnvFirst, halike.plain]

theorem envOr_alike (key fallback : String) (hplain : key ∉ secretVars) :
    envOr env' key fallback = envOr env key fallback := by
  rw [envOr, envOr, halike.plain key hplain]

/-- The first secret that is set is blank or not in both. -/
theorem envFirst_alike (keys : List String) (hsecret : ∀ key ∈ keys, key ∈ secretVars) :
    (envFirst env' keys).map (fun value => decide (trim value = "")) =
      (envFirst env keys).map (fun value => decide (trim value = "")) := by
  induction keys with
  | nil => rfl
  | cons key rest ih =>
    have hkey := halike.secret key (hsecret key List.mem_cons_self)
    have hrest := ih (fun other hother => hsecret other (List.mem_cons_of_mem key hother))
    unfold blankness at hkey
    unfold envFirst at hrest ⊢
    rw [List.findSome?_cons, List.findSome?_cons]
    cases hvalue : (env.var key).toOption with
    | none =>
      rw [hvalue, Option.map_none, Option.map_eq_none_iff] at hkey
      rw [hkey]
      exact hrest
    | some value =>
      rw [hvalue] at hkey
      obtain ⟨value', hvalue', _⟩ := Option.map_eq_some_iff.mp hkey
      rw [hvalue'] at hkey ⊢
      exact hkey

theorem trimmed_alike (keys : List String) (hsecret : ∀ key ∈ keys, key ∈ secretVars) :
    (trimmed (envFirst env' keys)).isSome = (trimmed (envFirst env keys)).isSome := by
  have hsome (value : Option String) : (trimmed value).isSome =
      (value.map (fun text => decide (trim text = "")) == some false) := by
    cases value with
    | none => rfl
    | some text => by_cases hblank : trim text = "" <;> simp [trimmed, hblank]
  rw [hsome, hsome, envFirst_alike halike keys hsecret]

end Variables

/-! The targets. -/

def renamedToken (token : AuthToken) : AuthToken := { token with hash := rename token.hash }

/-- Configured targets that differ in their connection strings and digests. -/
structure RedisAlike (target target' : Redis) : Prop where
  rrbId : target'.rrbId = target.rrbId
  operationLimit : target'.operationLimit = target.operationLimit
  connectionShards : target'.connectionShards = target.connectionShards
  connection : openClient target'.connectionString = openClient target.connectionString
  tokens : target'.tokens = target.tokens.map (renamedToken rename)

/-- What was seen of the token file, up to the renaming. -/
def renamed (seen : Seen) : Seen :=
  { seen with tokenHashes := seen.tokenHashes.map rename }

theorem parseFileToken_alike (rrbId : String) (acc : Seen × List AuthToken)
    (token token' : FileAuthToken) (htoken : TokenAlike crates rename token token') :
    Agrees (fun next next' => next' = (renamed rename next.1, next.2.map (renamedToken rename)))
      (parseFileToken crates rrbId acc token)
      (parseFileToken crates rrbId (renamed rename acc.1, acc.2.map (renamedToken rename))
        token') := by
  unfold parseFileToken
  rw [htoken.id, htoken.name, htoken.enabled, htoken.tokenType]
  refine Agrees.bind (agrees_bailIf _ _ _ Iff.rfl) ?_
  rintro _ _ rfl
  refine Agrees.bind (agrees_bailIf _ _ _ Iff.rfl) ?_
  rintro _ _ rfl
  refine Agrees.bind (agrees_of_eq _ _ rfl) ?_
  rintro tokenType _ rfl
  have hhash : Agrees (fun hash hash' => hash' = rename hash)
      (asConfigError (TokenHash.hmacSha256Parse crates token.hash))
      (asConfigError (TokenHash.hmacSha256Parse crates token'.hash)) := by
    rw [htoken.hash]
    unfold asConfigError
    cases TokenHash.hmacSha256Parse crates token.hash with
    | error message => exact rfl
    | ok hash => exact rfl
  refine Agrees.bind hhash ?_
  rintro hash _ rfl
  by_cases hdisabled : token.enabled = false
  · rw [if_pos hdisabled, if_pos hdisabled]
    simp [Agrees, pure, Except.pure, renamed, renamedToken]
  · rw [if_neg hdisabled, if_neg hdisabled]
    refine Agrees.bind (agrees_bailIf _ _ _ ?_) ?_
    · exact (Finset.mem_map' rename).symm
    · rintro _ _ rfl
      simp [Agrees, pure, Except.pure, renamed, renamedToken]

theorem parseFileTarget_alike (acc acc' : Seen × List Redis) (target target' : FileTarget)
    (hacc : acc'.1 = renamed rename acc.1 ∧
      List.Forall₂ (RedisAlike openClient rename) acc.2 acc'.2)
    (htarget : TargetAlike crates openClient rename target target') :
    Agrees (fun next next' => next'.1 = renamed rename next.1 ∧
        List.Forall₂ (RedisAlike openClient rename) next.2 next'.2)
      (parseFileTarget crates acc target) (parseFileTarget crates acc' target') := by
  obtain ⟨hseen, htargets⟩ := hacc
  obtain ⟨hblank, hopen⟩ := htarget.connection
  have hchecks : Agrees Eq
      (checkFileTarget acc.1 (trim target.rrbId) (trim target.connectionString) target)
      (checkFileTarget acc'.1 (trim target.rrbId) (trim target'.connectionString) target') := by
    have htokens : target'.tokens = [] ↔ target.tokens = [] := by
      rw [← List.length_eq_zero_iff, ← List.length_eq_zero_iff, htarget.tokens.length_eq]
    rw [hseen]
    unfold checkFileTarget
    rw [htarget.operationLimit, htarget.connectionShards]
    refine Agrees.bind (agrees_bailIf _ _ _ Iff.rfl) ?_
    rintro _ _ rfl
    refine Agrees.bind (agrees_bailIf _ _ _ Iff.rfl) ?_
    rintro _ _ rfl
    refine Agrees.bind (agrees_bailIf _ _ _ hblank) ?_
    rintro _ _ rfl
    refine Agrees.bind (agrees_bailIf _ _ _ Iff.rfl) ?_
    rintro _ _ rfl
    refine Agrees.bind (agrees_bailIf _ _ _ Iff.rfl) ?_
    rintro _ _ rfl
    exact agrees_bailIf _ _ _ htokens.symm
  unfold parseFileTarget
  rw [htarget.rrbId]
  refine Agrees.bind hchecks ?_
  rintro _ _ rfl
  let Follows : Seen × List AuthToken → Seen × List AuthToken → Prop := fun next next' =>
    next' = (renamed rename next.1, next.2.map (renamedToken rename))
  have htokens : Agrees Follows
      (target.tokens.foldlM (parseFileToken crates (trim target.rrbId))
        ({ acc.1 with rrbIds := insert (trim target.rrbId) acc.1.rrbIds }, []))
      (target'.tokens.foldlM (parseFileToken crates (trim target.rrbId))
        ({ acc'.1 with rrbIds := insert (trim target.rrbId) acc'.1.rrbIds }, [])) := by
    apply Agrees.foldlM (P := TokenAlike crates rename) _ htarget.tokens
    · rw [hseen]
      rfl
    · rintro next _ token token' rfl htoken
      exact parseFileToken_alike crates rename _ next token token' htoken
  refine Agrees.bind htokens ?_
  rintro next _ rfl
  refine Agrees.bind (agrees_bailIf _ _ _ ?_) ?_
  · simp [renamedToken, List.all_map]
  · rintro _ _ rfl
    refine ⟨rfl, List.rel_append htargets (List.Forall₂.cons ?_ .nil)⟩
    exact ⟨rfl, htarget.operationLimit, htarget.connectionShards, hopen.symm, rfl⟩

theorem parseFileTargets_alike (data data' : String) (key key' : Option String)
    (hkey : (trimmed key').isSome = (trimmed key).isSome)
    (hdecoded : Agrees (FileAlike crates openClient rename) (crates.decodeFileConfig data)
      (crates.decodeFileConfig data')) :
    Agrees (List.Forall₂ (RedisAlike openClient rename)) (parseFileTargets crates data key)
      (parseFileTargets crates data' key') := by
  unfold parseFileTargets
  have hpresent : Option.Rel (fun _ _ => True) (trimmed key) (trimmed key') :=
    rel_of_isSome _ _ _ hkey (fun _ _ _ _ => trivial)
  refine Agrees.bind (agrees_okOr _ _ _ _ hpresent) ?_
  intro _ _ _
  refine Agrees.bind (Agrees.mapError hdecoded ConfigError.message) ?_
  intro config config' hconfig
  rw [hconfig.version]
  refine Agrees.bind (agrees_bailIf _ _ _ Iff.rfl) ?_
  rintro _ _ rfl
  have hempty : config.targets = [] ↔ config'.targets = [] := by
    rw [← List.length_eq_zero_iff, ← List.length_eq_zero_iff, hconfig.targets.length_eq]
  refine Agrees.bind (agrees_bailIf _ _ _ hempty) ?_
  rintro _ _ rfl
  have hfold := Agrees.foldlM
    (fun acc acc' target target' => parseFileTarget_alike crates openClient rename acc acc' target
      target') hconfig.targets
    (show (Seen.nothing, ([] : List Redis)).1 = renamed rename (Seen.nothing, ([] : List Redis)).1 ∧
      List.Forall₂ (RedisAlike openClient rename) [] [] from ⟨rfl, .nil⟩)
  refine Agrees.bind hfold ?_
  intro next next' hnext
  exact hnext.2

section Loading

variable {crates openClient rename} {env env' : Env}
  (halike : EnvAlike crates openClient rename env env')

include halike

theorem loadEnvTarget_alike :
    Agrees (List.Forall₂ (RedisAlike openClient rename)) (loadEnvTarget crates env)
      (loadEnvTarget crates env') := by
  have htoken := rel_of_isSome (fun token token' => TokenHash.sha256 crates token' =
      rename (TokenHash.sha256 crates token)) _ _
    (trimmed_alike halike ["RRB_TOKEN"] (by decide)) halike.token
  have hconnection := rel_of_isSome (fun connection connection' =>
      openClient connection = openClient connection') _ _
    (trimmed_alike halike ["RRB_CONNECTION_STRING", "REDIS_URL"] (by decide)) halike.connection
  unfold loadEnvTarget
  refine Agrees.bind (agrees_okOr _ _ _ _ htoken) ?_
  intro token token' hdigest
  refine Agrees.bind (agrees_okOr _ _ _ _ hconnection) ?_
  intro connection connection' hopen
  simp (disch := decide) only [parseEnvFirst, envFirst, List.findSome?_cons, List.findSome?_nil,
    halike.plain]
  refine Agrees.bind (agrees_of_eq _ _ rfl) ?_
  rintro operationLimit _ rfl
  refine Agrees.bind (agrees_of_eq _ _ rfl) ?_
  rintro connectionShards _ rfl
  refine Agrees.bind (agrees_of_eq _ _ rfl) ?_
  rintro tokenType _ rfl
  refine Agrees.bind (agrees_bailIf _ _ _ Iff.rfl) ?_
  rintro _ _ rfl
  refine Agrees.bind (agrees_bailIf _ _ _ Iff.rfl) ?_
  rintro _ _ rfl
  refine List.Forall₂.cons ⟨rfl, rfl, rfl, hopen.symm, ?_⟩ .nil
  rw [hdigest]
  rfl

theorem loadFileTargets_alike :
    Agrees (List.Forall₂ (RedisAlike openClient rename)) (loadFileTargets crates env)
      (loadFileTargets crates env') := by
  have hkey := trimmed_alike halike ["RRB_HASH_TOKEN"] (by decide)
  unfold loadFileTargets
  have hpath : envFirst env' ["RRB_CONFIG_FILE", "TOKEN_RESOLUTION_FILE_PATH"] =
      envFirst env ["RRB_CONFIG_FILE", "TOKEN_RESOLUTION_FILE_PATH"] := by
    simp (disch := decide) only [envFirst, List.findSome?_cons, List.findSome?_nil, halike.plain]
  rw [hpath]
  refine Agrees.bind (Agrees.mapError (halike.file _) _) ?_
  intro data data' hdecoded
  refine Agrees.mapError (parseFileTargets_alike crates openClient rename data data' _ _ ?_
    hdecoded) _
  rw [trimmed_trimmed, trimmed_trimmed]
  exact hkey

theorem loadTargets_alike :
    Agrees (List.Forall₂ (RedisAlike openClient rename)) (loadTargets crates env)
      (loadTargets crates env') := by
  unfold loadTargets
  rw [envOr_alike halike "RRB_MODE" "file" (by decide)]
  dsimp only
  split
  · exact loadEnvTarget_alike halike
  · split
    · exact loadFileTargets_alike halike
    · exact rfl

end Loading

/-! The bridge and its state. -/

/-- Configurations that differ in their secrets. -/
def BridgeAlike (bridge bridge' : Bridge) : Prop :=
  ∃ targets hashToken metricsToken,
    bridge' = { bridge with
      targets := targets
      hashToken := hashToken
      metricsToken := metricsToken } ∧
    List.Forall₂ (RedisAlike openClient rename) bridge.targets targets ∧
    metricsToken.isSome = bridge.metricsToken.isSome

theorem fromEnv_alike {env env' : Env} (halike : EnvAlike crates openClient rename env env') :
    Agrees (BridgeAlike openClient rename) (Bridge.fromEnv crates env)
      (Bridge.fromEnv crates env') := by
  have hmetrics := trimmed_alike halike ["RRB_METRICS_TOKEN"] (by decide)
  unfold Bridge.fromEnv
  rw [readSettings_alike halike, readCommandSets_alike halike,
    envOr_alike halike "RRB_HOST" "0.0.0.0" (by decide),
    envOr_alike halike "RRB_MODE" "file" (by decide)]
  refine Agrees.bind (agrees_of_eq _ _ rfl) ?_
  rintro settings _ rfl
  rw [readTrustedProxies_alike halike]
  refine Agrees.bind (agrees_of_eq _ _ rfl) ?_
  rintro proxies _ rfl
  refine Agrees.bind (agrees_of_eq _ _ rfl) ?_
  rintro ⟨allowed, blocked⟩ _ rfl
  refine Agrees.bind (agrees_of_eq _ _ rfl) ?_
  rintro _ _ rfl
  refine Agrees.bind (agrees_of_eq _ _ rfl) ?_
  rintro _ _ rfl
  refine Agrees.bind (agrees_of_eq _ _ rfl) ?_
  rintro _ _ rfl
  refine Agrees.bind (loadTargets_alike halike) ?_
  intro targets targets' htargets
  have hempty : targets = [] ↔ targets' = [] := by
    rw [← List.length_eq_zero_iff, ← List.length_eq_zero_iff, htargets.length_eq]
  refine Agrees.bind (agrees_bailIf _ _ _ hempty) ?_
  rintro _ _ rfl
  exact ⟨targets', _, _, rfl, htargets, hmetrics⟩

/-- Routing tables with the same entries under renamed digests. -/
def RoutesAlike (routes routes' : Table TokenHash AuthRoute) : Prop :=
  ∀ hash, routes'.lookup (rename hash) = routes.lookup hash

theorem routeToken_alike (target : ℕ) (routes routes' : Table TokenHash AuthRoute)
    (token : AuthToken) (hroutes : RoutesAlike rename routes routes') :
    Agrees (RoutesAlike rename) (AppState.routeToken target routes token)
      (AppState.routeToken target routes' (renamedToken rename token)) := by
  unfold AppState.routeToken renamedToken
  dsimp only
  split
  · rw [hroutes]
    refine Agrees.bind (agrees_bailIf _ _ _ Iff.rfl) ?_
    rintro _ _ rfl
    intro hash
    by_cases hsame : hash = token.hash
    · subst hsame
      rw [AList.lookup_insert, AList.lookup_insert]
    · rw [AList.lookup_insert_ne hsame,
        AList.lookup_insert_ne (fun heq => hsame (rename.injective heq))]
      exact hroutes hash
  · exact hroutes

theorem addTarget_alike (acc acc' : List Redis × Table TokenHash AuthRoute)
    (target target' : Redis)
    (hacc : List.Forall₂ (RedisAlike openClient rename) acc.1 acc'.1 ∧
      RoutesAlike rename acc.2 acc'.2)
    (htarget : RedisAlike openClient rename target target') :
    Agrees (fun next next' => List.Forall₂ (RedisAlike openClient rename) next.1 next'.1 ∧
        RoutesAlike rename next.2 next'.2)
      (AppState.addTarget openClient acc target) (AppState.addTarget openClient acc' target') := by
  unfold AppState.addTarget
  rw [htarget.operationLimit, htarget.connectionShards, htarget.rrbId, htarget.connection,
    htarget.tokens, ← hacc.1.length_eq]
  refine Agrees.bind (agrees_bailIf _ _ _ Iff.rfl) ?_
  rintro _ _ rfl
  refine Agrees.bind (agrees_bailIf _ _ _ Iff.rfl) ?_
  rintro _ _ rfl
  refine Agrees.bind (agrees_of_eq _ _ rfl) ?_
  rintro _ _ rfl
  refine Agrees.bind (agrees_bailIf _ _ _ Iff.rfl) ?_
  rintro _ _ rfl
  refine Agrees.bind (agrees_bailIf _ _ _ Iff.rfl) ?_
  rintro _ _ rfl
  have hmatched : List.Forall₂ (fun token token' => token' = renamedToken rename token)
      target.tokens (target.tokens.map (renamedToken rename)) :=
    List.forall₂_map_right_iff.mpr (List.forall₂_same.mpr (fun _ _ => rfl))
  have hfold := Agrees.foldlM
    (fun routes routes' token token' hroutes (htoken : token' = renamedToken rename token) =>
      htoken ▸ routeToken_alike rename acc.1.length routes routes' token hroutes) hmatched hacc.2
  refine Agrees.bind hfold ?_
  intro routes routes' hroutes
  exact ⟨List.rel_append hacc.1 (.cons htarget .nil), hroutes⟩

/-- The states that alike configurations are built into show alike. -/
theorem new_alike (bridge bridge' : Bridge)
    (halike : BridgeAlike openClient rename bridge bridge') :
    Agrees (fun state state' => state'.realtimeLimit = state.realtimeLimit ∧
        shownState state' = shownState state ∧
        List.Forall₂ (RedisAlike openClient rename) state.targets state'.targets)
      (AppState.new openClient bridge) (AppState.new openClient bridge') := by
  obtain ⟨targets, hashToken, metricsToken, rfl, htargets, -⟩ := halike
  unfold AppState.new
  have hstart : List.Forall₂ (RedisAlike openClient rename) [] [] ∧
      RoutesAlike rename ∅ ∅ := ⟨.nil, fun _ => rfl⟩
  have hfold := Agrees.foldlM
    (fun acc acc' target target' => addTarget_alike openClient rename acc acc' target target')
    htargets (a := ([], ∅)) (b := ([], ∅)) hstart
  refine Agrees.bind hfold ?_
  rintro ⟨built, routes⟩ ⟨built', routes'⟩ ⟨hbuilt, -⟩
  refine Agrees.bind (agrees_bailIf _ _ _ Iff.rfl) ?_
  rintro _ _ rfl
  refine ⟨rfl, ?_, hbuilt⟩
  funext permits
  unfold shownState
  dsimp only
  rw [hbuilt.length_eq]

/-! The report. -/

theorem shownRedis_alike (target target' : Redis)
    (h : RedisAlike openClient rename target target') :
    shownRedis target' = shownRedis target := by
  unfold shownRedis
  rw [h.rrbId, h.operationLimit, h.connectionShards, h.tokens, List.length_map]

theorem shownTokens_alike (target target' : Redis)
    (h : RedisAlike openClient rename target target') :
    target'.tokens.map shownToken = target.tokens.map shownToken := by
  rw [h.tokens, List.map_map]
  rfl

theorem shownTarget_alike (target target' : Redis)
    (h : RedisAlike openClient rename target target') :
    shownTarget target' 0 = shownTarget target 0 := by
  unfold shownTarget
  rw [h.rrbId, h.operationLimit, h.connectionShards]

theorem shownBridge_alike (bridge bridge' : Bridge)
    (h : BridgeAlike openClient rename bridge bridge') :
    shownBridge bridge' = shownBridge bridge := by
  obtain ⟨targets, hashToken, metricsToken, rfl, htargets, hmetrics⟩ := h
  unfold shownBridge
  dsimp only
  rw [htargets.length_eq, hmetrics]

/-- Matched lists that look alike one by one look alike. -/
theorem map_alike {α : Type} (look : Redis → α) (targets targets' : List Redis)
    (h : List.Forall₂ (RedisAlike openClient rename) targets targets')
    (hlook : ∀ target target', RedisAlike openClient rename target target' →
      look target' = look target) : targets'.map look = targets.map look := by
  induction h with
  | nil => rfl
  | cons hhead _ ih => rw [List.map_cons, List.map_cons, hlook _ _ hhead, ih]

theorem shownAll_alike (targets targets' : List Redis)
    (h : List.Forall₂ (RedisAlike openClient rename) targets targets') :
    (targets'.flatMap fun target => target.tokens.map shownToken) =
      targets.flatMap fun target => target.tokens.map shownToken := by
  rw [List.flatMap_def, List.flatMap_def]
  exact congrArg List.flatten (map_alike openClient rename _ targets targets' h
    (shownTokens_alike openClient rename))

/-- A token file with one token of one target. -/
def cacheFile (connection hash : String) : FileConfig :=
  ⟨1, [⟨"cache", connection, 100, 4, [⟨"app", none, hash, true, none⟩]⟩]⟩

def cacheText (connection hash : String) : String :=
  "\x7b\"version\":1,\"targets\":[\x7b\"rrb_id\":\"cache\",\"connection_string\":\"" ++
  connection ++ "\",\"tokens\":[\x7b\"id\":\"app\",\"hash\":\"" ++ hash ++ "\"\x7d]\x7d]\x7d"

def oldHash : String := "0123456789abcdef0123456789abcdef0123456789abcdef0123456789abcdef"

def newHash : String := "fedcba9876543210fedcba9876543210fedcba9876543210fedcba9876543210"

def cacheCrates : Crates where
  sha256 := fun _ => Vector.replicate 32 0
  hmacSha256 := fun _ _ => Vector.replicate 32 0
  decodeHex := decodeToSlice 32
  decodeFileConfig := fun data =>
    if data = cacheText "redis://cache" oldHash then .ok (cacheFile "redis://cache" oldHash)
    else if data = cacheText "redis://elsewhere" newHash then
      .ok (cacheFile "redis://elsewhere" newHash)
    else .error "EOF while parsing a value at line 1 column 0"

/-- A bridge in file mode, with the key of its digests and its token file. -/
def fileMode (key data : String) : Env where
  var := (Env.ofVars [("RRB_MODE", "file"), ("RRB_CONFIG_FILE", "tokens.json"),
    ("RRB_HASH_TOKEN", key), ("RRB_ALLOWED_COMMANDS", "GET")]).var
  readToString := fun path =>
    if path = "tokens.json" then .ok data else .error "No such file or directory (os error 2)"

def decodedHash (text : String) : TokenHash :=
  ⟨(decodeToSlice 32 text).getD (Vector.replicate 32 0)⟩

/-- The digest that was replaced and the one that replaces it trade places. -/
def rotate : TokenHash ↪ TokenHash :=
  (Equiv.swap (decodedHash oldHash) (decodedHash newHash)).toEmbedding

set_option maxRecDepth 4000 in
theorem fileMode_alike : EnvAlike cacheCrates (fun _ => .ok ()) rotate
    (fileMode "key" (cacheText "redis://cache" oldHash))
    (fileMode "other key" (cacheText "redis://elsewhere" newHash)) := by
  refine ⟨?_, by decide, ?_, fun _ _ _ _ => rfl, ?_⟩
  · intro key hplain
    simp only [secretVars, List.mem_cons, List.not_mem_nil, or_false, not_or] at hplain
    have hkey : (key == "RRB_HASH_TOKEN") = false := beq_eq_false_iff_ne.mpr hplain.2.1
    simp only [fileMode, Env.ofVars, List.lookup_cons, hkey]
  · intro token token' htoken _
    have hunset : trimmed (envFirst (fileMode "key" (cacheText "redis://cache" oldHash))
        ["RRB_TOKEN"]) = none := rfl
    rw [hunset] at htoken
    cases htoken
  · intro path
    by_cases hpath : path = "tokens.json"
    · subst hpath
      have hold : TokenHash.hmacSha256Parse cacheCrates oldHash = .ok (decodedHash oldHash) := rfl
      have hnew : TokenHash.hmacSha256Parse cacheCrates newHash = .ok (decodedHash newHash) := rfl
      have hparsed : TokenHash.hmacSha256Parse cacheCrates newHash =
          (TokenHash.hmacSha256Parse cacheCrates oldHash).map rotate := by
        rw [hold, hnew]
        exact congrArg Except.ok (Equiv.swap_apply_left _ _).symm
      have htoken : TokenAlike cacheCrates rotate ⟨"app", none, oldHash, true, none⟩
          ⟨"app", none, newHash, true, none⟩ := ⟨rfl, rfl, rfl, rfl, hparsed⟩
      have htarget : TargetAlike cacheCrates (fun _ => .ok ()) rotate
          ⟨"cache", "redis://cache", 100, 4, [⟨"app", none, oldHash, true, none⟩]⟩
          ⟨"cache", "redis://elsewhere", 100, 4, [⟨"app", none, newHash, true, none⟩]⟩ :=
        ⟨rfl, rfl, rfl, ⟨by decide, rfl⟩, .cons htoken .nil⟩
      have hfile : FileAlike cacheCrates (fun _ => .ok ()) rotate
          (cacheFile "redis://cache" oldHash) (cacheFile "redis://elsewhere" newHash) :=
        ⟨rfl, .cons htarget .nil⟩
      exact hfile
    · have hmissing (key data : String) : (fileMode key data).readToString path =
          .error "No such file or directory (os error 2)" := if_neg hpath
      rw [hmissing, hmissing]
      exact rfl

end RedisBridge.StartupReports
