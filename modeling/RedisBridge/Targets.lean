import RedisBridge.EnvVars
import RedisBridge.TokenType
import Mathlib.Data.Finset.Insert

/-!
The configured Redis targets and their bearer tokens, from the environment or
from the token file. Ids of targets and of tokens are distinct over the whole
file; digests need to be distinct among the enabled tokens only.
-/
namespace RedisBridge.Targets

open EnvVars Fallible RustText TokenType

abbrev Digest := Vector UInt8 32

/-! The token file as it is decoded; absent fields have their defaults. -/

structure FileAuthToken where
  id : String
  name : Option String
  hash : String
  enabled : Bool
  tokenType : Option String

structure FileTarget where
  rrbId : String
  connectionString : String
  operationLimit : Usize
  connectionShards : Usize
  tokens : List FileAuthToken

structure FileConfig where
  version : U16
  targets : List FileTarget

/-- The crates behind digests and the token file: SHA-256, HMAC-SHA256 of a key
and a text, the decoder of hexadecimal text into 32 bytes, the JSON decoder. -/
structure Crates where
  sha256 : List UInt8 → Digest
  hmacSha256 : List UInt8 → List UInt8 → Digest
  decodeHex : String → Option Digest
  decodeFileConfig : String → Except String FileConfig

/-! Token digests, `config/hash.rs`. -/

structure TokenHash where
  digest : Digest
  deriving DecidableEq

namespace TokenHash

def sha256 (crates : Crates) (token : String) : TokenHash :=
  ⟨crates.sha256 (asBytes token)⟩

def hmacSha256 (crates : Crates) (key token : String) : TokenHash :=
  ⟨crates.hmacSha256 (asBytes key) (asBytes token)⟩

def hmacSha256Parse (crates : Crates) (value : String) : Except String TokenHash := do
  bailIf ((asBytes (trim value)).length ≠ 64) "Token hash digest must be 64 hex characters"
  let digest ← okOr (crates.decodeHex (trim value))
    "Token hash digest contains non-hex characters"
  pure ⟨digest⟩

end TokenHash

structure AuthToken where
  id : String
  name : Option String
  hash : TokenHash
  enabled : Bool
  tokenType : TokenCaps
  deriving DecidableEq

structure Redis where
  rrbId : String
  connectionString : String
  operationLimit : Usize
  connectionShards : Usize
  tokens : List AuthToken
  deriving DecidableEq

def defaultOperationLimit : Usize := 100

def defaultConnectionShards : Usize := 4

/-- A token type that is given is parsed; otherwise the token is command-only. -/
def tokenTypeOr (value : Option String) (key : String) : Except ConfigError TokenCaps :=
  match value with
  | some value => asConfigError (TokenCaps.parse value key)
  | none => .ok TokenCaps.commandOnly

/-! The token file, `parse_file_targets`. -/

/-- The ids and enabled digests met so far in the file. -/
structure Seen where
  rrbIds : Finset String
  tokenIds : Finset String
  tokenHashes : Finset TokenHash

def Seen.nothing : Seen := ⟨∅, ∅, ∅⟩

def parseFileToken (crates : Crates) (rrbId : String) (acc : Seen × List AuthToken)
    (token : FileAuthToken) : Except ConfigError (Seen × List AuthToken) := do
  let id := trim token.id
  bailIf (id = "") (.message s!"Token config file contains an empty token id for target {rrbId}")
  bailIf (id ∈ acc.1.tokenIds) (.message s!"Token config file contains duplicate token id: {id}")
  let seen := { acc.1 with tokenIds := insert id acc.1.tokenIds }
  let tokenType ← tokenTypeOr token.tokenType s!"token_type for token {id} on target {rrbId}"
  let hash ← asConfigError (TokenHash.hmacSha256Parse crates token.hash)
  if token.enabled = false then
    pure (seen, acc.2 ++ [⟨id, trimmed token.name, hash, false, tokenType⟩])
  else do
    bailIf (hash ∈ seen.tokenHashes)
      (.message "Token config file contains duplicate token hashes")
    pure ({ seen with tokenHashes := insert hash seen.tokenHashes },
      acc.2 ++ [⟨id, trimmed token.name, hash, true, tokenType⟩])

/-- The checks of a target before its tokens are read. -/
def checkFileTarget (seen : Seen) (rrbId connectionString : String) (target : FileTarget) :
    Except ConfigError Unit := do
  bailIf (rrbId = "") (.message "Token config file contains an empty rrb_id")
  bailIf (rrbId ∈ seen.rrbIds)
    (.message s!"Token config file contains duplicate rrb_id: {rrbId}")
  bailIf (connectionString = "") (.message
    s!"Token config file contains an empty Redis connection string for target {rrbId}")
  bailIf (target.operationLimit = 0)
    (.message s!"Token config file contains operation_limit=0 for target {rrbId}")
  bailIf (target.connectionShards = 0)
    (.message s!"Token config file contains connection_shards=0 for target {rrbId}")
  bailIf (target.tokens = [])
    (.message s!"Token config file contains no tokens for target {rrbId}")

def parseFileTarget (crates : Crates) (acc : Seen × List Redis) (target : FileTarget) :
    Except ConfigError (Seen × List Redis) := do
  let rrbId := trim target.rrbId
  let connectionString := trim target.connectionString
  checkFileTarget acc.1 rrbId connectionString target
  let seen := { acc.1 with rrbIds := insert rrbId acc.1.rrbIds }
  let (seen, tokens) ← target.tokens.foldlM (parseFileToken crates rrbId) (seen, [])
  bailIf (tokens.all (fun token => !token.enabled))
    (.message s!"Token config file contains no enabled tokens for target {rrbId}")
  pure (seen, acc.2 ++
    [⟨rrbId, connectionString, target.operationLimit, target.connectionShards, tokens⟩])

def parseFileTargets (crates : Crates) (data : String) (hashToken : Option String) :
    Except ConfigError (List Redis) := do
  let _ ← okOr (trimmed hashToken) (.message "RRB_HASH_TOKEN is required when mode=file")
  let config ← asConfigError (crates.decodeFileConfig data)
  bailIf (config.version ≠ 1)
    (.message s!"Unsupported token config version: {config.version.val}")
  bailIf (config.targets = []) (.message "Token config file must contain at least one target")
  let (_, targets) ← config.targets.foldlM (parseFileTarget crates) (Seen.nothing, [])
  pure targets

/-! Loading, `load_targets`. -/

def loadEnvTarget (crates : Crates) (env : Env) : Except ConfigError (List Redis) := do
  let token ← okOr (trimmed (envFirst env ["RRB_TOKEN"]))
    (.message "RRB_TOKEN is required when mode=env")
  let connectionString ← okOr (trimmed (envFirst env ["RRB_CONNECTION_STRING", "REDIS_URL"]))
    (.message "RRB_CONNECTION_STRING or REDIS_URL is required when mode=env")
  let operationLimit ← parseEnvFirst env defaultOperationLimit ["RRB_OPERATION_LIMIT"]
  let connectionShards ← parseEnvFirst env defaultConnectionShards ["RRB_CONNECTION_SHARDS"]
  let tokenType ← tokenTypeOr (envFirst env ["RRB_TOKEN_TYPE"]) "RRB_TOKEN_TYPE"
  bailIf (operationLimit = 0) (.message "RRB_OPERATION_LIMIT must be greater than zero")
  bailIf (connectionShards = 0) (.message "RRB_CONNECTION_SHARDS must be greater than zero")
  pure [⟨"env", connectionString, operationLimit, connectionShards,
    [⟨"env", some "Environment token", TokenHash.sha256 crates token, true, tokenType⟩]⟩]

def loadFileTargets (crates : Crates) (env : Env) : Except ConfigError (List Redis) := do
  let path := (envFirst env ["RRB_CONFIG_FILE", "TOKEN_RESOLUTION_FILE_PATH"]).getD
    "/app/rrb-config/tokens.json"
  let data ← (env.readToString path).mapError
    (fun error => .context s!"Failed to read token config file: {path}" (.message error))
  let hashToken := trimmed (envFirst env ["RRB_HASH_TOKEN"])
  (parseFileTargets crates data hashToken).mapError
    (.context s!"Failed to parse token config file: {path}")

def loadTargets (crates : Crates) (env : Env) : Except ConfigError (List Redis) :=
  let mode := envOr env "RRB_MODE" "file"
  if mode = "env" then loadEnvTarget crates env
  else if mode = "file" then loadFileTargets crates env
  else .error (.message s!"Unsupported bridge mode: {mode}. Use env or file")

/-! What an accepted file leaves for the routing of tokens. -/

/-- The digests of the enabled tokens, in order. -/
def enabledOf (tokens : List AuthToken) : List TokenHash :=
  (tokens.filter (fun token => token.enabled)).map (fun token => token.hash)

def enabledHashes (targets : List Redis) : List TokenHash :=
  targets.flatMap (fun target => enabledOf target.tokens)

theorem enabledOf_append (tokens : List AuthToken) (token : AuthToken) :
    enabledOf (tokens ++ [token]) =
      enabledOf tokens ++ if token.enabled = true then [token.hash] else [] := by
  unfold enabledOf
  rw [List.filter_append, List.map_append]
  by_cases henabled : token.enabled = true
  · simp [henabled]
  · simp [henabled]

theorem enabledOf_cons (token : AuthToken) (rest : List AuthToken) :
    enabledOf (token :: rest) = enabledOf [token] ++ enabledOf rest := by
  unfold enabledOf
  rw [← List.map_append, ← List.filter_append, List.singleton_append]

/-- The recorded digests are those of the enabled tokens met so far, each once. -/
def Recorded (seen : Finset TokenHash) (hashes : List TokenHash) : Prop :=
  hashes.Nodup ∧ ∀ hash, hash ∈ seen ↔ hash ∈ hashes

theorem Recorded.insert (seen : Finset TokenHash) (hashes : List TokenHash) (hash : TokenHash)
    (h : Recorded seen hashes) (hfresh : hash ∉ seen) :
    Recorded (insert hash seen) (hashes ++ [hash]) := by
  obtain ⟨hnodup, hmem⟩ := h
  constructor
  · rw [← List.concat_eq_append]
    exact hnodup.concat (fun hin => hfresh ((hmem hash).mpr hin))
  · intro other
    rw [Finset.mem_insert, hmem other, List.mem_append, List.mem_singleton]
    exact or_comm

theorem parseFileToken_recorded (crates : Crates) (rrbId : String) (earlier : List TokenHash)
    (acc acc' : Seen × List AuthToken) (token : FileAuthToken)
    (hacc : Recorded acc.1.tokenHashes (earlier ++ enabledOf acc.2))
    (h : parseFileToken crates rrbId acc token = .ok acc') :
    Recorded acc'.1.tokenHashes (earlier ++ enabledOf acc'.2) := by
  simp only [parseFileToken, bind_eq_ok] at h
  obtain ⟨_, _, _, _, tokenType, _, hash, _, h⟩ := h
  by_cases henabled : token.enabled = false
  · rw [if_pos henabled, pure_eq_ok] at h
    subst h
    rw [enabledOf_append, if_neg Bool.false_ne_true, List.append_nil]
    exact hacc
  · rw [if_neg henabled, check_eq_ok, bailIf_eq_ok, pure_eq_ok] at h
    obtain ⟨hfresh, rfl⟩ := h
    rw [enabledOf_append, if_pos rfl, ← List.append_assoc]
    exact hacc.insert _ _ _ hfresh

/-- Each accepted target has positive bounds, and the enabled digests of all of
them are distinct. -/
def WellRouted (targets : List Redis) : Prop :=
  (enabledHashes targets).Nodup ∧
    ∀ target ∈ targets, target.operationLimit ≠ 0 ∧ target.connectionShards ≠ 0

theorem parseFileTarget_wellRouted (crates : Crates) (acc acc' : Seen × List Redis)
    (target : FileTarget) (hacc : Recorded acc.1.tokenHashes (enabledHashes acc.2) ∧ WellRouted acc.2)
    (h : parseFileTarget crates acc target = .ok acc') :
    Recorded acc'.1.tokenHashes (enabledHashes acc'.2) ∧ WellRouted acc'.2 := by
  obtain ⟨hrecorded, _, hbounds⟩ := hacc
  simp only [parseFileTarget, bind_eq_ok, bailIf_eq_ok, pure_eq_ok] at h
  obtain ⟨_, hcheck, ⟨seen, tokens⟩, hfold, _, _, rfl⟩ := h
  simp only [checkFileTarget, bind_eq_ok, bailIf_eq_ok] at hcheck
  obtain ⟨_, _, _, _, _, _, _, hlimit, _, hshards, _⟩ := hcheck
  have hstart : Recorded acc.1.tokenHashes (enabledHashes acc.2 ++ enabledOf []) := by
    simpa [enabledOf] using hrecorded
  have htokens : Recorded seen.tokenHashes (enabledHashes acc.2 ++ enabledOf tokens) :=
    foldlM_invariant _
      (fun acc' => Recorded acc'.1.tokenHashes (enabledHashes acc.2 ++ enabledOf acc'.2))
      (fun b token b' hb hstep => parseFileToken_recorded crates _ _ b b' token hb hstep)
      _ _ _ hstart hfold
  have hhashes : enabledHashes (acc.2 ++ [⟨trim target.rrbId, trim target.connectionString,
      target.operationLimit, target.connectionShards, tokens⟩]) =
      enabledHashes acc.2 ++ enabledOf tokens := by
    simp [enabledHashes]
  rw [WellRouted, hhashes]
  refine ⟨htokens, htokens.1, ?_⟩
  intro t ht
  rcases List.mem_append.mp ht with hold | hnew
  · exact hbounds t hold
  · rw [List.mem_singleton] at hnew
    exact hnew ▸ ⟨hlimit, hshards⟩

theorem parseFileTargets_wellRouted (crates : Crates) (data : String)
    (hashToken : Option String) (targets : List Redis)
    (h : parseFileTargets crates data hashToken = .ok targets) : WellRouted targets := by
  simp only [parseFileTargets, bind_eq_ok, pure_eq_ok] at h
  obtain ⟨_, _, config, _, _, _, _, _, ⟨seen, found⟩, hfold, rfl⟩ := h
  have hstart : Recorded Seen.nothing.tokenHashes (enabledHashes []) ∧ WellRouted [] := by
    simp [Recorded, WellRouted, Seen.nothing, enabledHashes]
  exact (foldlM_invariant _ (fun acc => Recorded acc.1.tokenHashes (enabledHashes acc.2) ∧ WellRouted acc.2)
    (fun b target b' hb hstep => parseFileTarget_wellRouted crates b b' target hb hstep)
    _ _ _ hstart hfold).2

end RedisBridge.Targets
