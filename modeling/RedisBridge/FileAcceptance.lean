import RedisBridge.CollectingFolds
import RedisBridge.HexText
import RedisBridge.Targets

/-!
Which token files are accepted. A token and a target are well-formed on their own;
a file is when its ids are distinct throughout, those of disabled tokens included,
and the digests of its enabled tokens are. Acceptance by the nested loops is this
condition, and what they return lists the file.
-/
namespace RedisBridge.Targets

open CollectingFolds EnvVars Fallible HexText RustText TokenType

/-- The value of a token type and what it is parsed to, under every key. -/
def Grants (value : String) (tokenType : TokenCaps) : Prop :=
  (∀ key, TokenCaps.parse value key = .ok tokenType) ∧ tokenType.allowsCommandRoute = true

structure FileAuthToken.WellFormed (token : FileAuthToken) : Prop where
  id : trim token.id ≠ ""
  tokenType : ∀ value, token.tokenType = some value → ∃ tokenType, Grants value tokenType
  hash : (trim token.hash).toList.length = 64 ∧
    ∀ c ∈ (trim token.hash).toList, isHexDigit c = true

structure FileTarget.WellFormed (target : FileTarget) : Prop where
  rrbId : trim target.rrbId ≠ ""
  connectionString : trim target.connectionString ≠ ""
  operationLimit : 0 < target.operationLimit.val
  connectionShards : 0 < target.connectionShards.val
  enabled : ∃ token ∈ target.tokens, token.enabled = true
  tokens : ∀ token ∈ target.tokens, token.WellFormed

/-- The digest that the hash of a token spells. -/
def FileAuthToken.digest (token : FileAuthToken) : Option Digest :=
  decodeToSlice 32 (trim token.hash)

/-- The digests of the enabled tokens of a target. -/
def FileTarget.enabledDigests (target : FileTarget) : List (Option Digest) :=
  (target.tokens.filter (fun token => token.enabled)).map FileAuthToken.digest

structure FileConfig.WellFormed (config : FileConfig) (hashToken : Option String) : Prop where
  key : ∃ key, hashToken = some key ∧ trim key ≠ ""
  version : config.version.val = 1
  nonempty : config.targets ≠ []
  targets : ∀ target ∈ config.targets, target.WellFormed
  rrbIds : (config.targets.map (fun target => trim target.rrbId)).Nodup
  tokenIds : (config.targets.flatMap
    (fun target => target.tokens.map (fun token => trim token.id))).Nodup
  digests : (config.targets.flatMap FileTarget.enabledDigests).Nodup

/-- A token is what the file says of it. -/
structure TokenListed (file : FileAuthToken) (token : AuthToken) : Prop where
  id : token.id = trim file.id
  name : token.name = trimmed file.name
  hash : file.digest = some token.hash.digest
  enabled : token.enabled = file.enabled
  tokenType : match file.tokenType with
    | some value => Grants value token.tokenType
    | none => token.tokenType = TokenCaps.commandOnly

structure TargetListed (file : FileTarget) (target : Redis) : Prop where
  rrbId : target.rrbId = trim file.rrbId
  connectionString : target.connectionString = trim file.connectionString
  operationLimit : target.operationLimit = file.operationLimit
  connectionShards : target.connectionShards = file.connectionShards
  tokens : List.Forall₂ TokenListed file.tokens target.tokens

/-- Parsing depends on the key in its errors only. -/
theorem grants_iff (value key : String) (tokenType : TokenCaps) :
    Grants value tokenType ↔ TokenCaps.parse value key = .ok tokenType := by
  constructor
  · intro h
    exact h.1 key
  · intro h
    obtain ⟨hitems, hne, rfl⟩ := (TokenCaps.parse_eq_ok value key tokenType).mp h
    refine ⟨?_, (TokenCaps.ofItems_names _ hitems).mpr hne⟩
    intro other
    exact (TokenCaps.parse_eq_ok value other _).mpr ⟨hitems, hne, rfl⟩

theorem tokenTypeOr_eq_ok (value : Option String) (key : String) (tokenType : TokenCaps) :
    tokenTypeOr value key = .ok tokenType ↔
      match value with
      | some value => Grants value tokenType
      | none => tokenType = TokenCaps.commandOnly := by
  cases value with
  | none =>
    rw [tokenTypeOr, Except.ok.injEq]
    exact eq_comm
  | some value =>
    rw [tokenTypeOr, asConfigError, mapError_eq_ok]
    exact (grants_iff value key tokenType).symm

/-- What the ids and enabled digests of tokens are checked against. -/
def tokenCollector : Collector Seen AuthToken where
  accepts seen tokens := Fresh seen.tokenIds (tokens.map AuthToken.id) ∧
    Fresh seen.tokenHashes (enabledOf tokens)
  after seen tokens := { seen with
    tokenIds := seen.tokenIds ∪ (tokens.map AuthToken.id).toFinset
    tokenHashes := seen.tokenHashes ∪ (enabledOf tokens).toFinset }
  accepts_nil seen := ⟨fresh_nil seen.tokenIds, fresh_nil seen.tokenHashes⟩
  after_nil seen := by
    simp [enabledOf]
  accepts_cons seen token rest := by
    have hids : (token :: rest).map AuthToken.id =
        [token].map AuthToken.id ++ rest.map AuthToken.id := rfl
    rw [hids, enabledOf_cons, fresh_append, fresh_append]
    exact and_and_and_comm
  after_cons seen token rest := by
    have hids : (token :: rest).map AuthToken.id =
        [token].map AuthToken.id ++ rest.map AuthToken.id := rfl
    rw [hids, enabledOf_cons, union_append, union_append]

/-- The digest of an enabled token is checked and recorded, that of a disabled one
is neither. -/
theorem after_enabled (seen : Seen) (token : AuthToken) (henabled : token.enabled = true) :
    tokenCollector.after seen [token] =
      { seen with
        tokenIds := insert token.id seen.tokenIds
        tokenHashes := insert token.hash seen.tokenHashes } := by
  have hhashes : enabledOf [token] = [token.hash] := by
    simp [enabledOf, henabled]
  simp only [tokenCollector, hhashes, List.map_singleton, union_singleton]

theorem after_disabled (seen : Seen) (token : AuthToken) (hdisabled : token.enabled = false) :
    tokenCollector.after seen [token] =
      { seen with tokenIds := insert token.id seen.tokenIds } := by
  have hhashes : enabledOf [token] = [] := by
    simp [enabledOf, hdisabled]
  simp only [tokenCollector, hhashes, List.map_singleton, union_singleton, List.toFinset_nil,
    Finset.union_empty]

theorem accepts_token (seen : Seen) (token : AuthToken) :
    tokenCollector.accepts seen [token] ↔
      token.id ∉ seen.tokenIds ∧ (token.enabled = true → token.hash ∉ seen.tokenHashes) := by
  have hids : Fresh seen.tokenIds ([token].map AuthToken.id) ↔ token.id ∉ seen.tokenIds :=
    fresh_singleton seen.tokenIds token.id
  have hhashes : Fresh seen.tokenHashes (enabledOf [token]) ↔
      (token.enabled = true → token.hash ∉ seen.tokenHashes) := by
    cases henabled : token.enabled with
    | false => simp [enabledOf, henabled, fresh_nil]
    | true => simp [enabledOf, henabled, fresh_singleton]
  exact and_congr hids hhashes

/-- The token ids of targets, in order. -/
def tokenIdsOf (targets : List Redis) : List String :=
  targets.flatMap (fun target => target.tokens.map AuthToken.id)

theorem tokenIdsOf_cons (target : Redis) (rest : List Redis) :
    tokenIdsOf (target :: rest) = tokenIdsOf [target] ++ tokenIdsOf rest := by
  unfold tokenIdsOf
  rw [← List.flatMap_append, List.singleton_append]

theorem enabledHashes_cons (target : Redis) (rest : List Redis) :
    enabledHashes (target :: rest) = enabledHashes [target] ++ enabledHashes rest := by
  unfold enabledHashes
  rw [← List.flatMap_append, List.singleton_append]

def targetCollector : Collector Seen Redis where
  accepts seen targets := Fresh seen.rrbIds (targets.map Redis.rrbId) ∧
    Fresh seen.tokenIds (tokenIdsOf targets) ∧ Fresh seen.tokenHashes (enabledHashes targets)
  after seen targets :=
    ⟨seen.rrbIds ∪ (targets.map Redis.rrbId).toFinset,
      seen.tokenIds ∪ (tokenIdsOf targets).toFinset,
      seen.tokenHashes ∪ (enabledHashes targets).toFinset⟩
  accepts_nil seen :=
    ⟨fresh_nil seen.rrbIds, fresh_nil seen.tokenIds, fresh_nil seen.tokenHashes⟩
  after_nil seen := by
    simp [tokenIdsOf, enabledHashes]
  accepts_cons seen target rest := by
    have hids : (target :: rest).map Redis.rrbId =
        [target].map Redis.rrbId ++ rest.map Redis.rrbId := rfl
    rw [hids, tokenIdsOf_cons, enabledHashes_cons, fresh_append, fresh_append, fresh_append]
    constructor
    · intro h
      obtain ⟨⟨hid, hids⟩, ⟨htoken, htokens⟩, ⟨hhash, hhashes⟩⟩ := h
      exact ⟨⟨hid, htoken, hhash⟩, hids, htokens, hhashes⟩
    · intro h
      obtain ⟨⟨hid, htoken, hhash⟩, hids, htokens, hhashes⟩ := h
      exact ⟨⟨hid, hids⟩, ⟨htoken, htokens⟩, ⟨hhash, hhashes⟩⟩
  after_cons seen target rest := by
    have hids : (target :: rest).map Redis.rrbId =
        [target].map Redis.rrbId ++ rest.map Redis.rrbId := rfl
    rw [hids, tokenIdsOf_cons, enabledHashes_cons, union_append, union_append, union_append]

@[simp] theorem tokenIdsOf_singleton (target : Redis) :
    tokenIdsOf [target] = target.tokens.map AuthToken.id := by
  simp [tokenIdsOf]

@[simp] theorem enabledHashes_singleton (target : Redis) :
    enabledHashes [target] = enabledOf target.tokens := by
  simp [enabledHashes]

/-- A target is checked by its id and then token by token. -/
theorem accepts_target (seen : Seen) (target : Redis) :
    targetCollector.accepts seen [target] ↔
      target.rrbId ∉ seen.rrbIds ∧
        tokenCollector.accepts { seen with rrbIds := insert target.rrbId seen.rrbIds }
          target.tokens := by
  simp only [targetCollector, tokenCollector, tokenIdsOf_singleton, enabledHashes_singleton,
    List.map_singleton, fresh_singleton]

theorem after_target (seen : Seen) (target : Redis) :
    targetCollector.after seen [target] =
      tokenCollector.after { seen with rrbIds := insert target.rrbId seen.rrbIds }
        target.tokens := by
  simp only [targetCollector, tokenCollector, tokenIdsOf_singleton, enabledHashes_singleton,
    List.map_singleton, union_singleton]

theorem checkFileTarget_eq_ok (seen : Seen) (rrbId connectionString : String)
    (target : FileTarget) (u : Unit) :
    checkFileTarget seen rrbId connectionString target = .ok u ↔
      rrbId ≠ "" ∧ rrbId ∉ seen.rrbIds ∧ connectionString ≠ "" ∧ target.operationLimit ≠ 0 ∧
        target.connectionShards ≠ 0 ∧ target.tokens ≠ [] := by
  simp only [checkFileTarget, bind_eq_ok, bailIf_eq_ok, exists_const, ne_eq]

theorem not_all_disabled (tokens : List AuthToken) :
    ¬ tokens.all (fun token => !token.enabled) = true ↔ ∃ token ∈ tokens, token.enabled = true := by
  simp

/-- Listed tokens are enabled where the file enables them. -/
theorem exists_enabled (files : List FileAuthToken) (tokens : List AuthToken)
    (h : List.Forall₂ TokenListed files tokens) :
    (∃ token ∈ tokens, token.enabled = true) ↔ ∃ file ∈ files, file.enabled = true := by
  constructor
  · intro hgiven
    obtain ⟨token, htoken, henabled⟩ := hgiven
    obtain ⟨file, hfile, hlisted⟩ := exists_left_of_mem h token htoken
    exact ⟨file, hfile, hlisted.enabled.symm.trans henabled⟩
  · intro hgiven
    obtain ⟨file, hfile, henabled⟩ := hgiven
    obtain ⟨token, htoken, hlisted⟩ := exists_right_of_mem h file hfile
    exact ⟨token, htoken, hlisted.enabled.trans henabled⟩

theorem FileAuthToken.WellFormed.exists_listed (file : FileAuthToken) (h : file.WellFormed) :
    ∃ token, TokenListed file token := by
  obtain ⟨digest, hdigest⟩ := Option.isSome_iff_exists.mp
    ((decodeToSlice_isSome 32 (trim file.hash)).mpr h.hash)
  cases htype : file.tokenType with
  | none =>
    exact ⟨⟨trim file.id, trimmed file.name, ⟨digest⟩, file.enabled, TokenCaps.commandOnly⟩,
      rfl, rfl, hdigest, rfl, by rw [htype]⟩
  | some value =>
    obtain ⟨tokenType, hgrants⟩ := h.tokenType value htype
    exact ⟨⟨trim file.id, trimmed file.name, ⟨digest⟩, file.enabled, tokenType⟩,
      rfl, rfl, hdigest, rfl, by rw [htype]; exact hgrants⟩

theorem FileTarget.WellFormed.exists_listed (file : FileTarget) (h : file.WellFormed) :
    ∃ target, TargetListed file target := by
  obtain ⟨tokens, htokens⟩ := exists_forall₂ file.tokens
    (fun token htoken => (h.tokens token htoken).exists_listed token)
  exact ⟨⟨trim file.rrbId, trim file.connectionString, file.operationLimit,
    file.connectionShards, tokens⟩, rfl, rfl, rfl, rfl, htokens⟩

/-! The keys of listed targets are those of the file. -/

theorem listed_rrbIds (files : List FileTarget) (targets : List Redis)
    (h : List.Forall₂ TargetListed files targets) :
    targets.map Redis.rrbId = files.map (fun file => trim file.rrbId) := by
  induction h with
  | nil => rfl
  | cons hfirst _ ih => rw [List.map_cons, List.map_cons, hfirst.rrbId, ih]

theorem listed_tokens (files : List FileAuthToken) (tokens : List AuthToken)
    (h : List.Forall₂ TokenListed files tokens) :
    tokens.map AuthToken.id = files.map (fun file => trim file.id) := by
  induction h with
  | nil => rfl
  | cons hfirst _ ih => rw [List.map_cons, List.map_cons, hfirst.id, ih]

theorem listed_tokenIds (files : List FileTarget) (targets : List Redis)
    (h : List.Forall₂ TargetListed files targets) :
    tokenIdsOf targets =
      files.flatMap (fun file => file.tokens.map (fun token => trim token.id)) := by
  induction h with
  | nil => rfl
  | cons hfirst _ ih =>
    rw [tokenIdsOf, List.flatMap_cons, List.flatMap_cons, listed_tokens _ _ hfirst.tokens]
    exact congrArg _ ih

theorem listed_enabledOf (files : List FileAuthToken) (tokens : List AuthToken)
    (h : List.Forall₂ TokenListed files tokens) :
    (enabledOf tokens).map (fun hash => some hash.digest) =
      (files.filter (fun file => file.enabled)).map FileAuthToken.digest := by
  induction h with
  | nil => rfl
  | @cons file token files tokens hfirst _ ih =>
    have hhead : (enabledOf [token]).map (fun hash => some hash.digest) =
        ([file].filter (fun file => file.enabled)).map FileAuthToken.digest := by
      cases henabled : file.enabled <;>
        simp [enabledOf, hfirst.enabled, henabled, hfirst.hash]
    rw [enabledOf_cons, List.map_append, hhead, ih, ← List.map_append, ← List.filter_append,
      List.singleton_append]

theorem listed_digests (files : List FileTarget) (targets : List Redis)
    (h : List.Forall₂ TargetListed files targets) :
    (enabledHashes targets).map (fun hash => some hash.digest) =
      files.flatMap FileTarget.enabledDigests := by
  induction h with
  | nil => rfl
  | cons hfirst _ ih =>
    rw [enabledHashes_cons, List.map_append, ih, List.flatMap_cons]
    have hhead := listed_enabledOf _ _ hfirst.tokens
    simpa [enabledHashes, FileTarget.enabledDigests] using hhead

/-- Nothing was met before the file, so its keys are to be distinct. -/
theorem accepts_listed (files : List FileTarget) (targets : List Redis)
    (h : List.Forall₂ TargetListed files targets) :
    targetCollector.accepts Seen.nothing targets ↔
      (files.map (fun file => trim file.rrbId)).Nodup ∧
        (files.flatMap (fun file => file.tokens.map (fun token => trim token.id))).Nodup ∧
        (files.flatMap FileTarget.enabledDigests).Nodup := by
  have hinjective : Function.Injective (fun hash : TokenHash => some hash.digest) := by
    intro first second heq
    have hdigest : first.digest = second.digest := Option.some.inj heq
    exact congrArg TokenHash.mk hdigest
  have haccepts : targetCollector.accepts Seen.nothing targets ↔
      (targets.map Redis.rrbId).Nodup ∧ (tokenIdsOf targets).Nodup ∧
        (enabledHashes targets).Nodup :=
    and_congr (fresh_empty _) (and_congr (fresh_empty _) (fresh_empty _))
  rw [haccepts, ← listed_rrbIds files targets h, ← listed_tokenIds files targets h,
    ← listed_digests files targets h, List.nodup_map_iff hinjective]

theorem trimmed_eq_some (value : Option String) :
    (∃ text, trimmed value = some text) ↔ ∃ text, value = some text ∧ trim text ≠ "" := by
  cases value with
  | none => simp [trimmed]
  | some text =>
    by_cases hblank : trim text = ""
    · simp [trimmed, hblank]
    · simp [trimmed, hblank]

section

variable (crates : Crates) (hhex : crates.decodeHex = decodeToSlice 32)

include hhex

/-- A text of 64 digits has 64 bytes, so the check of the length rejects nothing
that could be decoded. -/
theorem hmacSha256Parse_eq_ok (value : String) (hash : TokenHash) :
    TokenHash.hmacSha256Parse crates value = .ok hash ↔
      decodeToSlice 32 (trim value) = some hash.digest := by
  rw [TokenHash.hmacSha256Parse, check_eq_ok, bailIf_eq_ok, bind_eq_ok, not_not, hhex]
  constructor
  · intro h
    obtain ⟨-, digest, hdigest, hhash⟩ := h
    rw [← (pure_eq_ok _ _).mp hhash]
    exact (okOr_eq_ok _ _ _).mp hdigest
  · intro hdigest
    have hsome := (decodeToSlice_isSome 32 (trim value)).mp (by rw [hdigest]; rfl)
    refine ⟨?_, hash.digest, (okOr_eq_ok _ _ _).mpr hdigest, rfl⟩
    rw [length_asBytes_of_digits (trim value) hsome.2, hsome.1]

/-- A token is taken when it is well-formed and nothing of it was met before. -/
theorem parseFileToken_eq_ok (rrbId : String) (seen : Seen) (out : List AuthToken)
    (file : FileAuthToken) (result : Seen × List AuthToken) :
    parseFileToken crates rrbId (seen, out) file = .ok result ↔
      ∃ token, (file.WellFormed ∧ TokenListed file token) ∧
        tokenCollector.accepts seen [token] ∧
        result = (tokenCollector.after seen [token], out ++ [token]) := by
  simp only [parseFileToken, bailIf_eq_ok, bind_eq_ok, exists_const, tokenTypeOr_eq_ok,
    asConfigError, mapError_eq_ok, hmacSha256Parse_eq_ok crates hhex]
  constructor
  · intro h
    obtain ⟨hid, hfresh, tokenType, htype, hash, hdigest, hrest⟩ := h
    have hfile : file.WellFormed := by
      refine ⟨hid, ?_, (decodeToSlice_isSome 32 (trim file.hash)).mp (by rw [hdigest]; rfl)⟩
      intro value hvalue
      rw [hvalue] at htype
      exact ⟨tokenType, htype⟩
    refine ⟨⟨trim file.id, trimmed file.name, hash, file.enabled, tokenType⟩,
      ⟨hfile, rfl, rfl, hdigest, rfl, htype⟩, ?_⟩
    rw [accepts_token]
    by_cases henabled : file.enabled = false
    · rw [if_pos henabled, pure_eq_ok] at hrest
      rw [after_disabled _ _ henabled, ← hrest]
      simp [hfresh, henabled]
    · rw [if_neg henabled, check_eq_ok, bailIf_eq_ok, pure_eq_ok] at hrest
      have htrue : file.enabled = true := Bool.eq_true_of_not_eq_false henabled
      rw [after_enabled _ _ htrue, ← hrest.2]
      simp [hfresh, hrest.1, htrue]
  · intro h
    obtain ⟨token, ⟨hfile, hlisted⟩, haccepts, rfl⟩ := h
    obtain ⟨hid, hhash⟩ := (accepts_token seen token).mp haccepts
    have htoken : token =
        ⟨trim file.id, trimmed file.name, token.hash, file.enabled, token.tokenType⟩ := by
      rw [← hlisted.id, ← hlisted.name, ← hlisted.enabled]
    refine ⟨hfile.id, hlisted.id ▸ hid, token.tokenType, hlisted.tokenType, token.hash,
      hlisted.hash, ?_⟩
    by_cases henabled : file.enabled = false
    · rw [if_pos henabled, pure_eq_ok, after_disabled _ _ (hlisted.enabled.trans henabled)]
      rw [htoken, henabled]
    · have htrue : file.enabled = true := Bool.eq_true_of_not_eq_false henabled
      rw [if_neg henabled, check_eq_ok, bailIf_eq_ok, pure_eq_ok,
        after_enabled _ _ (hlisted.enabled.trans htrue)]
      refine ⟨hhash (hlisted.enabled.trans htrue), ?_⟩
      rw [htoken, htrue]

theorem parseFileTokens_eq_ok (rrbId : String) (seen : Seen) (files : List FileAuthToken)
    (result : Seen × List AuthToken) :
    files.foldlM (parseFileToken crates rrbId) (seen, []) = .ok result ↔
      ∃ tokens, ((∀ file ∈ files, file.WellFormed) ∧ List.Forall₂ TokenListed files tokens) ∧
        tokenCollector.accepts seen tokens ∧ result = (tokenCollector.after seen tokens, tokens) := by
  simp only [foldlM_collects tokenCollector _ _ (parseFileToken_eq_ok crates hhex rrbId),
    List.forall₂_and_left, List.nil_append]

/-- A target is taken when it is well-formed and nothing of it was met before. -/
theorem parseFileTarget_eq_ok (seen : Seen) (out : List Redis) (file : FileTarget)
    (result : Seen × List Redis) :
    parseFileTarget crates (seen, out) file = .ok result ↔
      ∃ target, (file.WellFormed ∧ TargetListed file target) ∧
        targetCollector.accepts seen [target] ∧
        result = (targetCollector.after seen [target], out ++ [target]) := by
  simp only [parseFileTarget, bind_eq_ok, exists_const, checkFileTarget_eq_ok,
    parseFileTokens_eq_ok crates hhex, bailIf_eq_ok, not_all_disabled, pure_eq_ok]
  constructor
  · intro h
    obtain ⟨⟨hid, hfresh, hconnection, hlimit, hshards, -⟩, _,
      ⟨tokens, ⟨hfiles, hlisted⟩, haccepts, rfl⟩, henabled, rfl⟩ := h
    have hsome := (exists_enabled file.tokens tokens hlisted).mp henabled
    have hfile : file.WellFormed :=
      ⟨hid, hconnection, Fin.pos_iff_ne_zero.mpr hlimit, Fin.pos_iff_ne_zero.mpr hshards, hsome,
        hfiles⟩
    refine ⟨⟨trim file.rrbId, trim file.connectionString, file.operationLimit,
      file.connectionShards, tokens⟩, ⟨hfile, rfl, rfl, rfl, rfl, hlisted⟩, ?_, ?_⟩
    · exact (accepts_target seen _).mpr ⟨hfresh, haccepts⟩
    · rw [after_target]
  · intro h
    obtain ⟨target, ⟨hfile, hlisted⟩, haccepts, rfl⟩ := h
    obtain ⟨hfresh, htokens⟩ := (accepts_target seen target).mp haccepts
    have htarget : target = ⟨trim file.rrbId, trim file.connectionString, file.operationLimit,
        file.connectionShards, target.tokens⟩ := by
      rw [← hlisted.rrbId, ← hlisted.connectionString, ← hlisted.operationLimit,
        ← hlisted.connectionShards]
    have hsome : file.tokens ≠ [] := by
      obtain ⟨token, htoken, -⟩ := hfile.enabled
      exact List.ne_nil_of_mem htoken
    rw [hlisted.rrbId] at hfresh htokens
    refine ⟨⟨hfile.rrbId, hfresh, hfile.connectionString,
      Fin.pos_iff_ne_zero.mp hfile.operationLimit, Fin.pos_iff_ne_zero.mp hfile.connectionShards,
      hsome⟩, _, ⟨target.tokens, ⟨hfile.tokens, hlisted.tokens⟩, htokens, rfl⟩,
      (exists_enabled file.tokens target.tokens hlisted.tokens).mpr hfile.enabled, ?_⟩
    rw [after_target, hlisted.rrbId, ← htarget]

/-- A file is accepted with its listing when it is well-formed, and only then. -/
theorem parseFileTargets_eq_ok (data : String) (config : FileConfig)
    (hdata : crates.decodeFileConfig data = .ok config) (hashToken : Option String)
    (targets : List Redis) :
    parseFileTargets crates data hashToken = .ok targets ↔
      config.WellFormed hashToken ∧ List.Forall₂ TargetListed config.targets targets := by
  simp only [parseFileTargets, bind_eq_ok, okOr_eq_ok, asConfigError, mapError_eq_ok, hdata,
    bailIf_eq_ok, exists_const, pure_eq_ok,
    foldlM_collects targetCollector _ _ (parseFileTarget_eq_ok crates hhex),
    List.forall₂_and_left, List.nil_append]
  have hversion : config.version = 1 ↔ config.version.val = 1 := Fin.ext_iff
  constructor
  · intro h
    obtain ⟨key, hkey, _, hconfig, hone, hne, _, hfound, rfl⟩ := h
    obtain ⟨found, ⟨hfiles, hlisted⟩, haccepts, rfl⟩ := hfound
    obtain rfl := Except.ok.inj hconfig
    obtain ⟨hids, htokenIds, hdigests⟩ := (accepts_listed _ _ hlisted).mp haccepts
    exact ⟨⟨(trimmed_eq_some hashToken).mp ⟨key, hkey⟩, hversion.mp (not_not.mp hone), hne, hfiles,
      hids, htokenIds, hdigests⟩, hlisted⟩
  · intro h
    obtain ⟨hconfig, hlisted⟩ := h
    obtain ⟨key, hkey⟩ := (trimmed_eq_some hashToken).mpr hconfig.key
    have haccepts := (accepts_listed _ _ hlisted).mpr
      ⟨hconfig.rrbIds, hconfig.tokenIds, hconfig.digests⟩
    exact ⟨key, hkey, config, rfl, not_not.mpr (hversion.mpr hconfig.version), hconfig.nonempty,
      _, ⟨targets, ⟨hconfig.targets, hlisted⟩, haccepts, rfl⟩, rfl⟩

end

/-- The accepted files are the well-formed ones, and an accepted file is listed as it
is, target by target and token by token. The case of a digest does not matter. -/
theorem parseFileTargets_accepts_iff (crates : Crates)
    (hhex : crates.decodeHex = decodeToSlice 32) (data : String) (config : FileConfig)
    (hdata : crates.decodeFileConfig data = .ok config) (hashToken : Option String) :
    ((∃ targets, parseFileTargets crates data hashToken = .ok targets) ↔
      config.WellFormed hashToken) ∧
    (∀ targets, parseFileTargets crates data hashToken = .ok targets →
      List.Forall₂ TargetListed config.targets targets) ∧
    ∀ text, crates.decodeHex (toAsciiLowercase text) = crates.decodeHex text := by
  have hparse := parseFileTargets_eq_ok crates hhex data config hdata hashToken
  refine ⟨⟨?_, ?_⟩, ?_, ?_⟩
  · intro h
    obtain ⟨targets, htargets⟩ := h
    exact ((hparse targets).mp htargets).1
  · intro hconfig
    obtain ⟨targets, hlisted⟩ := exists_forall₂ config.targets
      (fun file hfile => (hconfig.targets file hfile).exists_listed file)
    exact ⟨targets, (hparse targets).mpr ⟨hconfig, hlisted⟩⟩
  · intro targets htargets
    exact ((hparse targets).mp htargets).2
  · intro text
    rw [hhex, decodeToSlice_toAsciiLowercase]

/-- A token that was replaced under a new id; the old one is kept, disabled, with
the same digest in capitals. -/
def rotation : FileConfig :=
  ⟨1, [⟨"cache", "redis://cache", 100, 4,
    [⟨" new ", none, "0123456789abcdef0123456789abcdef0123456789abcdef0123456789abcdef", true, none⟩,
      ⟨"old", none, "0123456789ABCDEF0123456789ABCDEF0123456789ABCDEF0123456789ABCDEF", false, none⟩]⟩]⟩

def rotationFile : String :=
  "\x7b\"version\": 1, \"targets\": [\x7b\"rrb_id\": \"cache\", " ++
  "\"connection_string\": \"redis://cache\", \"tokens\": [\x7b\"id\": \" new \", " ++
  "\"hash\": \"0123456789abcdef0123456789abcdef0123456789abcdef0123456789abcdef\"\x7d, " ++
  "\x7b\"id\": \"old\", \"enabled\": false, " ++
  "\"hash\": \"0123456789ABCDEF0123456789ABCDEF0123456789ABCDEF0123456789ABCDEF\"\x7d]\x7d]\x7d"

def rotationCrates : Crates where
  sha256 := fun _ => Vector.replicate 32 0
  hmacSha256 := fun _ _ => Vector.replicate 32 0
  decodeHex := decodeToSlice 32
  decodeFileConfig := fun data =>
    if data = rotationFile then .ok rotation
    else .error "EOF while parsing a value at line 1 column 0"

theorem rotation_accepted :
    ∃ targets, parseFileTargets rotationCrates rotationFile (some "key") = .ok targets := by
  have hnew : (FileAuthToken.mk " new " none
      "0123456789abcdef0123456789abcdef0123456789abcdef0123456789abcdef" true none).WellFormed :=
    ⟨by decide, nofun, by decide, List.all_eq_true.mp (by decide)⟩
  have hold : (FileAuthToken.mk "old" none
      "0123456789ABCDEF0123456789ABCDEF0123456789ABCDEF0123456789ABCDEF" false none).WellFormed :=
    ⟨by decide, nofun, by decide, List.all_eq_true.mp (by decide)⟩
  have htarget : ∀ target ∈ rotation.targets, target.WellFormed := by
    refine List.forall_mem_singleton.mpr ⟨by decide, by decide, by decide, by decide, ?_, ?_⟩
    · exact ⟨_, List.mem_cons_self, rfl⟩
    · exact List.forall_mem_cons.mpr ⟨hnew, List.forall_mem_singleton.mpr hold⟩
  have hids : (rotation.targets.flatMap
      (fun target => target.tokens.map (fun token => trim token.id))).Nodup := by decide
  have hconfig : rotation.WellFormed (some "key") :=
    ⟨⟨"key", rfl, by decide⟩, rfl, by decide, htarget, List.nodup_singleton _, hids,
      List.nodup_singleton _⟩
  have hdata : rotationCrates.decodeFileConfig rotationFile = .ok rotation := by
    simp only [rotationCrates, if_true]
  exact (parseFileTargets_accepts_iff rotationCrates rfl rotationFile rotation hdata
    (some "key")).1.mpr hconfig

end RedisBridge.Targets
