import RedisBridge.AuthCounting
import RedisBridge.HeaderText

/-!
Presenting the configured tokens. A token takes one way at startup, from its
variable through trimming to a digest or a comparison, and another one with every
request, from the header through decoding, cutting and trimming. The two ways
meet for the tokens that a header can spell, as long as no panic has poisoned the
mutex of the lockout.
-/
namespace RedisBridge.App

open BridgeConfig ClientAddress EnvVars Fallible HeaderText Instants IpAddress Lockout Responses
open RustText Targets TrimmedText

/-- The authorization header of a token, with spaces behind the scheme. -/
def authorizationText (scheme : String) (spaces : ℕ) (token : String) : String :=
  scheme ++ String.ofList (List.replicate spaces ' ') ++ token

/-- Headers that present a token, under any casing of the scheme. -/
def Presents (headers : HeaderMap) (token : String) : Prop :=
  ∃ scheme spaces, eqIgnoreAsciiCase scheme "Bearer" = true ∧ 0 < spaces ∧
    headers "authorization" = some (asBytes (authorizationText scheme spaces token))

/-- The configured bearer tokens that an environment spells out. -/
def Configured (env : Env) (token : String) : Prop :=
  (envOr env "RRB_MODE" "file" = "env" ∧ trimmed (envFirst env ["RRB_TOKEN"]) = some token) ∨
    trimmed (envFirst env ["RRB_METRICS_TOKEN"]) = some token

theorem trimmed_clear (value : Option String) (token : String) (h : trimmed value = some token) :
    Clear isWhitespace token.toList ∧ token ≠ "" := by
  obtain ⟨hmap, hne⟩ := Option.filter_eq_some_iff.mp h
  obtain ⟨raw, -, rfl⟩ := Option.map_eq_some_iff.mp hmap
  exact ⟨clear_trimMatches isWhitespace raw, of_decide_eq_true hne⟩

namespace AppState

variable (state : AppState) (crates : Crates)

theorem presentedToken_authorizationText (headers : HeaderMap) (scheme token : String)
    (spaces : ℕ) (hscheme : eqIgnoreAsciiCase scheme "Bearer" = true) (hspaces : 0 < spaces)
    (hclear : Clear isWhitespace token.toList) (hne : token ≠ "")
    (h : headers "authorization" = some (asBytes (authorizationText scheme spaces token))) :
    presentedToken headers = if token.toList.all isHeaderChar = true then some token else none := by
  have hletters := letters_of_eqIgnoreAsciiCase scheme "Bearer" (by decide) hscheme
  obtain ⟨more, rfl⟩ : ∃ more, spaces = more + 1 := Nat.exists_eq_add_one_of_ne_zero hspaces.ne'
  have htext : (authorizationText scheme (more + 1) token).toList =
      scheme.toList ++ ' ' :: (List.replicate more ' ' ++ token.toList) := by
    simp [authorizationText, List.replicate_succ]
  have hall : (authorizationText scheme (more + 1) token).toList.all isHeaderChar =
      token.toList.all isHeaderChar := by
    have hfirst : scheme.toList.all isHeaderChar = true := by
      rw [List.all_eq_true]
      intro c hc
      have hletter := hletters c hc
      simp only [isHeaderChar, Bool.or_eq_true, Bool.and_eq_true, decide_eq_true_eq]
      omega
    have hblank : (List.replicate more ' ').all isHeaderChar = true := by
      rw [List.all_eq_true]
      intro c hc
      rw [List.eq_of_mem_replicate hc]
      rfl
    rw [htext, List.all_append, List.all_cons, List.all_append, hfirst, hblank]
    rfl
  have hsplit : splitOnce isWhitespace (authorizationText scheme (more + 1) token) =
      some (scheme, String.ofList (List.replicate more ' ' ++ token.toList)) := by
    rw [splitOnce_eq_some]
    refine ⟨' ', by decide, fun c hc => isWhitespace_of_letter c (hletters c hc), ?_⟩
    rw [htext, String.toList_ofList]
  have htrim : trim (String.ofList (List.replicate more ' ' ++ token.toList)) = token := by
    have hpad := trimMatches_pad isWhitespace (List.replicate more ' ') token.toList [] (by
      intro c hc
      rw [List.eq_of_mem_replicate hc]
      decide) (fun _ hc => by cases hc) hclear
    rwa [List.append_nil, String.ofList_toList] at hpad
  unfold presentedToken
  rw [h, Option.bind_some, toStr_asBytes, hall]
  split_ifs with hgood
  · simp only [Option.bind_eq_bind, Option.bind_some, hsplit, htrim]
    rw [if_neg]
    simp [hscheme, hne]
  · rfl

/-- A header that presents a token presents exactly that, if it can spell it. -/
theorem presentedToken_presents (headers : HeaderMap) (value : Option String) (token : String)
    (htoken : trimmed value = some token) (h : Presents headers token) :
    presentedToken headers = if token.toList.all isHeaderChar = true then some token else none := by
  obtain ⟨hclear, hne⟩ := trimmed_clear value token htoken
  obtain ⟨scheme, spaces, hscheme, hspaces, hheader⟩ := h
  exact presentedToken_authorizationText headers scheme token spaces hscheme hspaces hclear hne
    hheader

/-- Cells whose lockout some run of requests leaves behind, on readings of a
clock. -/
def Reachable (clock : Set Instant) (cells : Cells) : Prop :=
  ∃ requests : List AuthRequest, (∀ request ∈ requests, ∀ now ∈ request.readings, now ∈ clock) ∧
    cells.lockout = (state.authRun crates freshCells requests).2.lockout

/-- The configured credentials can be presented, in every reachable state. -/
structure Presentable (env : Env) (clock : Set Instant) : Prop where
  bridge : envOr env "RRB_MODE" "file" = "env" →
    ∀ token, trimmed (envFirst env ["RRB_TOKEN"]) = some token →
      ∀ cells, state.Reachable crates clock cells → ∀ headers, Presents headers token →
        ∀ ip readings, ∃ route,
          (state.bridgeAuth crates cells headers ip readings).1 = .ok (.ok route)
  metrics : ∀ token, trimmed (envFirst env ["RRB_METRICS_TOKEN"]) = some token →
    ∀ cells, state.Reachable crates clock cells → ∀ headers, Presents headers token →
      ∀ ip readings, (state.metricsAuth cells headers ip readings).1 = .ok (.ok ())
  fileKey : envOr env "RRB_MODE" "file" = "file" →
    ∃ key, trimmed (envFirst env ["RRB_HASH_TOKEN"]) = some key ∧ state.hashToken = some key ∧
      ∀ token, state.tokenDigest crates token = TokenHash.hmacSha256 crates key token
  envKey : envOr env "RRB_MODE" "file" = "env" →
    state.hashToken = none ∧
      ∀ token, state.tokenDigest crates token = TokenHash.sha256 crates token

/-! What a reachable lockout is. -/

theorem reachable_available (clock : Set Instant) (cells : Cells)
    (hends : state.authLockout.isEnabled = true → ∀ now ∈ clock, state.authLockout.LockEnds now)
    (h : state.Reachable crates clock cells) : ∃ entries, cells.lockout = .available entries := by
  obtain ⟨requests, hreadings, hcells⟩ := h
  obtain ⟨entries, hrun, -⟩ := authRun_end state crates state.SteadyCells _
    (authenticate_steady state crates) requests freshCells state.steady_freshCells
    (fun request hmem henabled => hends henabled _ (hreadings request hmem _ List.mem_cons_self))
  exact ⟨entries, hcells.trans hrun⟩

/-- A lock that would end outside the clock's range leaves a poisoned mutex. -/
theorem reachable_poisoned (clock : Set Instant) (now : Instant) (hnow : now ∈ clock)
    (henabled : state.authLockout.isEnabled = true)
    (hwindow : 0 < state.authLockout.failureWindow.nanos)
    (hentries : 0 < state.authLockout.maxEntries.val)
    (hends : ¬state.authLockout.LockEnds now) :
    state.Reachable crates clock ⟨.poisoned, Metrics.new⟩ := by
  obtain ⟨n, entries, -, hrun, hrecord⟩ :=
    authRun_overflows state crates now henabled hwindow hentries hends
  refine ⟨List.replicate n (unpresented now) ++ [unpresented now], ?_, ?_⟩
  · intro request hrequest t ht
    have hsame : request = unpresented now := by
      rcases List.mem_append.mp hrequest with hearly | hlast
      · exact List.eq_of_mem_replicate hearly
      · exact List.mem_singleton.mp hlast
    rw [hsame] at ht
    rw [readings_unpresented now t ht]
    exact hnow
  · obtain ⟨metrics, message, hend⟩ :=
      authRun_unpresented state crates freshCells _ now entries hrun
    rw [hend, reject_panicked state entries metrics _ (unpresented now).clock message _ hrecord]

/-- Behind a poisoned mutex nothing is accepted any more. -/
theorem accept_panics {α : Type} (cells : Cells) (ip : IpAddr) (clock : Readings) (result : α)
    (henabled : state.authLockout.isEnabled = true) (hcell : cells.lockout = .poisoned) :
    (state.accept cells ip clock result).1 = .error .mutexPoisoned := by
  simp only [accept, recordSuccess, AuthLockout.withLock, hcell, henabled, if_true, Step.andThen]

/-! What startup makes of the variables. -/

theorem fromEnv_credentials (env : Env) (bridge : Bridge)
    (h : Bridge.fromEnv crates env = .ok bridge) :
    loadTargets crates env = .ok bridge.targets ∧
      bridge.metricsToken = trimmed (envFirst env ["RRB_METRICS_TOKEN"]) ∧
      bridge.hashToken = if envOr env "RRB_MODE" "file" = "file" then
        trimmed (envFirst env ["RRB_HASH_TOKEN"]) else none := by
  simp only [Bridge.fromEnv, bind_eq_ok, pure_eq_ok] at h
  obtain ⟨_, _, _, _, _, _, _, _, _, _, _, _, targets, htargets, _, _, rfl⟩ := h
  exact ⟨htargets, rfl, rfl⟩

theorem new_metricsToken (openClient : String → Except String Unit) (config : Bridge)
    (h : new openClient config = .ok state) : state.metricsToken = config.metricsToken := by
  simp only [new, bind_eq_ok, pure_eq_ok] at h
  obtain ⟨_, _, _, _, rfl⟩ := h
  rfl

/-- In env mode the only token is routed under its own digest. -/
theorem env_routes (env : Env) (targets : List Redis) (token : String)
    (hmode : envOr env "RRB_MODE" "file" = "env")
    (htoken : trimmed (envFirst env ["RRB_TOKEN"]) = some token)
    (h : loadTargets crates env = .ok targets) :
    ∃ route, routePairs targets = [(TokenHash.sha256 crates token, route)] := by
  rw [loadTargets, if_pos hmode] at h
  simp only [loadEnvTarget, htoken, bind_eq_ok, okOr_eq_ok, pure_eq_ok] at h
  obtain ⟨_, htext, _, _, _, _, _, _, tokenType, _, _, _, _, _, rfl⟩ := h
  cases htext
  exact ⟨⟨0, tokenType⟩, rfl⟩

theorem file_key (env : Env) (targets : List Redis)
    (hmode : envOr env "RRB_MODE" "file" = "file") (h : loadTargets crates env = .ok targets) :
    ∃ key, trimmed (envFirst env ["RRB_HASH_TOKEN"]) = some key := by
  rw [loadTargets, if_neg (by rw [hmode]; decide), if_pos hmode] at h
  simp only [loadFileTargets, bind_eq_ok, mapError_eq_ok, parseFileTargets, okOr_eq_ok] at h
  obtain ⟨_, _, _, hkey, _⟩ := h
  cases hvalue : trimmed (envFirst env ["RRB_HASH_TOKEN"]) with
  | none =>
    rw [hvalue] at hkey
    cases hkey
  | some key => exact ⟨key, rfl⟩

/-! Presenting a token that a header can spell, and one that it cannot. -/

section

variable (env : Env) (bridge : Bridge) (openClient : String → Except String Unit)
  (henv : Bridge.fromEnv crates env = .ok bridge) (hnew : new openClient bridge = .ok state)

include henv hnew

/-- In env mode the token is accepted, whatever the cells. -/
theorem bridge_presented (headers : HeaderMap) (token : String)
    (hmode : envOr env "RRB_MODE" "file" = "env")
    (htoken : trimmed (envFirst env ["RRB_TOKEN"]) = some token)
    (hspelled : token.toList.all isHeaderChar = true) (h : Presents headers token) :
    ∃ route, ∀ cells ip clock, state.bridgeAuth crates cells headers ip clock =
      state.accept cells ip clock route := by
  obtain ⟨htargets, -, hkey⟩ := fromEnv_credentials crates env bridge henv
  obtain ⟨-, hstate, hrouted⟩ := new_routed openClient bridge state hnew
  obtain ⟨route, hpairs⟩ := env_routes crates env bridge.targets token hmode htoken htargets
  have hfound : state.tokenRoutes.lookup (TokenHash.sha256 crates token) = some route := by
    rw [hrouted.2, hpairs]
    exact List.mem_singleton_self _
  have hnone : state.hashToken = none := by
    rw [hstate, hkey, if_neg (by rw [hmode]; decide)]
  have hpresented := presentedToken_presents headers _ token htoken h
  rw [if_pos hspelled] at hpresented
  have hroute : state.credentials.route crates (headers "authorization") = some route := by
    refine Option.bind_eq_some_iff.mpr ⟨token, hpresented, ?_⟩
    rw [Credentials.digest, credentials, hnone]
    exact hfound
  exact ⟨route, fun cells ip clock =>
    bridgeAuth_accepts state crates cells headers ip clock route hroute⟩

theorem metrics_presented (headers : HeaderMap) (token : String)
    (htoken : trimmed (envFirst env ["RRB_METRICS_TOKEN"]) = some token)
    (hspelled : token.toList.all isHeaderChar = true) (h : Presents headers token)
    (cells : Cells) (ip : IpAddr) (clock : Readings) :
    state.metricsAuth cells headers ip clock = state.accept cells ip clock () := by
  obtain ⟨-, hmetrics, -⟩ := fromEnv_credentials crates env bridge henv
  have hstate := new_metricsToken state openClient bridge hnew
  have hpresented := presentedToken_presents headers _ token htoken h
  rw [if_pos hspelled] at hpresented
  have haccept : state.credentials.accept crates .metrics (headers "authorization") = true := by
    refine (Option.any_eq_true _ _).mpr ⟨token, hpresented, (Option.any_eq_true _ _).mpr
      ⟨token, ?_, beq_self_eq_true _⟩⟩
    rw [credentials, hstate, hmetrics]
    exact htoken
  exact metricsAuth_accepts state crates cells headers ip clock haccept

omit henv hnew in
/-- A token that a header cannot spell is not accepted by either check. -/
theorem unspelled_rejected (headers : HeaderMap) (value : Option String) (token : String)
    (htoken : trimmed value = some token) (hunspelled : ¬token.toList.all isHeaderChar = true)
    (h : Presents headers token) (cells : Cells) (ip : IpAddr) (clock : Readings) :
    (∀ route, (state.bridgeAuth crates cells headers ip clock).1 ≠ .ok (.ok route)) ∧
      (state.metricsAuth cells headers ip clock).1 ≠ .ok (.ok ()) := by
  have hpresented := presentedToken_presents headers value token htoken h
  rw [if_neg hunspelled] at hpresented
  constructor
  · intro route hok
    obtain ⟨found, hfound, -⟩ := bridgeAuth_eq_ok state crates cells _ headers ip clock route
      (Prod.ext hok rfl)
    rw [hpresented] at hfound
    cases hfound
  · intro hok
    cases hmetrics : state.metricsToken with
    | none =>
      rw [metricsAuth, hmetrics] at hok
      cases hok
    | some metricsToken =>
      rw [metricsAuth, hmetrics, bearerToken, hpresented] at hok
      dsimp only at hok
      rw [reject_andThen state cells ip clock _ _ (fun _ _ => rfl)] at hok
      exact reject_ne state cells _ ip clock _ () (Prod.ext hok rfl)

theorem keys_of_mode :
    (envOr env "RRB_MODE" "file" = "file" →
      ∃ key, trimmed (envFirst env ["RRB_HASH_TOKEN"]) = some key ∧ state.hashToken = some key ∧
        ∀ token, state.tokenDigest crates token = TokenHash.hmacSha256 crates key token) ∧
    (envOr env "RRB_MODE" "file" = "env" → state.hashToken = none ∧
      ∀ token, state.tokenDigest crates token = TokenHash.sha256 crates token) := by
  obtain ⟨htargets, -, hkey⟩ := fromEnv_credentials crates env bridge henv
  obtain ⟨-, hstate, -⟩ := new_routed openClient bridge state hnew
  constructor
  · intro hmode
    obtain ⟨key, hvalue⟩ := file_key crates env bridge.targets hmode htargets
    have hsome : state.hashToken = some key := by rw [hstate, hkey, if_pos hmode, hvalue]
    refine ⟨key, hvalue, hsome, fun token => ?_⟩
    rw [tokenDigest, hsome]
  · intro hmode
    have hnone : state.hashToken = none := by
      rw [hstate, hkey, if_neg (by rw [hmode]; decide)]
    refine ⟨hnone, fun token => ?_⟩
    rw [tokenDigest, hnone]

end

/-- Headers that present a token in the shortest way. -/
def bearer (token : String) : HeaderMap := fun name =>
  if name = "authorization" then some (asBytes (authorizationText "Bearer" 1 token)) else none

theorem presents_bearer (token : String) : Presents (bearer token) token :=
  ⟨"Bearer", 1, by decide, Nat.one_pos, rfl⟩

theorem reachable_fresh (clock : Set Instant) : state.Reachable crates clock freshCells :=
  ⟨[], fun _ h => absurd h List.not_mem_nil, rfl⟩

theorem spelled_of_presentable (env : Env) (clock : Set Instant)
    (h : state.Presentable crates env clock) (token : String) (htoken : Configured env token) :
    token.toList.all isHeaderChar = true := by
  by_contra hunspelled
  have hfresh := reachable_fresh state crates clock
  have hpresents := presents_bearer token
  rcases htoken with ⟨hmode, htoken⟩ | htoken
  · obtain ⟨route, hok⟩ := h.bridge hmode token htoken freshCells hfresh (bearer token) hpresents
      (.v4 0) ⟨Instant.ofSecs 0, Instant.ofSecs 0⟩
    exact (unspelled_rejected state crates (bearer token) _ token htoken hunspelled hpresents
      _ _ _).1 route hok
  · exact (unspelled_rejected state crates (bearer token) _ token htoken hunspelled hpresents
      _ _ _).2 (h.metrics token htoken freshCells hfresh (bearer token) hpresents (.v4 0)
        ⟨Instant.ofSecs 0, Instant.ofSecs 0⟩)

section

variable (env : Env) (bridge : Bridge) (openClient : String → Except String Unit)
  (henv : Bridge.fromEnv crates env = .ok bridge) (hnew : new openClient bridge = .ok state)
  (clock : Set Instant)

include henv hnew

/-- A configured credential is not presentable where a run can poison the mutex. -/
theorem not_presentable_of_poisoned (token : String) (htoken : Configured env token)
    (henabled : state.authLockout.isEnabled = true) (metrics : Metrics)
    (hpoisoned : state.Reachable crates clock ⟨.poisoned, metrics⟩) :
    ¬state.Presentable crates env clock := by
  intro h
  have hspelled := spelled_of_presentable state crates env clock h token htoken
  have hpresents := presents_bearer token
  rcases htoken with ⟨hmode, htext⟩ | htext
  · obtain ⟨route, haccept⟩ := bridge_presented state crates env bridge openClient henv hnew
      (bearer token) token hmode htext hspelled hpresents
    obtain ⟨found, hok⟩ := h.bridge hmode token htext _ hpoisoned (bearer token) hpresents
      (.v4 0) ⟨Instant.ofSecs 0, Instant.ofSecs 0⟩
    rw [haccept, accept_panics state _ _ _ _ henabled rfl] at hok
    cases hok
  · have hok := h.metrics token htext _ hpoisoned (bearer token) hpresents (.v4 0)
      ⟨Instant.ofSecs 0, Instant.ofSecs 0⟩
    rw [metrics_presented state crates env bridge openClient henv hnew (bearer token) token htext
      hspelled hpresents, accept_panics state _ _ _ _ henabled rfl] at hok
    cases hok

/-- Spelled credentials are presentable while the mutex stays available. -/
theorem presentable_of_available
    (hspelled : ∀ token, Configured env token → token.toList.all isHeaderChar = true)
    (havailable : (∃ token, Configured env token) → ∀ cells,
      state.Reachable crates clock cells → ∃ entries, cells.lockout = .available entries) :
    state.Presentable crates env clock := by
  obtain ⟨hfile, henvKey⟩ := keys_of_mode state crates env bridge openClient henv hnew
  refine ⟨?_, ?_, hfile, henvKey⟩
  · intro hmode token htoken cells hreach headers hpresents ip readings
    have hconfigured : Configured env token := Or.inl ⟨hmode, htoken⟩
    obtain ⟨entries, hcell⟩ := havailable ⟨token, hconfigured⟩ cells hreach
    obtain ⟨route, haccept⟩ := bridge_presented state crates env bridge openClient henv hnew
      headers token hmode htoken (hspelled token hconfigured) hpresents
    refine ⟨route, ?_⟩
    rw [haccept]
    exact accept_fst state cells entries ip readings route hcell
  · intro token htoken cells hreach headers hpresents ip readings
    have hconfigured : Configured env token := Or.inr htoken
    obtain ⟨entries, hcell⟩ := havailable ⟨token, hconfigured⟩ cells hreach
    rw [metrics_presented state crates env bridge openClient henv hnew headers token htoken
      (hspelled token hconfigured) hpresents]
    exact accept_fst state cells entries ip readings () hcell

end

/-- Every configured credential can be presented in every reachable state exactly
when a header can spell them all and, if there are any, no lock ends outside the
clock's range. -/
theorem presentable_iff (crates : Crates) (env : Env) (bridge : Bridge)
    (openClient : String → Except String Unit) (state : AppState)
    (henv : Bridge.fromEnv crates env = .ok bridge) (hnew : new openClient bridge = .ok state)
    (clock : Set Instant) :
    state.Presentable crates env clock ↔
      (∀ token, Configured env token → token.toList.all isHeaderChar = true) ∧
      ((∃ token, Configured env token) → bridge.authLockoutFailures = 0 ∨
        ∀ now ∈ clock, now.nanos + bridge.authLockoutDuration.nanos < 2 ^ 63 * 10 ^ 9) := by
  constructor
  · intro h
    refine ⟨spelled_of_presentable state crates env clock h, ?_⟩
    intro hany
    obtain ⟨token, htoken⟩ := hany
    by_contra hcondition
    obtain ⟨now, hnow, henabled, hwindow, hentries, hoverflow⟩ :=
      exists_overflow crates env bridge openClient state henv hnew clock hcondition
    exact not_presentable_of_poisoned state crates env bridge openClient henv hnew clock token
      htoken henabled _ (reachable_poisoned state crates clock now hnow henabled hwindow hentries
        hoverflow) h
  · intro hcondition
    obtain ⟨hspelled, hlocks⟩ := hcondition
    apply presentable_of_available state crates env bridge openClient henv hnew clock hspelled
    intro hany cells hreach
    exact reachable_available state crates clock cells
      (lockEnds_of_bounded bridge openClient state hnew clock (hlocks hany)) hreach

/-- The token `abc`, under the default lockout of five minutes. -/
theorem presentable_abc : ∃ bridge state, Bridge.fromEnv abcCrates briefLock = .ok bridge ∧
    new (fun _ => .ok ()) bridge = .ok state ∧
    state.Presentable abcCrates briefLock {t | t ≤ Instant.ofSecs 4294967295} := by
  obtain ⟨bridge, state, hbridge, hnew, hduration⟩ : ∃ bridge state,
      Bridge.fromEnv abcCrates briefLock = .ok bridge ∧
      new (fun _ => .ok ()) bridge = .ok state ∧
        bridge.authLockoutDuration = Duration.fromSecs 300 := ⟨_, _, rfl, rfl, rfl⟩
  refine ⟨bridge, state, hbridge, hnew, (presentable_iff abcCrates briefLock bridge
    (fun _ => .ok ()) state hbridge hnew _).mpr ⟨?_, fun _ => Or.inr ?_⟩⟩
  · intro token htoken
    rcases htoken with ⟨-, htoken⟩ | htoken
    · have habc : trimmed (envFirst briefLock ["RRB_TOKEN"]) = some "abc" := by decide
      rw [habc] at htoken
      cases htoken
      decide
    · have hnone : trimmed (envFirst briefLock ["RRB_METRICS_TOKEN"]) = none := by decide
      rw [hnone] at htoken
      cases htoken
  · intro now hnow
    exact brief_lock_ends bridge hduration now hnow

/-- A token with a letter outside ASCII. -/
def accentedToken : Env := Env.ofVars [("RRB_MODE", "env"), ("RRB_TOKEN", "clé"),
  ("RRB_CONNECTION_STRING", "redis://localhost"), ("RRB_ALLOWED_COMMANDS", "GET")]

/-- The bridge starts with a token outside ASCII, and rejects the header that
presents it. -/
theorem accented_token_rejected : ∃ bridge state,
    Bridge.fromEnv abcCrates accentedToken = .ok bridge ∧
    new (fun _ => .ok ()) bridge = .ok state ∧
    trimmed (envFirst accentedToken ["RRB_TOKEN"]) = some "clé" ∧
    (state.bridgeAuth abcCrates freshCells (bearer "clé") (.v4 1)
      ⟨Instant.ofSecs 0, Instant.ofSecs 0⟩).1 =
        .ok (.error (.unauthorized "Invalid authorization header")) ∧
    ¬state.Presentable abcCrates accentedToken ∅ := by
  obtain ⟨bridge, state, hbridge, hnew, htoken, hrejected⟩ : ∃ bridge state,
      Bridge.fromEnv abcCrates accentedToken = .ok bridge ∧
      new (fun _ => .ok ()) bridge = .ok state ∧
      trimmed (envFirst accentedToken ["RRB_TOKEN"]) = some "clé" ∧
      (state.bridgeAuth abcCrates freshCells (bearer "clé") (.v4 1)
        ⟨Instant.ofSecs 0, Instant.ofSecs 0⟩).1 =
          .ok (.error (.unauthorized "Invalid authorization header")) :=
    ⟨_, _, rfl, rfl, by decide, rfl⟩
  refine ⟨bridge, state, hbridge, hnew, htoken, hrejected, ?_⟩
  intro h
  obtain ⟨route, hok⟩ := h.bridge (by decide) "clé" htoken freshCells
    (reachable_fresh state abcCrates ∅) (bearer "clé") (presents_bearer "clé") (.v4 1)
    ⟨Instant.ofSecs 0, Instant.ofSecs 0⟩
  rw [hrejected] at hok
  cases hok

end AppState

end RedisBridge.App
