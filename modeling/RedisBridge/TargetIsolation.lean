import RedisBridge.AuthRequests
import Mathlib.Data.List.Nodup

/-!
Isolation of the targets. Building the state walks over the targets and their
tokens and fills the routing table; the table then holds exactly the enabled
tokens, each under its own digest, with its own target and capabilities.
Digests that occur twice stop the build, whichever targets list them.
-/
namespace RedisBridge.App

open AssocTables BridgeConfig ClientAddress EnvVars Fallible Instants IpAddress Lockout
open Responses RustText Targets TokenType

/-- The routes of the enabled tokens of one target. -/
def tokenPairs (target : ℕ) (tokens : List AuthToken) : List (TokenHash × AuthRoute) :=
  (tokens.filter (fun token => token.enabled)).map
    (fun token => (token.hash, ⟨target, token.tokenType⟩))

/-- The routes of all enabled tokens, target by target. -/
def routePairs (targets : List Redis) : List (TokenHash × AuthRoute) :=
  targets.zipIdx.flatMap (fun entry => tokenPairs entry.2 entry.1.tokens)

theorem tokenPairs_append (target : ℕ) (tokens : List AuthToken) (token : AuthToken) :
    tokenPairs target (tokens ++ [token]) = tokenPairs target tokens ++
      if token.enabled = true then [(token.hash, ⟨target, token.tokenType⟩)] else [] := by
  unfold tokenPairs
  rw [List.filter_append, List.map_append]
  by_cases henabled : token.enabled = true
  · simp [henabled]
  · simp [henabled]

theorem routePairs_append (targets : List Redis) (target : Redis) :
    routePairs (targets ++ [target]) =
      routePairs targets ++ tokenPairs targets.length target.tokens := by
  simp [routePairs, List.zipIdx_append]

theorem tokenPairs_hashes (target : ℕ) (tokens : List AuthToken) :
    (tokenPairs target tokens).map Prod.fst = enabledOf tokens := by
  simp [tokenPairs, enabledOf]

theorem routePairs_hashes (targets : List Redis) :
    (routePairs targets).map Prod.fst = enabledHashes targets := by
  induction targets using List.reverseRecOn with
  | nil => rfl
  | append_singleton targets target ih =>
    rw [routePairs_append, List.map_append, ih, tokenPairs_hashes]
    simp [enabledHashes]

/-- A route is listed by an enabled token of the target it names. -/
theorem mem_routePairs (targets : List Redis) (hash : TokenHash) (route : AuthRoute) :
    (hash, route) ∈ routePairs targets ↔
      ∃ target token, targets[route.target]? = some target ∧ token ∈ target.tokens ∧
        token.enabled = true ∧ token.hash = hash ∧ token.tokenType = route.tokenType := by
  unfold routePairs tokenPairs
  constructor
  · intro h
    obtain ⟨⟨target, i⟩, htarget, hpair⟩ := List.mem_flatMap.mp h
    obtain ⟨token, htoken, heq⟩ := List.mem_map.mp hpair
    obtain ⟨hmem, henabled⟩ := List.mem_filter.mp htoken
    obtain ⟨rfl, rfl⟩ := Prod.mk.inj heq
    exact ⟨target, token, List.mem_zipIdx_iff_getElem?.mp htarget, hmem, henabled, rfl, rfl⟩
  · rintro ⟨target, token, htarget, hmem, henabled, rfl, htype⟩
    refine List.mem_flatMap.mpr
      ⟨(target, route.target), List.mem_zipIdx_iff_getElem?.mpr htarget, ?_⟩
    refine List.mem_map.mpr ⟨token, List.mem_filter.mpr ⟨hmem, henabled⟩, ?_⟩
    rw [htype]

/-- The table holds a list of routes, each under a digest of its own. -/
def Routed (routes : Table TokenHash AuthRoute) (pairs : List (TokenHash × AuthRoute)) : Prop :=
  (pairs.map Prod.fst).Nodup ∧
    ∀ hash route, routes.lookup hash = some route ↔ (hash, route) ∈ pairs

theorem Routed.mem_hashes {routes : Table TokenHash AuthRoute}
    {pairs : List (TokenHash × AuthRoute)} (h : Routed routes pairs) (hash : TokenHash) :
    (routes.lookup hash).isSome = true ↔ hash ∈ pairs.map Prod.fst := by
  rw [Option.isSome_iff_exists, List.mem_map]
  constructor
  · rintro ⟨route, hroute⟩
    exact ⟨(hash, route), (h.2 hash route).mp hroute, rfl⟩
  · rintro ⟨⟨hash', route⟩, hpair, rfl⟩
    exact ⟨route, (h.2 hash' route).mpr hpair⟩

theorem Routed.insert {routes : Table TokenHash AuthRoute}
    {pairs : List (TokenHash × AuthRoute)} (h : Routed routes pairs) (hash : TokenHash)
    (route : AuthRoute) (hfresh : hash ∉ pairs.map Prod.fst) :
    Routed (routes.insert hash route) (pairs ++ [(hash, route)]) := by
  constructor
  · rw [List.map_append, List.map_singleton, ← List.concat_eq_append]
    exact h.1.concat hfresh
  · intro hash' route'
    by_cases heq : hash' = hash
    · subst heq
      have hnone : ∀ r, (hash', r) ∉ pairs :=
        fun r hr => hfresh (List.mem_map.mpr ⟨(hash', r), hr, rfl⟩)
      rw [AList.lookup_insert, List.mem_append, List.mem_singleton]
      simp [hnone, eq_comm]
    · rw [AList.lookup_insert_ne heq, h.2, List.mem_append, List.mem_singleton]
      simp [heq]

namespace AppState

theorem routeToken_routed (target : ℕ) (earlier : List (TokenHash × AuthRoute))
    (done : List AuthToken) (routes routes' : Table TokenHash AuthRoute) (token : AuthToken)
    (hrouted : Routed routes (earlier ++ tokenPairs target done))
    (h : routeToken target routes token = .ok routes') :
    Routed routes' (earlier ++ tokenPairs target (done ++ [token])) := by
  unfold routeToken at h
  rw [tokenPairs_append, ← List.append_assoc]
  by_cases henabled : token.enabled = true
  · rw [if_pos henabled, check_eq_ok, bailIf_eq_ok, pure_eq_ok] at h
    obtain ⟨hfresh, rfl⟩ := h
    rw [if_pos henabled]
    exact hrouted.insert _ _ (fun hin => hfresh ((hrouted.mem_hashes _).mpr hin))
  · rw [if_neg henabled, pure_eq_ok] at h
    subst h
    rw [if_neg henabled, List.append_nil]
    exact hrouted

theorem routeTokens_routed (target : ℕ) (earlier : List (TokenHash × AuthRoute))
    (tokens : List AuthToken) (routes routes' : Table TokenHash AuthRoute)
    (hrouted : Routed routes earlier)
    (h : tokens.foldlM (routeToken target) routes = .ok routes') :
    Routed routes' (earlier ++ tokenPairs target tokens) := by
  have hstart : Routed routes (earlier ++ tokenPairs target []) := by
    simpa [tokenPairs] using hrouted
  exact foldlM_prefix_invariant _
    (fun done table => Routed table (earlier ++ tokenPairs target done))
    (fun done table token table' hb hstep =>
      routeToken_routed target earlier done table table' token hb hstep)
    [] tokens routes routes' hstart h

/-- Enabled tokens with digests that are all distinct and new are routed. -/
theorem routeTokens_ne_error (target : ℕ) (earlier : List (TokenHash × AuthRoute))
    (tokens : List AuthToken) (routes : Table TokenHash AuthRoute) (error : StartupError)
    (hrouted : Routed routes earlier)
    (hnodup : (earlier.map Prod.fst ++ enabledOf tokens).Nodup) :
    tokens.foldlM (routeToken target) routes ≠ .error error := by
  intro h
  obtain ⟨before, token, after, table, hsplit, hbefore, hroute⟩ := foldlM_eq_error _ _ _ _ h
  have htable := routeTokens_routed target earlier before routes table hrouted hbefore
  unfold routeToken at hroute
  by_cases henabled : token.enabled = true
  · have hcut : earlier.map Prod.fst ++ enabledOf tokens =
        (earlier.map Prod.fst ++ enabledOf before) ++ (token.hash :: enabledOf after) := by
      simp [enabledOf, hsplit, henabled]
    rw [if_pos henabled, bind_eq_error, bailIf_eq_error] at hroute
    rcases hroute with ⟨htaken, _⟩ | ⟨_, _, hpure⟩
    · have hin := (htable.mem_hashes token.hash).mp htaken
      rw [List.map_append, tokenPairs_hashes] at hin
      rw [hcut] at hnodup
      exact List.disjoint_of_nodup_append hnodup hin List.mem_cons_self
    · cases hpure
  · rw [if_neg henabled] at hroute
    cases hroute

/-- The targets walked over so far, and the table of their tokens. -/
def Walked (done : List Redis) (acc : List Redis × Table TokenHash AuthRoute) : Prop :=
  acc.1 = done ∧ Routed acc.2 (routePairs done)

theorem addTarget_walked (openClient : String → Except String Unit) (done : List Redis)
    (acc acc' : List Redis × Table TokenHash AuthRoute) (target : Redis)
    (hwalked : Walked done acc) (h : addTarget openClient acc target = .ok acc') :
    Walked (done ++ [target]) acc' := by
  obtain ⟨hdone, hrouted⟩ := hwalked
  simp only [addTarget, bind_eq_ok, pure_eq_ok] at h
  obtain ⟨_, _, _, _, _, _, _, _, _, _, routes, hfold, rfl⟩ := h
  refine ⟨by rw [hdone], ?_⟩
  rw [routePairs_append, ← hdone]
  rw [← hdone] at hrouted
  exact routeTokens_routed acc.1.length _ target.tokens acc.2 routes hrouted hfold

theorem addTargets_walked (openClient : String → Except String Unit) (targets : List Redis)
    (acc : List Redis × Table TokenHash AuthRoute)
    (h : targets.foldlM (addTarget openClient) ([], ∅) = .ok acc) : Walked targets acc := by
  have hstart : Walked [] ([], ∅) := by
    refine ⟨rfl, List.nodup_nil, ?_⟩
    intro hash route
    simp [routePairs]
  exact foldlM_prefix_invariant _ Walked
    (fun done acc target acc' hb hstep => addTarget_walked openClient done acc acc' target hb hstep)
    [] targets _ acc hstart h

/-- The built state has the configured targets, and the table of their enabled
tokens. -/
theorem new_routed (openClient : String → Except String Unit) (config : Bridge)
    (state : AppState) (h : new openClient config = .ok state) :
    state.targets = config.targets ∧ state.hashToken = config.hashToken ∧
      Routed state.tokenRoutes (routePairs config.targets) := by
  simp only [new, bind_eq_ok, pure_eq_ok] at h
  obtain ⟨⟨targets, routes⟩, hfold, _, _, rfl⟩ := h
  obtain ⟨htargets, hrouted⟩ := addTargets_walked openClient config.targets _ hfold
  exact ⟨htargets, rfl, hrouted⟩

/-- On targets with positive bounds and distinct enabled digests, only the URLs,
the vectors of shard channels and the semaphores can stop the build. -/
theorem new_error_of_wellRouted (openClient : String → Except String Unit) (config : Bridge)
    (error : StartupError) (hwell : WellRouted config.targets)
    (h : new openClient config = .error error) :
    (∃ rrbId cause, error = .invalidUrl rrbId cause) ∨ error = .capacityOverflow ∨
      error = .tooManyPermits := by
  obtain ⟨hnodup, hbounds⟩ := hwell
  simp only [new, bind_eq_error] at h
  rcases h with hfold | ⟨_, _, hpermits | ⟨_, _, hdone⟩⟩
  · obtain ⟨done, target, rest, acc, htargets, hdone, hadd⟩ := foldlM_eq_error _ _ _ _ hfold
    have hmem : target ∈ config.targets := by simp [htargets]
    obtain ⟨hlimit, hshards⟩ := hbounds target hmem
    obtain ⟨_, hrouted⟩ := addTargets_walked openClient done acc hdone
    simp only [addTarget, bind_eq_error, bailIf_eq_error] at hadd
    rcases hadd with ⟨hzero, _⟩ | ⟨_, _, ⟨hzero, _⟩ | ⟨_, _, hopen | ⟨_, _, ⟨_, hchannels⟩ |
      ⟨_, _, ⟨_, hpermits⟩ | ⟨_, _, htokens | ⟨_, _, hpure⟩⟩⟩⟩⟩⟩
    · exact absurd hzero hlimit
    · exact absurd hzero hshards
    · left
      cases hclient : openClient target.connectionString with
      | error cause =>
        rw [hclient] at hopen
        exact ⟨target.rrbId, cause, (Except.error.inj hopen).symm⟩
      | ok _ =>
        rw [hclient] at hopen
        cases hopen
    · exact Or.inr (Or.inl hchannels.symm)
    · exact Or.inr (Or.inr hpermits.symm)
    · have hcut : enabledHashes config.targets =
          (enabledHashes done ++ enabledOf target.tokens) ++ enabledHashes rest := by
        simp [enabledHashes, htargets]
      rw [hcut] at hnodup
      refine absurd htokens (routeTokens_ne_error _ (routePairs done) _ _ error hrouted ?_)
      rw [routePairs_hashes]
      exact hnodup.of_append_left
    · cases hpure
  · exact Or.inr (Or.inr ((bailIf_eq_error _ _ _).mp hpermits).2.symm)
  · cases hdone

/-- Isolation of the targets: a presented token is accepted exactly when one
enabled token over all targets has its digest, unless an earlier panic poisoned
the mutex of the lockout, and whenever it is accepted it is routed to the target
that lists that token, with that token's capabilities. The routing table holds
the digests of the enabled tokens and no others. A token file that is accepted
never stops the build at its bounds or at a digest that occurs twice. -/
theorem targets_isolated (crates : Crates) (openClient : String → Except String Unit)
    (config : Bridge) (state : AppState) (hnew : new openClient config = .ok state) :
    (∀ cells headers ip clock token, presentedToken headers = some token →
      (∀ entries, cells.lockout = .available entries →
        ((∃ route, (state.bridgeAuth crates cells headers ip clock).1 = .ok (.ok route)) ↔
          (enabledHashes config.targets).count (state.tokenDigest crates token) = 1)) ∧
      ∀ route, (state.bridgeAuth crates cells headers ip clock).1 = .ok (.ok route) →
        ∃ target listed, config.targets[route.target]? = some target ∧
          listed ∈ target.tokens ∧ listed.enabled = true ∧
          listed.hash = state.tokenDigest crates token ∧
          listed.tokenType = route.tokenType) ∧
    (∀ hash, hash ∈ state.tokenRoutes ↔ hash ∈ enabledHashes config.targets) ∧
    (∀ data hashToken targets, parseFileTargets crates data hashToken = .ok targets →
      ∀ fileConfig : Bridge, fileConfig.targets = targets →
        (∀ rrbId, new openClient fileConfig ≠ .error (.operationLimitZero rrbId)) ∧
        (∀ rrbId, new openClient fileConfig ≠ .error (.connectionShardsZero rrbId)) ∧
        new openClient fileConfig ≠ .error .duplicateTokenHash) := by
  obtain ⟨_, _, hrouted⟩ := new_routed openClient config state hnew
  have hhashes := hrouted.mem_hashes
  rw [routePairs_hashes] at hhashes
  have hnodup : (enabledHashes config.targets).Nodup := routePairs_hashes _ ▸ hrouted.1
  refine ⟨?_, ?_, ?_⟩
  · intro cells headers ip clock token htoken
    have hlookup (route : AuthRoute)
        (hroute : (state.bridgeAuth crates cells headers ip clock).1 = .ok (.ok route)) :
        state.tokenRoutes.lookup (state.tokenDigest crates token) = some route := by
      obtain ⟨token', htoken', hlook⟩ :=
        bridgeAuth_eq_ok state crates cells _ headers ip clock route (Prod.ext hroute rfl)
      rw [htoken] at htoken'
      obtain rfl : token = token' := Option.some.inj htoken'
      exact hlook
    constructor
    · intro entries hcell
      have hcount : (enabledHashes config.targets).count (state.tokenDigest crates token) = 1 ↔
          state.tokenDigest crates token ∈ enabledHashes config.targets := by
        constructor
        · intro hone
          exact List.count_pos_iff.mp (by omega)
        · exact List.count_eq_one_of_mem hnodup
      rw [hcount, ← hhashes, Option.isSome_iff_exists]
      apply exists_congr
      intro route
      exact ⟨hlookup route,
        bridgeAuth_of_lookup state crates cells entries headers ip clock token route hcell htoken⟩
    · intro route hroute
      have hpair := (hrouted.2 _ route).mp (hlookup route hroute)
      exact (mem_routePairs config.targets _ route).mp hpair
  · intro hash
    rw [← hhashes, AList.lookup_isSome]
  · intro data hashToken targets hparse fileConfig htargets
    have hwell : WellRouted fileConfig.targets :=
      htargets ▸ parseFileTargets_wellRouted crates data hashToken targets hparse
    have hstop := new_error_of_wellRouted openClient fileConfig
    refine ⟨?_, ?_, ?_⟩
    · intro rrbId herror
      rcases hstop _ hwell herror with ⟨_, _, h⟩ | h | h <;> cases h
    · intro rrbId herror
      rcases hstop _ hwell herror with ⟨_, _, h⟩ | h | h <;> cases h
    · intro herror
      rcases hstop _ hwell herror with ⟨_, _, h⟩ | h | h <;> cases h

end AppState

/-- The digest of the token `abc`, disabled for one target and enabled for the other. -/
def twoTargets : Bridge where
  host := "0.0.0.0"
  port := 8080
  targets :=
    [⟨"cache", "redis://cache", 100, 4,
      [⟨"old", none, TokenHash.sha256 abcCrates "abc", false, TokenCaps.commandOnly⟩]⟩,
    ⟨"queue", "redis://queue", 100, 4,
      [⟨"new", none, TokenHash.sha256 abcCrates "abc", true, TokenCaps.commandOnly⟩]⟩]
  hashToken := none
  security := ⟨{"GET"}, ∅, 1000, 256, 262144⟩
  maxBodyBytes := 1048576
  maxConcurrency := 1024
  maxRealtimeConcurrency := 1024
  requestTimeout := Duration.fromMillis 5000
  acquireTimeout := Duration.fromMillis 100
  maxResponseBytes := 10485760
  metricsToken := none
  authLockoutFailures := 10
  authLockoutWindow := Duration.fromSecs 300
  authLockoutDuration := Duration.fromSecs 300
  authLockoutMaxEntries := 65536
  trustProxyHeaders := false
  trustedProxies := TrustedProxies.noneTrusted

/-- Headers that present the token `abc`. -/
def bearerAbc : HeaderMap := fun name =>
  if name = "authorization" then some (asBytes "Bearer abc") else none

def freshCells : Cells := ⟨.available ∅, Metrics.new⟩

namespace AppState

/-- The token is accepted through the target that enables it. -/
theorem targets_isolated_abc : ∃ state route target,
    new (fun _ => .ok ()) twoTargets = .ok state ∧
      (state.bridgeAuth abcCrates freshCells bearerAbc (.v4 1)
        ⟨Instant.ofSecs 0, Instant.ofSecs 0⟩).1 = .ok (.ok route) ∧
      twoTargets.targets[route.target]? = some target ∧
      ∃ listed ∈ target.tokens, listed.enabled = true := by
  obtain ⟨state, hnew, hkey⟩ : ∃ state, new (fun _ => .ok ()) twoTargets = .ok state ∧
      state.hashToken = none := ⟨_, rfl, rfl⟩
  have hdigest : state.tokenDigest abcCrates "abc" = TokenHash.sha256 abcCrates "abc" := by
    unfold tokenDigest
    rw [hkey]
  obtain ⟨hauth, hroute⟩ := (targets_isolated abcCrates (fun _ => .ok ()) twoTargets state hnew).1
    freshCells bearerAbc (.v4 1) ⟨Instant.ofSecs 0, Instant.ofSecs 0⟩ "abc" (by decide)
  obtain ⟨route, hok⟩ := (hauth ∅ rfl).mpr (by rw [hdigest]; decide)
  obtain ⟨target, listed, htarget, hlisted, henabled, _⟩ := hroute route hok
  exact ⟨state, route, target, hnew, hok, htarget, listed, hlisted, henabled⟩

end AppState

end RedisBridge.App
