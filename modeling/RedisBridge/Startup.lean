import RedisBridge.TargetIsolation

/-!
Which accepted environments start. What the environment passes has positive
bounds and enabled digests that differ, so building the state can only stop at a
connection string that does not open, at a number of shards that no vector holds
or at a number of permits that no semaphore takes, and it stops at the first
target that has one.
-/
namespace RedisBridge.App

open AssocTables BridgeConfig EnvVars Fallible RustText Targets

/-- The targets of an accepted environment can be routed. -/
theorem loadTargets_wellRouted (crates : Crates) (env : Env) (targets : List Redis)
    (h : loadTargets crates env = .ok targets) : WellRouted targets := by
  unfold loadTargets at h
  dsimp only at h
  split at h
  · simp only [loadEnvTarget, bind_eq_ok, bailIf_eq_ok, pure_eq_ok] at h
    obtain ⟨token, _, connection, _, limit, _, shards, _, tokenType, _, _, hlimit, _, hshards,
      rfl⟩ := h
    refine ⟨List.nodup_singleton _, ?_⟩
    intro target hmem
    obtain rfl := List.mem_singleton.mp hmem
    exact ⟨hlimit, hshards⟩
  · split at h
    · simp only [loadFileTargets, bind_eq_ok] at h
      obtain ⟨data, _, hparse⟩ := h
      exact parseFileTargets_wellRouted crates data _ targets ((mapError_eq_ok _ _ _).mp hparse)
    · cases h

namespace AppState

variable (openClient : String → Except String Unit)

/-- What stops the build at a target. -/
def obstacle (target : Redis) : Option StartupError :=
  match openClient target.connectionString with
  | .error cause => some (.invalidUrl target.rrbId cause)
  | .ok () =>
      if maxChannels < target.connectionShards.val then some .capacityOverflow
      else if maxPermits < target.operationLimit.val then some .tooManyPermits
      else none

/-- A target is added unless it has an obstacle. -/
theorem addTarget_exact (done : List Redis) (acc : List Redis × Table TokenHash AuthRoute)
    (target : Redis) (hwalked : Walked done acc) (hlimit : target.operationLimit ≠ 0)
    (hshards : target.connectionShards ≠ 0)
    (hnodup : (enabledHashes done ++ enabledOf target.tokens).Nodup) :
    match obstacle openClient target with
    | some error => addTarget openClient acc target = .error error
    | none => ∃ acc', addTarget openClient acc target = .ok acc' := by
  obtain ⟨hdone, hrouted⟩ := hwalked
  have hlimited : bailIf (target.operationLimit = 0)
      (StartupError.operationLimitZero target.rrbId) = .ok () := if_neg hlimit
  have hsharded : bailIf (target.connectionShards = 0)
      (StartupError.connectionShardsZero target.rrbId) = .ok () := if_neg hshards
  unfold obstacle addTarget
  rw [hlimited, hsharded]
  cases hopen : openClient target.connectionString with
  | error cause => exact rfl
  | ok opened =>
    dsimp only
    by_cases hchannels : maxChannels < target.connectionShards.val
    · have hbail : bailIf (maxChannels < target.connectionShards.val)
          StartupError.capacityOverflow = .error .capacityOverflow := if_pos hchannels
      rw [if_pos hchannels, hbail]
      rfl
    have hfits : bailIf (maxChannels < target.connectionShards.val)
        StartupError.capacityOverflow = .ok () := if_neg hchannels
    rw [if_neg hchannels, hfits]
    by_cases hpermits : maxPermits < target.operationLimit.val
    · rw [if_pos hpermits, bailIf, if_pos hpermits]
      rfl
    · rw [if_neg hpermits, bailIf, if_neg hpermits]
      cases hfold : target.tokens.foldlM (routeToken acc.1.length) acc.2 with
      | error error =>
        refine absurd hfold (routeTokens_ne_error _ (routePairs done) _ _ error hrouted ?_)
        rw [routePairs_hashes]
        exact hnodup
      | ok routes => exact ⟨(acc.1 ++ [target], routes), rfl⟩

/-- The build stops at the first target that has an obstacle, or walks over all. -/
theorem addTargets_exact (rest done : List Redis) (acc : List Redis × Table TokenHash AuthRoute)
    (hwalked : Walked done acc) (hwell : WellRouted (done ++ rest)) :
    match rest.findSome? (obstacle openClient) with
    | some error => rest.foldlM (addTarget openClient) acc = .error error
    | none => ∃ acc', rest.foldlM (addTarget openClient) acc = .ok acc' := by
  induction rest generalizing done acc with
  | nil => exact ⟨acc, rfl⟩
  | cons target rest ih =>
    obtain ⟨hnodup, hbounds⟩ := hwell
    obtain ⟨hlimit, hshards⟩ :=
      hbounds target (List.mem_append_right _ List.mem_cons_self)
    have hcut : enabledHashes (done ++ target :: rest) =
        (enabledHashes done ++ enabledOf target.tokens) ++ enabledHashes rest := by
      simp [enabledHashes]
    rw [hcut] at hnodup
    have hadded := addTarget_exact openClient done acc target hwalked hlimit hshards
      hnodup.of_append_left
    rw [List.findSome?_cons, List.foldlM_cons]
    cases hobstacle : obstacle openClient target with
    | some error =>
      rw [hobstacle] at hadded
      rw [hadded]
      rfl
    | none =>
      rw [hobstacle] at hadded
      obtain ⟨acc', hacc'⟩ := hadded
      rw [hacc']
      apply ih (done ++ [target]) acc' (addTarget_walked openClient done acc acc' target hwalked
        hacc')
      rw [List.append_assoc, List.singleton_append]
      exact ⟨hcut ▸ hnodup, hbounds⟩

/-- An accepted environment fails to start exactly at the first of its targets
that has an obstacle, or at its realtime permits if no target has one. -/
theorem startup_exact (crates : Crates) (env : Env) (bridge : Bridge)
    (henv : Bridge.fromEnv crates env = .ok bridge) (error : StartupError) :
    new openClient bridge = .error error ↔
      bridge.targets.findSome? (obstacle openClient) = some error ∨
        (bridge.targets.findSome? (obstacle openClient) = none ∧
          maxPermits < bridge.maxRealtimeConcurrency.val ∧ error = .tooManyPermits) := by
  obtain ⟨_, _, _, _, _, _, _, _, _, hload, _⟩ := Bridge.fromEnv_cases crates env bridge henv
  have hwell := loadTargets_wellRouted crates env bridge.targets hload
  have hstart : Walked [] (([], ∅) : List Redis × Table TokenHash AuthRoute) :=
    ⟨rfl, List.nodup_nil, by simp [routePairs]⟩
  have hwalk := addTargets_exact openClient bridge.targets [] ([], ∅) hstart hwell
  unfold new
  cases hfirst : bridge.targets.findSome? (obstacle openClient) with
  | some first =>
    rw [hfirst] at hwalk
    rw [hwalk]
    constructor
    · intro h
      exact Or.inl (congrArg some (Except.error.inj h))
    · rintro (h | ⟨hnone, _⟩)
      · exact congrArg Except.error (Option.some.inj h)
      · cases hnone
  | none =>
    rw [hfirst] at hwalk
    obtain ⟨acc, hacc⟩ := hwalk
    rw [hacc]
    constructor
    · intro h
      rcases (bind_eq_error _ _ _).mp h with hwalked | ⟨_, _, hbuild⟩
      · cases hwalked
      · rcases (bind_eq_error _ _ _).mp hbuild with hbail | ⟨_, _, hdone⟩
        · obtain ⟨hpermits, herror⟩ := (bailIf_eq_error _ _ _).mp hbail
          exact Or.inr ⟨rfl, hpermits, herror.symm⟩
        · cases hdone
    · rintro (hsome | ⟨_, hpermits, rfl⟩)
      · cases hsome
      · exact (bind_eq_error _ _ _).mpr (Or.inr ⟨acc, rfl, (bind_eq_error _ _ _).mpr
          (Or.inl ((bailIf_eq_error _ _ _).mpr ⟨hpermits, rfl⟩))⟩)

/-- 2^60 shards and a limit of 2^61 operations are accepted, and stop the start: the
channels of the shards are collected first. -/
def manyShards : Env :=
  Env.ofVars (envMode ++
    [("RRB_ALLOWED_COMMANDS", "GET"), ("RRB_CONNECTION_SHARDS", "1152921504606846976"),
      ("RRB_OPERATION_LIMIT", "2305843009213693952")])

theorem startup_exact_shards : ∃ bridge,
    Bridge.fromEnv abcCrates manyShards = .ok bridge ∧
      new (fun _ => .ok ()) bridge = .error .capacityOverflow := by
  obtain ⟨bridge, hbridge, hobstacle⟩ : ∃ bridge,
      Bridge.fromEnv abcCrates manyShards = .ok bridge ∧
        bridge.targets.findSome? (obstacle (fun _ => .ok ())) = some .capacityOverflow :=
    ⟨_, rfl, rfl⟩
  exact ⟨bridge, hbridge, (startup_exact (fun _ => .ok ()) abcCrates manyShards bridge hbridge
    .capacityOverflow).mpr (Or.inl hobstacle)⟩

end AppState

end RedisBridge.App
