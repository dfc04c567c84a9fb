import RedisBridge.BridgeConfig
import RedisBridge.LockoutGuard

/-!
The lockout of an accepted configuration. A panic while the table is held
poisons its mutex, so the table stays usable for exactly those settings whose
locks all end inside the clock's range.
-/
namespace RedisBridge.Lockout

open AssocTables BridgeConfig EnvVars Fallible Instants IpAddress RustText Targets

namespace AuthLockout

variable (lockout : AuthLockout)

/-- A panic-free run through the mutex: every call returns, and the next one can
take the lock. -/
def Usable (calls : List Call) : Prop :=
  (∀ outcome ∈ (lockout.runGuarded (.available ∅) calls).1, ∃ reply, outcome = .ok reply) ∧
    (lockout.runGuarded (.available ∅) calls).2 ≠ .poisoned

theorem usable_of_run (calls : List Call) (log : List (Call × Reply)) (last : Entries)
    (h : lockout.run ∅ calls = .ok (log, last)) : lockout.Usable calls := by
  unfold Usable
  rw [runGuarded_of_run lockout calls ∅ last log h]
  constructor
  · intro outcome houtcome
    obtain ⟨entry, _, rfl⟩ := List.mem_map.mp houtcome
    exact ⟨_, rfl⟩
  · simp

/-- An accepted configuration that enables the lockout has a window and room. -/
theorem enabled_of_fromEnv (crates : Crates) (env : Env) (bridge : Bridge)
    (henv : Bridge.fromEnv crates env = .ok bridge) (hfailures : bridge.authLockoutFailures ≠ 0) :
    bridge.lockout.isEnabled = true ∧ 0 < bridge.lockout.failureWindow.nanos ∧
      0 < bridge.lockout.maxEntries.val := by
  obtain ⟨settings, _, _, _, _, _, _, hcheck, _, _, _, hmax, hwindow, _, hentries⟩ :=
    Bridge.fromEnv_cases crates env bridge henv
  have hpos : 0 < bridge.authLockoutFailures := Fin.pos_iff_ne_zero.mpr hfailures
  simp only [checkLockout, bind_eq_ok, bailIf_eq_ok, not_and] at hcheck
  obtain ⟨_, hseconds, _, _, hroom⟩ := hcheck
  have hseconds' := hseconds (hmax ▸ hpos)
  have hroom' := hroom (hmax ▸ hpos)
  refine ⟨decide_eq_true hpos, ?_, ?_⟩
  · have hval : settings.authLockoutWindowSeconds.val ≠ 0 := fun h => hseconds' (Fin.ext h)
    unfold Bridge.lockout
    rw [hwindow]
    unfold Duration.fromSecs
    dsimp only
    omega
  · have hval : settings.authLockoutMaxEntries.val ≠ 0 := fun h => hroom' (Fin.ext h)
    unfold Bridge.lockout
    rw [hentries]
    dsimp only
    omega

/-- For the clock readings of a set, the lockout of an accepted configuration
never panics in any run exactly when it is disabled or every lock taken at one
of these readings ends inside the clock's range. -/
theorem usable_iff_lock_ends (crates : Crates) (env : Env) (bridge : Bridge)
    (henv : Bridge.fromEnv crates env = .ok bridge) (clock : Set Instant) :
    (∀ calls, (∀ now ∈ calls.filterMap Call.instant?, now ∈ clock) →
      bridge.lockout.Usable calls) ↔
      bridge.authLockoutFailures = 0 ∨
        ∀ now ∈ clock, now.nanos + bridge.authLockoutDuration.nanos < 2 ^ 63 * 10 ^ 9 := by
  constructor
  · intro husable
    by_contra hcondition
    rw [not_or] at hcondition
    obtain ⟨hfailures, hends⟩ := hcondition
    push Not at hends
    obtain ⟨now, hnow, hlate⟩ := hends
    obtain ⟨henabled, hwindow, hentries⟩ := enabled_of_fromEnv crates env bridge henv hfailures
    obtain ⟨outcomes, hrun⟩ := threshold_poisons bridge.lockout (.v4 0) now henabled
      (fun _ => hwindow) hentries (not_lt.mpr hlate)
    have hcalls := husable (List.replicate bridge.lockout.maxFailures.val (.failure (.v4 0) now))
    have hinstants : ∀ t ∈ (List.replicate bridge.lockout.maxFailures.val
        (Call.failure (.v4 0) now)).filterMap Call.instant?, t ∈ clock := by
      intro t ht
      obtain ⟨call, hcall, hinstant⟩ := List.mem_filterMap.mp ht
      rw [List.eq_of_mem_replicate hcall] at hinstant
      cases hinstant
      exact hnow
    apply (hcalls hinstants).2
    rw [hrun]
  · intro hcondition calls hcalls
    have hends : bridge.lockout.isEnabled = true →
        ∀ now ∈ calls.filterMap Call.instant?, bridge.lockout.LockEnds now := by
      intro henabled now hnow
      have hpos : 0 < bridge.authLockoutFailures := of_decide_eq_true henabled
      rcases hcondition with hzero | hall
      · exact absurd hzero (Fin.pos_iff_ne_zero.mp hpos)
      · exact hall now (hcalls now hnow)
    obtain ⟨log, last, hrun⟩ := run_returns bridge.lockout calls ∅ hends (every_empty _)
    exact usable_of_run bridge.lockout calls log last hrun

end AuthLockout

def briefLock : Env := Env.ofVars (envMode ++ [("RRB_ALLOWED_COMMANDS", "GET")])

def endlessLock : Env := Env.ofVars (envMode ++ [("RRB_ALLOWED_COMMANDS", "GET"),
  ("RRB_AUTH_LOCKOUT_FAILURES", "1"), ("RRB_AUTH_LOCKOUT_SECONDS", "18446744073709551615")])

/-- Five minutes fit behind every instant up to 2^32 seconds. -/
theorem brief_lock_ends (bridge : Bridge)
    (hduration : bridge.authLockoutDuration = Duration.fromSecs 300) (now : Instant)
    (hnow : now ≤ Instant.ofSecs 4294967295) :
    now.nanos + bridge.authLockoutDuration.nanos < 2 ^ 63 * 10 ^ 9 := by
  have hlast : now.nanos ≤ 4294967295 * 10 ^ 9 := hnow
  have hnanos : bridge.authLockoutDuration.nanos = 300 * 10 ^ 9 := by
    rw [hduration]
    rfl
  omega

namespace AuthLockout

/-- The default lockout of five minutes, on a clock that reads up to 2^32 seconds. -/
theorem usable_brief_lock : ∃ bridge, Bridge.fromEnv abcCrates briefLock = .ok bridge ∧
    ∀ calls, (∀ now ∈ calls.filterMap Call.instant?, now ∈ {t | t ≤ Instant.ofSecs 4294967295}) →
      bridge.lockout.Usable calls := by
  obtain ⟨bridge, hbridge, hduration⟩ : ∃ bridge,
      Bridge.fromEnv abcCrates briefLock = .ok bridge ∧
        bridge.authLockoutDuration = Duration.fromSecs 300 := ⟨_, rfl, rfl⟩
  refine ⟨bridge, hbridge, (usable_iff_lock_ends abcCrates briefLock bridge hbridge _).mpr ?_⟩
  right
  intro now hnow
  exact brief_lock_ends bridge hduration now hnow

/-- With the largest lockout duration that is accepted, the first failed
authentication panics and a later successful one finds the mutex poisoned. -/
theorem endless_lock_poisons : ∃ bridge, Bridge.fromEnv abcCrates endlessLock = .ok bridge ∧
    bridge.lockout.runGuarded (.available ∅)
        [.failure (.v4 1) (Instant.ofSecs 0), .success (.v4 2)] =
      ([.error .instantOverflow, .error .mutexPoisoned], .poisoned) :=
  ⟨_, rfl, by decide⟩

end AuthLockout

end RedisBridge.Lockout
