import RedisBridge.LockoutIsolation
import Mathlib.Tactic.SplitIfs

/-!
The brute-force bound. Windows of one address start at least a window length
apart, on every path that restarts one, so a time interval of that length meets
at most two windows. The count is carried by a budget: what the current window
and the windows that can still start may add to the interval. Each tracked
failure inside the interval uses up one unit and no step adds any.
-/
namespace RedisBridge.Lockout

open AssocTables Instants IpAddress

namespace AuthLockout

variable (lockout : AuthLockout)

/-- A record in its window: unlocked below the maximum, or locked for the full
duration since its last failure. -/
structure InWindow (now : Instant) (state : AuthState) : Prop where
  window_le : state.windowStartedAt ≤ state.lastSeenAt
  seen_le : state.lastSeenAt ≤ now
  unlocked : state.lockedUntil = none → state.failures < lockout.maxFailures
  full : ∀ expiry, state.lockedUntil = some expiry → lockout.maxFailures ≤ state.failures
  expires : ∀ expiry, state.lockedUntil = some expiry →
    expiry.nanos = state.lastSeenAt.nanos + lockout.lockoutDuration.nanos

theorem InWindow.mono {s t : Instant} {state : AuthState} (h : lockout.InWindow s state)
    (hst : s ≤ t) : lockout.InWindow t state :=
  { h with seen_le := le_trans h.seen_le hst }

theorem tallyFailure_inWindow (state next : AuthState) (now : Instant) (result : AuthFailure)
    (hfree : state.lockedUntil = none) (hwindow : state.windowStartedAt ≤ now)
    (h : lockout.tallyFailure state now = .ok (result, next)) : lockout.InWindow now next := by
  obtain ⟨_, hseen, hstart, hcases⟩ := tallyFailure_cases lockout state next now result h
  rcases hcases with ⟨_, hbelow, hlock⟩ | ⟨_, hmax, expiry, hadd, hlock⟩
  · rw [hfree] at hlock
    refine ⟨by rw [hseen, hstart]; exact hwindow, le_of_eq hseen, fun _ => hbelow, ?_, ?_⟩
    all_goals
      intro expiry hexpiry
      rw [hlock] at hexpiry
      cases hexpiry
  · refine ⟨by rw [hseen, hstart]; exact hwindow, le_of_eq hseen, ?_, fun _ _ => hmax, ?_⟩
    · intro hnone
      rw [hlock] at hnone
      cases hnone
    · intro expiry' hexpiry
      rw [hlock] at hexpiry
      cases hexpiry
      rw [hseen]
      exact (Instant.checkedAdd_eq_some now expiry _).mp hadd

theorem failEntry_inWindow (own : Option AuthState) (next : AuthState) (now : Instant)
    (result : AuthFailure) (hown : ∀ state, own = some state → lockout.InWindow now state)
    (h : lockout.failEntry (own.getD (AuthState.new now)) now = .ok (result, next)) :
    lockout.InWindow now next := by
  cases own with
  | none =>
    rw [Option.getD_none, failEntry_new] at h
    exact tallyFailure_inWindow lockout _ _ _ _ rfl (le_refl _) h
  | some state =>
    rw [Option.getD_some] at h
    have hstate := hown state rfl
    rcases failEntry_cases lockout state now with
      ⟨_, _, _, heq⟩ | ⟨_, heq⟩ | ⟨hfree, _, heq⟩
    · rw [heq] at h
      cases h
      exact hstate
    · rw [heq] at h
      exact tallyFailure_inWindow lockout _ _ _ _ rfl (le_refl _) h
    · rw [heq] at h
      exact tallyFailure_inWindow lockout _ _ _ _ hfree
        (le_trans hstate.window_le hstate.seen_le) h

/-- What the current window may still add to the interval of one window length
that starts at `lo`. -/
def currentBudget (lo : ℤ) (state : AuthState) : ℕ :=
  if state.windowStartedAt.nanos ≤ lo + lockout.failureWindow.nanos ∧
      lo < state.windowStartedAt.nanos + lockout.failureWindow.nanos then
    lockout.maxFailures.val - 1 - state.failures.val
  else 0

/-- What windows that start later may add to it. -/
def laterBudget (lo : ℤ) (state : AuthState) : ℕ :=
  if state.windowStartedAt.nanos + lockout.failureWindow.nanos ≤ lo then
    2 * (lockout.maxFailures.val - 1)
  else if state.windowStartedAt.nanos ≤ lo then lockout.maxFailures.val - 1
  else 0

def budget (lo : ℤ) : Option AuthState → ℕ
  | none => 2 * (lockout.maxFailures.val - 1)
  | some state => lockout.currentBudget lo state + lockout.laterBudget lo state

/-- A tracked failure inside the closed interval from `lo` to `hi`. -/
def trackedIn (lo hi : ℤ) (answer : Instant × AuthFailure) : Bool :=
  answer.2 = .tracked ∧ lo ≤ answer.1.nanos ∧ answer.1.nanos ≤ hi

/-- A restarted window starts a window length after the one it replaces. -/
theorem restart_spaced (state : AuthState) (now : Instant)
    (hduration : lockout.failureWindow ≤ lockout.lockoutDuration)
    (hstate : lockout.InWindow now state)
    (hrestart : (∃ expiry, state.lockedUntil = some expiry ∧ expiry ≤ now) ∨
      (state.lockedUntil = none ∧
        lockout.failureWindow ≤ now.durationSince state.windowStartedAt)) :
    state.windowStartedAt.nanos + lockout.failureWindow.nanos ≤ now.nanos ∨
      lockout.failureWindow.nanos = 0 := by
  rcases hrestart with ⟨expiry, hlocked, hexpired⟩ | ⟨_, hwindow⟩
  · have hexpiry := hstate.expires expiry hlocked
    have hstart := hstate.window_le
    rw [Instant.le_iff] at hexpired hstart
    rw [Duration.le_iff] at hduration
    left
    omega
  · rw [Instant.le_durationSince] at hwindow
    omega

/-- A failure that is tracked lies in the span, and leaves its record below the limit. -/
theorem tracked_below (lo hi : ℤ) (state next : AuthState) (now : Instant) (result : AuthFailure)
    (h : lockout.tallyFailure state now = .ok (result, next))
    (ht : trackedIn lo hi (now, result) = true) :
    lo ≤ now.nanos ∧ now.nanos ≤ hi ∧ next.failures.val < lockout.maxFailures.val := by
  obtain ⟨_, _, _, hcases⟩ := tallyFailure_cases lockout state next now result h
  simp only [trackedIn, decide_eq_true_eq] at ht
  rcases hcases with ⟨_, hbelow, _⟩ | ⟨hlocked, _⟩
  · exact ⟨ht.2.1, ht.2.2, hbelow⟩
  · rw [hlocked] at ht
    exact absurd ht.1 (by decide)

/-- The first failure of a window uses at most what any earlier record leaves. -/
theorem budget_new_le (lo : ℤ) (now : Instant) (next : AuthState) (own : Option AuthState)
    (result : AuthFailure) (hwindow : 0 < lockout.failureWindow.nanos)
    (hspaced : ∀ state, own = some state →
      state.windowStartedAt.nanos + lockout.failureWindow.nanos ≤ now.nanos)
    (h : lockout.tallyFailure (AuthState.new now) now = .ok (result, next)) :
    (if trackedIn lo (lo + lockout.failureWindow.nanos) (now, result) = true then 1 else 0) +
      lockout.budget lo (some next) ≤ lockout.budget lo own := by
  obtain ⟨hfailures, _, hstart, _⟩ := tallyFailure_cases lockout _ next now result h
  have hone : next.failures.val = 1 := by simpa [AuthState.new] using hfailures
  have hstart' : next.windowStartedAt = now := hstart
  have htracked := tracked_below lockout lo (lo + lockout.failureWindow.nanos) _ next now result h
  rw [hone] at htracked
  cases own with
  | none =>
    simp only [budget, currentBudget, laterBudget, hone, hstart']
    by_cases ht : trackedIn lo (lo + lockout.failureWindow.nanos) (now, result) = true
    · have hin := htracked ht
      rw [if_pos ht]
      split_ifs <;> omega
    · rw [if_neg ht]
      split_ifs <;> omega
  | some state =>
    have hgap := hspaced state rfl
    simp only [budget, currentBudget, laterBudget, hone, hstart']
    by_cases ht : trackedIn lo (lo + lockout.failureWindow.nanos) (now, result) = true
    · have hin := htracked ht
      rw [if_pos ht]
      split_ifs <;> omega
    · rw [if_neg ht]
      split_ifs <;> omega

theorem failEntry_budget (lo : ℤ) (own : Option AuthState) (next : AuthState) (now : Instant)
    (result : AuthFailure) (hwindow : 0 < lockout.failureWindow.nanos)
    (hduration : lockout.failureWindow ≤ lockout.lockoutDuration)
    (hown : ∀ state, own = some state → lockout.InWindow now state)
    (h : lockout.failEntry (own.getD (AuthState.new now)) now = .ok (result, next)) :
    (if trackedIn lo (lo + lockout.failureWindow.nanos) (now, result) = true then 1 else 0) +
      lockout.budget lo (some next) ≤ lockout.budget lo own := by
  cases own with
  | none =>
    rw [Option.getD_none, failEntry_new] at h
    exact budget_new_le lockout lo now next none result hwindow (fun _ hs => by cases hs) h
  | some state =>
    rw [Option.getD_some] at h
    have hstate := hown state rfl
    rcases failEntry_cases lockout state now with
      ⟨_, _, _, heq⟩ | ⟨hrestart, heq⟩ | ⟨hfree, hinside, heq⟩
    · rw [heq] at h
      cases h
      simp [trackedIn]
    · rw [heq] at h
      have hgap := restart_spaced lockout state now hduration hstate hrestart
      exact budget_new_le lockout lo now next (some state) result hwindow
        (fun s hs => by cases hs; omega) h
    · rw [heq] at h
      obtain ⟨hfailures, _, hstart, _⟩ := tallyFailure_cases lockout state next now result h
      have hnow : state.windowStartedAt ≤ now := le_trans hstate.window_le hstate.seen_le
      rw [Instant.le_durationSince] at hinside
      rw [Instant.le_iff] at hnow
      have htracked :=
        tracked_below lockout lo (lo + lockout.failureWindow.nanos) state next now result h
      simp only [budget, currentBudget, laterBudget, hfailures, hstart]
      by_cases ht : trackedIn lo (lo + lockout.failureWindow.nanos) (now, result) = true
      · have hin := htracked ht
        rw [if_pos ht]
        split_ifs <;> omega
      · rw [if_neg ht]
        split_ifs <;> omega

theorem clientRun_budget (calls : List Call) (ip : IpAddr) (lo : ℤ) (s : Instant)
    (own last : Option AuthState) (results : List (Instant × AuthFailure))
    (henabled : lockout.isEnabled = true) (hwindow : 0 < lockout.failureWindow.nanos)
    (hduration : lockout.failureWindow ≤ lockout.lockoutDuration)
    (hmono : NonDecreasing calls) (hlater : ∀ now ∈ calls.filterMap Call.instant?, s ≤ now)
    (hsuccess : Call.success ip ∉ calls)
    (hown : ∀ state, own = some state → lockout.InWindow s state)
    (h : lockout.clientRun ip own calls = .ok (results, last)) :
    results.countP (trackedIn lo (lo + lockout.failureWindow.nanos)) + lockout.budget lo last ≤
      lockout.budget lo own := by
  induction calls generalizing own s results with
  | nil =>
    cases h
    simp
  | cons call rest ih =>
    obtain ⟨here, own', more, hstep, hrest, rfl⟩ :=
      (clientRun_cons_eq_ok lockout ip own last call rest results).mp h
    obtain ⟨hst, hmono', hlater'⟩ := nonDecreasing_cons call rest s hmono hlater
    have hsuccess' : Call.success ip ∉ rest := fun hmem => hsuccess (List.mem_cons_of_mem _ hmem)
    have hown' : ∀ state, own = some state →
        lockout.InWindow (call.instant?.getD s) state :=
      fun state hstate => (hown state hstate).mono lockout hst
    have hsame : ∀ out, lockout.clientStep ip own call = .ok (out, own) → out = [] →
        (here ++ more).countP (trackedIn lo (lo + lockout.failureWindow.nanos)) +
          lockout.budget lo last ≤ lockout.budget lo own := by
      intro out hout hnil
      rw [hstep] at hout
      cases hout
      rw [hnil, List.nil_append]
      exact ih _ own more hmono' hlater' hsuccess' hown' hrest
    by_cases hconcerns : call.concerns ip = true
    · cases call with
      | failure ip' now =>
        have hip : ip' = ip := by simpa [Call.concerns] using hconcerns
        simp only [clientStep, hip, henabled, if_true] at hstep
        split at hstep
        · cases hstep
        · rename_i result next hfail
          cases hstep
          have hspent := failEntry_budget lockout lo own next now result hwindow hduration
            hown' hfail
          have hnext := failEntry_inWindow lockout own next now result hown' hfail
          have hleft := ih now (some next) more hmono' hlater' hsuccess'
            (fun state hstate => by cases hstate; exact hnext) hrest
          rw [List.countP_append, List.countP_singleton]
          omega
      | success ip' =>
        have hip : ip' = ip := by simpa [Call.concerns] using hconcerns
        rw [hip] at hsuccess
        exact absurd List.mem_cons_self hsuccess
      | snapshot now => simp [Call.concerns] at hconcerns
    · exact hsame [] (clientStep_unconcerned lockout ip own call (by simpa using hconcerns)) rfl

theorem clientRun_results (calls : List Call) (ip : IpAddr) (own last : Option AuthState)
    (results : List (Instant × AuthFailure)) (henabled : lockout.isEnabled = true)
    (h : lockout.clientRun ip own calls = .ok (results, last)) :
    ∀ answer ∈ results,
      answer.2 = .tracked ∨ answer.2 = .locked ∨ answer.2 = .alreadyLocked := by
  induction calls generalizing own results with
  | nil =>
    cases h
    simp
  | cons call rest ih =>
    obtain ⟨here, own', more, hstep, hrest, rfl⟩ :=
      (clientRun_cons_eq_ok lockout ip own last call rest results).mp h
    rw [List.forall_mem_append]
    refine ⟨?_, ih own' more hrest⟩
    cases call with
    | failure ip' now =>
      simp only [clientStep, henabled, if_true] at hstep
      split at hstep
      · split at hstep
        · cases hstep
        · rename_i result next hfail
          cases hstep
          simpa using failEntry_result lockout _ next now result hfail
      · cases hstep
        simp
    | success ip' =>
      cases hstep
      simp
    | snapshot now =>
      cases hstep
      simp

/-- In a run without a panic. -/
theorem tracked_le_of_ok (calls : List Call) (ip : IpAddr) (log : List (Call × Reply))
    (last : Entries) (lo : ℤ) (hmax : 1 ≤ lockout.maxFailures.val)
    (hwindow : 0 < lockout.failureWindow.nanos)
    (hduration : lockout.failureWindow ≤ lockout.lockoutDuration)
    (hmono : NonDecreasing calls) (hsuccess : Call.success ip ∉ calls)
    (hrun : lockout.run ∅ calls = .ok (log, last))
    (hroom : ∀ answer ∈ answers ip log, answer.2 ≠ .entryLimitReached) :
    (answers ip log).countP (trackedIn lo (lo + lockout.failureWindow.nanos)) ≤
      2 * (lockout.maxFailures.val - 1) ∧
    ∀ answer ∈ answers ip log,
      answer.2 = .tracked ∨ answer.2 = .locked ∨ answer.2 = .alreadyLocked := by
  have henabled : lockout.isEnabled = true := by
    simp only [isEnabled, decide_eq_true_eq, Fin.lt_def]
    exact hmax
  have hlater : ∀ now ∈ calls.filterMap Call.instant?, Instant.earliest ≤ now :=
    fun now _ => Instant.earliest_le now
  obtain ⟨own, hclient⟩ := run_refines lockout calls ∅ last ip none Instant.earliest log hmono
    hlater (Or.inl (AList.lookup_empty ip)) (fun state hstate => by cases hstate) hrun hroom
  have hbudget := clientRun_budget lockout calls ip lo Instant.earliest none own _ henabled
    hwindow hduration hmono hlater hsuccess (fun state hstate => by cases hstate) hclient
  exact ⟨le_trans (Nat.le_add_right _ _) hbudget,
    clientRun_results lockout calls ip none own _ henabled hclient⟩

/-- Whatever panics: nothing returns behind the first panic. The closed interval
contains both half-open intervals of the same ends. -/
theorem tracked_le_of_run (calls : List Call) (ip : IpAddr) (lo : ℤ)
    (hmax : 1 ≤ lockout.maxFailures.val) (hwindow : 0 < lockout.failureWindow.nanos)
    (hduration : lockout.failureWindow ≤ lockout.lockoutDuration)
    (hmono : NonDecreasing calls) (hsuccess : Call.success ip ∉ calls)
    (hroom : ∀ answer ∈ answers ip (returned (lockout.outcomes (.available ∅) calls)),
      answer.2 ≠ .entryLimitReached) :
    (answers ip (returned (lockout.outcomes (.available ∅) calls))).countP
        (trackedIn lo (lo + lockout.failureWindow.nanos)) ≤
      2 * (lockout.maxFailures.val - 1) ∧
    ∀ answer ∈ answers ip (returned (lockout.outcomes (.available ∅) calls)),
      answer.2 = .tracked ∨ answer.2 = .locked ∨ answer.2 = .alreadyLocked := by
  obtain ⟨done, rest, log, last, rfl, hrun, hreturned, _⟩ := runGuarded_splits lockout calls ∅
  unfold NonDecreasing at hmono
  rw [List.filterMap_append, List.pairwise_append] at hmono
  rw [hreturned] at hroom ⊢
  exact tracked_le_of_ok lockout done ip log last lo hmax hwindow hduration hmono.1
    (fun hmem => hsuccess (List.mem_append_left _ hmem)) hrun hroom

/-- Two windows that meet the minute from 0 to 60, with another client between. -/
def twoWindows : List Call :=
  [.failure clientA (.ofSecs 0), .failure clientB (.ofSecs 59), .failure clientA (.ofSecs 59),
    .snapshot (.ofSecs 60), .failure clientA (.ofSecs 60), .failure clientA (.ofSecs 60),
    .failure clientA (.ofSecs 60)]

theorem tracked_le_of_run_full :
    (answers clientA (returned (threeStrikes.outcomes (.available ∅) twoWindows))).countP
      (trackedIn 0 (0 + (Duration.fromSecs 60).nanos)) = 4 ∧
    (answers clientA (returned (threeStrikes.outcomes (.available ∅) twoWindows))).countP
      (trackedIn 0 (0 + (Duration.fromSecs 60).nanos)) ≤ 2 * (3 - 1) := by
  refine ⟨by decide, ?_⟩
  exact (tracked_le_of_run threeStrikes twoWindows clientA 0 (by decide) (by decide) (by decide)
    (by decide) (by decide) (by decide)).1

end AuthLockout

end RedisBridge.Lockout
