import RedisBridge.LockoutIsolation

/-!
A lock holds for exactly its duration. Until it expires no other client's call,
cleanup or snapshot touches the locked entry, and the address's own failures
leave it as it is, even in a full table. The first failure recorded after the
expiry opens a new window. A success clears the lock early; a failure after it
opens a window before the old expiry, so the second half is about runs in which
no failure of the address follows a success before the expiry. Both halves are
about runs in which no call panics: behind a panic nothing is answered.
-/
namespace RedisBridge.Lockout

open AssocTables Instants IpAddress

namespace AuthLockout

variable (lockout : AuthLockout)

theorem locked_entry (entries entries' : Entries) (ip : IpAddr) (t : Instant)
    (h : lockout.recordFailureAt entries ip t = .ok (.locked, entries')) :
    lockout.isEnabled = true ∧ ∃ state expiry, entries'.lookup ip = some state ∧
      state.lockedUntil = some expiry ∧
      expiry.nanos = t.nanos + lockout.lockoutDuration.nanos := by
  rcases recordFailureAt_cases lockout entries entries' ip t _ h with
    ⟨_, hbad, _⟩ | ⟨_, hbad, _⟩ | ⟨henabled, _, base, state, _, hfail, rfl⟩
  · cases hbad
  · cases hbad
  · refine ⟨henabled, state, ?_⟩
    have hlock : ∀ from_, lockout.tallyFailure from_ t = .ok (.locked, state) →
        ∃ expiry, state.lockedUntil = some expiry ∧
          expiry.nanos = t.nanos + lockout.lockoutDuration.nanos := by
      intro from_ htally
      rcases (tallyFailure_cases lockout _ _ _ _ htally).2.2.2 with
        ⟨hbad, _⟩ | ⟨_, _, expiry, hadd, hexpiry⟩
      · cases hbad
      · exact ⟨expiry, hexpiry, (Instant.checkedAdd_eq_some t expiry _).mp hadd⟩
    rw [AList.lookup_insert]
    rcases failEntry_cases lockout ((entries.lookup ip).getD (AuthState.new t)) t with
      ⟨_, _, _, heq⟩ | ⟨_, heq⟩ | ⟨_, _, heq⟩
    · rw [heq] at hfail
      cases hfail
    · obtain ⟨expiry, hexpiry, hnanos⟩ := hlock _ (heq ▸ hfail)
      exact ⟨expiry, rfl, hexpiry, hnanos⟩
    · obtain ⟨expiry, hexpiry, hnanos⟩ := hlock _ (heq ▸ hfail)
      exact ⟨expiry, rfl, hexpiry, hnanos⟩

/-- The lock check comes after the capacity check, but a locked address has an
entry, so the capacity check does not concern it. -/
theorem recordFailureAt_locked (entries : Entries) (ip : IpAddr) (now expiry : Instant)
    (state : AuthState) (henabled : lockout.isEnabled = true)
    (hlook : entries.lookup ip = some state) (hlocked : state.lockedUntil = some expiry)
    (hnow : now < expiry) :
    ∃ entries', lockout.recordFailureAt entries ip now = .ok (.alreadyLocked, entries') ∧
      ∀ other, entries'.lookup other = entries.lookup other := by
  have hmem : ip ∈ entries := Table.mem_of_lookup entries ip state hlook
  refine ⟨entries.insert ip state, ?_, ?_⟩
  · simp [recordFailureAt, henabled, hmem, recordEntry, hlook, failEntry, hlocked, hnow]
  · intro other
    by_cases heq : other = ip
    · rw [heq, AList.lookup_insert, hlook]
    · exact AList.lookup_insert_ne heq

theorem locked_not_dropped (now expiry : Instant) (state : AuthState)
    (after : Option AuthState) (hlocked : state.lockedUntil = some expiry) (hnow : now < expiry)
    (hkept : KeptOrStale lockout.failureWindow now (some state) after) : after = some state := by
  rcases hkept with rfl | ⟨state', hsame, hstale, _⟩
  · rfl
  · cases hsame
    have hexpired := state.expired_of_stale now expiry _ hlocked hstale
    exact absurd hexpired (not_le.mpr hnow)

/-- A call before the expiry that is not a success of the address keeps the
locked entry, and a failure of the address is answered by the lock. -/
theorem perform_locked (entries entries' : Entries) (call : Call) (reply : Reply) (ip : IpAddr)
    (state : AuthState) (expiry : Instant) (henabled : lockout.isEnabled = true)
    (hlook : entries.lookup ip = some state) (hlocked : state.lockedUntil = some expiry)
    (hbefore : ∀ now, call.instant? = some now → now < expiry) (hsuccess : call ≠ .success ip)
    (h : lockout.perform entries call = .ok (reply, entries')) :
    entries'.lookup ip = some state ∧
      ∀ now, call = .failure ip now → reply = .failure .alreadyLocked := by
  cases call with
  | failure ip' now =>
    obtain ⟨result, rfl, hrec⟩ := perform_failure_eq_ok lockout entries entries' ip' now reply h
    by_cases hip : ip' = ip
    · subst ip'
      obtain ⟨entries'', hrec', hsame⟩ := recordFailureAt_locked lockout entries ip now expiry
        state henabled hlook hlocked (hbefore now rfl)
      rw [hrec'] at hrec
      cases hrec
      exact ⟨(hsame ip).trans hlook, fun _ _ => rfl⟩
    · have hkept := recordFailureAt_other lockout entries entries' ip' ip now result
        (fun heq => hip heq.symm) hrec
      rw [hlook] at hkept
      refine ⟨locked_not_dropped lockout now expiry state _ hlocked (hbefore now rfl) hkept, ?_⟩
      intro now' heq
      cases heq
      exact absurd rfl hip
  | success ip' =>
    cases h
    refine ⟨?_, fun now heq => by cases heq⟩
    rw [recordSuccess_other lockout entries ip' ip (fun heq => hsuccess (by rw [heq]))]
    exact hlook
  | snapshot now =>
    cases h
    have hkept := snapshotAt_other lockout entries now ip
    rw [hlook] at hkept
    exact ⟨locked_not_dropped lockout now expiry state _ hlocked (hbefore now rfl) hkept,
      fun now' heq => by cases heq⟩

theorem run_locked (calls : List Call) (entries last : Entries) (log : List (Call × Reply))
    (ip : IpAddr) (state : AuthState) (expiry : Instant) (henabled : lockout.isEnabled = true)
    (hlook : entries.lookup ip = some state) (hlocked : state.lockedUntil = some expiry)
    (hbefore : ∀ now ∈ calls.filterMap Call.instant?, now < expiry)
    (hsuccess : Call.success ip ∉ calls)
    (hrun : lockout.run entries calls = .ok (log, last)) : last.lookup ip = some state := by
  induction calls generalizing entries log with
  | nil =>
    cases hrun
    exact hlook
  | cons call rest ih =>
    obtain ⟨reply, entries', log', hperform, hrest, _⟩ :=
      (run_cons_eq_ok lockout entries last call rest log).mp hrun
    have hhere : ∀ now, call.instant? = some now → now < expiry := by
      intro now hnow
      exact hbefore now (List.mem_filterMap.mpr ⟨call, List.mem_cons_self, hnow⟩)
    have hrestBefore : ∀ now ∈ rest.filterMap Call.instant?, now < expiry := by
      intro now hnow
      obtain ⟨call', hmem, hinstant⟩ := List.mem_filterMap.mp hnow
      exact hbefore now (List.mem_filterMap.mpr ⟨call', List.mem_cons_of_mem _ hmem, hinstant⟩)
    have hstep := perform_locked lockout entries entries' call reply ip state expiry henabled
      hlook hlocked hhere (fun heq => hsuccess (heq ▸ List.mem_cons_self)) hperform
    exact ih entries' log' hstep.1 hrestBefore (fun hmem => hsuccess (List.mem_cons_of_mem _ hmem))
      hrest

/-- The locked entry is still there, or it is gone and the address fails only
after the expiry. -/
def LockedOrGone (ip : IpAddr) (state : AuthState) (expiry : Instant) (entries : Entries)
    (rest : List Call) : Prop :=
  entries.lookup ip = some state ∨
    entries.lookup ip = none ∧ ∀ s, Call.failure ip s ∈ rest → expiry ≤ s

/-- A call that leaves the entry, or drops it as stale, leaves it locked or gone. -/
theorem LockedOrGone.kept (ip : IpAddr) (state : AuthState) (expiry : Instant)
    (entries entries' : Entries) (call : Call) (rest : List Call) (now : Instant)
    (hlocked : state.lockedUntil = some expiry) (hmono : NonDecreasing (call :: rest))
    (hstate : LockedOrGone ip state expiry entries (call :: rest))
    (hnow : call.instant? = some now)
    (hkept : KeptOrStale lockout.failureWindow now (entries.lookup ip) (entries'.lookup ip)) :
    LockedOrGone ip state expiry entries' rest := by
  rcases hstate with hlook | ⟨hnone, hlate⟩
  · rw [hlook] at hkept
    rcases hkept with hsame | ⟨state', hsame, hstale, hgone⟩
    · exact Or.inl hsame
    · cases hsame
      refine Or.inr ⟨hgone, ?_⟩
      intro s hs
      have hexpired := state.expired_of_stale now expiry _ hlocked hstale
      unfold NonDecreasing at hmono
      rw [List.filterMap_cons_some hnow, List.pairwise_cons] at hmono
      exact le_trans hexpired (hmono.1 s (List.mem_filterMap.mpr ⟨_, hs, rfl⟩))
  · rw [hnone] at hkept
    rcases hkept with hsame | ⟨_, hbad, _⟩
    · exact Or.inr ⟨hsame, fun s hs => hlate s (List.mem_cons_of_mem _ hs)⟩
    · cases hbad

theorem perform_lockedOrGone (entries entries' : Entries) (call : Call) (rest : List Call)
    (reply : Reply) (ip : IpAddr) (state : AuthState) (expiry : Instant)
    (henabled : lockout.isEnabled = true) (hlocked : state.lockedUntil = some expiry)
    (hmono : NonDecreasing (call :: rest))
    (hrefused : ∀ answer ∈ answers ip [(call, reply)], expiry ≤ answer.1 →
      answer.2 = .entryLimitReached)
    (hreentry : call = .success ip → ∀ s, Call.failure ip s ∈ rest → expiry ≤ s)
    (hstate : LockedOrGone ip state expiry entries (call :: rest))
    (h : lockout.perform entries call = .ok (reply, entries')) :
    LockedOrGone ip state expiry entries' rest := by
  have hdropped (now : Instant) :=
    LockedOrGone.kept lockout ip state expiry entries entries' call rest now hlocked hmono hstate
  cases call with
  | failure ip' now =>
    obtain ⟨result, rfl, hrec⟩ := perform_failure_eq_ok lockout entries entries' ip' now reply h
    by_cases hip : ip' = ip
    · subst ip'
      by_cases hnow : now < expiry
      · rcases hstate with hlook | ⟨_, hlate⟩
        · exact Or.inl (perform_locked lockout entries entries' _ _ ip state expiry henabled
            hlook hlocked (fun s hs => by cases hs; exact hnow) (by simp) h).1
        · exact absurd (hlate now List.mem_cons_self) (not_le.mpr hnow)
      · have hlimit : result = .entryLimitReached :=
          hrefused (now, result) (by simp [answers]) (not_lt.mp hnow)
        rcases recordFailureAt_cases lockout entries entries' ip now result hrec with
          ⟨hoff, _⟩ | ⟨_, _, _, _, rfl⟩ | ⟨_, hne, _⟩
        · rw [henabled] at hoff
          cases hoff
        · exact hdropped now rfl (keptOrStale_cleanup entries now _ ip)
        · exact absurd hlimit hne
    · exact hdropped now rfl (recordFailureAt_other lockout entries entries' ip' ip now result
        (fun heq => hip heq.symm) hrec)
  | success ip' =>
    cases h
    by_cases hip : ip' = ip
    · subst ip'
      exact Or.inr ⟨recordSuccess_self lockout entries ip henabled, hreentry rfl⟩
    · rcases hstate with hlook | ⟨hnone, hlate⟩
      · left
        rw [recordSuccess_other lockout entries ip' ip (fun heq => hip heq.symm)]
        exact hlook
      · right
        rw [recordSuccess_other lockout entries ip' ip (fun heq => hip heq.symm)]
        exact ⟨hnone, fun s hs => hlate s (List.mem_cons_of_mem _ hs)⟩
  | snapshot now =>
    cases h
    exact hdropped now rfl (snapshotAt_other lockout entries now ip)

theorem run_lockedOrGone (calls : List Call) (entries last : Entries)
    (log : List (Call × Reply)) (ip : IpAddr) (state : AuthState) (expiry : Instant)
    (henabled : lockout.isEnabled = true) (hlocked : state.lockedUntil = some expiry)
    (hmono : NonDecreasing calls)
    (hrefused : ∀ answer ∈ answers ip log, expiry ≤ answer.1 → answer.2 = .entryLimitReached)
    (hreentry : ∀ early s late, calls = early ++ .failure ip s :: late →
      Call.success ip ∈ early → expiry ≤ s)
    (hstate : LockedOrGone ip state expiry entries calls)
    (hrun : lockout.run entries calls = .ok (log, last)) :
    last.lookup ip = some state ∨ last.lookup ip = none := by
  induction calls generalizing entries log with
  | nil =>
    cases hrun
    exact hstate.imp id And.left
  | cons call rest ih =>
    obtain ⟨reply, entries', log', hperform, hrest, rfl⟩ :=
      (run_cons_eq_ok lockout entries last call rest log).mp hrun
    rw [answers_cons, List.forall_mem_append] at hrefused
    obtain ⟨_, hmono', _⟩ := nonDecreasing_cons call rest Instant.earliest hmono
      (fun now _ => Instant.earliest_le now)
    have hafter : call = .success ip → ∀ s, Call.failure ip s ∈ rest → expiry ≤ s := by
      intro hcall s hs
      obtain ⟨early, late, hsplit⟩ := List.append_of_mem hs
      exact hreentry (call :: early) s late (by rw [hsplit]; rfl) (by simp [hcall])
    have hstep := perform_lockedOrGone lockout entries entries' call rest reply ip state expiry
      henabled hlocked hmono hrefused.1 hafter hstate hperform
    refine ih entries' log' hmono' hrefused.2 ?_ hstep hrest
    intro early s late hsplit hmem
    exact hreentry (call :: early) s late (by rw [hsplit]; rfl) (List.mem_cons_of_mem _ hmem)

/-- The first failure of a window, on a new entry or on one whose lock is over. -/
theorem failEntry_opens_window (entry : Option AuthState) (next : AuthState) (now : Instant)
    (result : AuthFailure) (henabled : lockout.isEnabled = true)
    (hover : ∀ state, entry = some state →
      ∃ expiry, state.lockedUntil = some expiry ∧ expiry ≤ now)
    (h : lockout.failEntry (entry.getD (AuthState.new now)) now = .ok (result, next)) :
    (result = if lockout.maxFailures.val = 1 then .locked else .tracked) ∧
      next.failures.val = 1 ∧ next.windowStartedAt = now ∧ next.lastSeenAt = now := by
  have hnew : lockout.tallyFailure (AuthState.new now) now = .ok (result, next) := by
    cases entry with
    | none => rwa [Option.getD_none, failEntry_new] at h
    | some state =>
      rw [Option.getD_some] at h
      obtain ⟨expiry, hlocked, hpast⟩ := hover state rfl
      rcases failEntry_cases lockout state now with
        ⟨expiry', hlocked', hnow, _⟩ | ⟨_, heq⟩ | ⟨hfree, _, _⟩
      · rw [hlocked] at hlocked'
        cases hlocked'
        exact absurd hpast (not_le.mpr hnow)
      · rwa [heq] at h
      · rw [hlocked] at hfree
        cases hfree
  obtain ⟨hfailures, hseen, hstart, hcases⟩ := tallyFailure_cases lockout _ next now result hnew
  have hone : next.failures.val = 1 := by simpa [AuthState.new] using hfailures
  refine ⟨?_, hone, hstart, hseen⟩
  simp only [isEnabled, decide_eq_true_eq, Fin.lt_def] at henabled
  rcases hcases with ⟨hresult, hbelow, _⟩ | ⟨hresult, hmax, _⟩
  · rw [Fin.lt_def] at hbelow
    rw [hresult, if_neg (by omega)]
  · rw [Fin.le_def] at hmax
    have hzero : (0 : Fin (2 ^ 64)).val = 0 := rfl
    rw [hresult, if_pos (by omega)]

/-- In a run without a panic. -/
theorem lock_holds_of_run (entries₀ entries₁ entries₂ : Entries) (mid : List Call)
    (log : List (Call × Reply)) (ip : IpAddr) (t t' : Instant)
    (hmono : NonDecreasing (.failure ip t :: (mid ++ [.failure ip t'])))
    (hlock : lockout.recordFailureAt entries₀ ip t = .ok (.locked, entries₁))
    (hmid : lockout.run entries₁ mid = .ok (log, entries₂)) :
    (t'.nanos < t.nanos + lockout.lockoutDuration.nanos → Call.success ip ∉ mid →
      ∃ entries₃, lockout.recordFailureAt entries₂ ip t' = .ok (.alreadyLocked, entries₃) ∧
        entries₂.lookup ip = entries₁.lookup ip ∧ entries₃.lookup ip = entries₁.lookup ip) ∧
    (t.nanos + lockout.lockoutDuration.nanos ≤ t'.nanos →
      (∀ answer ∈ answers ip log, t.nanos + lockout.lockoutDuration.nanos ≤ answer.1.nanos →
        answer.2 = .entryLimitReached) →
      (∀ early s late, mid = early ++ .failure ip s :: late → Call.success ip ∈ early →
        t.nanos + lockout.lockoutDuration.nanos ≤ s.nanos) →
      ∀ result entries₃, lockout.recordFailureAt entries₂ ip t' = .ok (result, entries₃) →
        result ≠ .entryLimitReached →
        (result = if lockout.maxFailures.val = 1 then .locked else .tracked) ∧
        ∃ state, entries₃.lookup ip = some state ∧ state.failures.val = 1 ∧
          state.windowStartedAt = t' ∧ state.lastSeenAt = t') := by
  obtain ⟨henabled, state, expiry, hlook, hlocked, hexpiry⟩ :=
    locked_entry lockout entries₀ entries₁ ip t hlock
  unfold NonDecreasing at hmono
  rw [List.filterMap_cons_some (show Call.instant? (.failure ip t) = some t from rfl),
    List.pairwise_cons, List.filterMap_append, List.pairwise_append] at hmono
  obtain ⟨_, hmonoMid, _, hlast⟩ := hmono
  have hmidLast : ∀ s ∈ mid.filterMap Call.instant?, s ≤ t' := by
    intro s hs
    exact hlast s hs t' (by simp [Call.instant?])
  constructor
  · intro hnow hsuccess
    have hbefore : ∀ s ∈ mid.filterMap Call.instant?, s < expiry := by
      intro s hs
      have hle := hmidLast s hs
      rw [Instant.le_iff] at hle
      rw [Instant.lt_iff]
      omega
    have hkept := run_locked lockout mid entries₁ entries₂ log ip state expiry henabled hlook
      hlocked hbefore hsuccess hmid
    obtain ⟨entries₃, hrec, hsame⟩ := recordFailureAt_locked lockout entries₂ ip t' expiry state
      henabled hkept hlocked (by rw [Instant.lt_iff]; omega)
    exact ⟨entries₃, hrec, hkept.trans hlook.symm, (hsame ip).trans (hkept.trans hlook.symm)⟩
  · intro hnow hrefused hreentry result entries₃ hrec hroom
    have hleft := run_lockedOrGone lockout mid entries₁ entries₂ log ip state expiry henabled
      hlocked hmonoMid
      (fun answer hmem hle => hrefused answer hmem (by rw [Instant.le_iff] at hle; omega))
      (fun early s late hsplit hmem => by
        have hlate := hreentry early s late hsplit hmem
        rw [Instant.le_iff]
        omega)
      (Or.inl hlook) hmid
    obtain ⟨next, hfail, hnext⟩ := recordFailureAt_self lockout entries₂ entries₃ ip t' result
      henabled hroom hrec
    obtain ⟨hresult, hone, hstart, hseen⟩ := failEntry_opens_window lockout _ next t' result
      henabled (by
        intro state' hstate'
        rcases hleft with hsame | hnone
        · rw [hsame] at hstate'
          cases hstate'
          exact ⟨expiry, hlocked, by rw [Instant.le_iff]; omega⟩
        · rw [hnone] at hstate'
          cases hstate') hfail
    exact ⟨hresult, next, hnext, hone, hstart, hseen⟩

theorem performGuarded_failure (entries entries' : Entries) (ip : IpAddr) (now : Instant)
    (result : AuthFailure) :
    lockout.performGuarded (.available entries) (.failure ip now) =
        (.ok (.failure result), .available entries') ↔
      lockout.recordFailureAt entries ip now = .ok (result, entries') := by
  constructor
  · intro h
    unfold performGuarded withLock at h
    dsimp only at h
    split at h
    · rename_i reply last hperform
      cases h
      obtain ⟨result', hreply, hrecord⟩ :=
        perform_failure_eq_ok lockout entries entries' ip now _ hperform
      cases hreply
      exact hrecord
    · cases h
  · intro h
    simp only [performGuarded, withLock, perform, h, Except.map]

/-- From any table in which a failure locks the address, and as long as no call
panics: the lock answers every failure before its expiry, and the first failure
recorded after it opens a window, unless a success had already let the address
fail again before it. -/
theorem lock_holds_exactly (entries₀ entries₁ entries₂ : Entries) (mid : List Call)
    (replies : List (Except Panic Reply)) (ip : IpAddr) (t t' : Instant)
    (hmono : NonDecreasing (.failure ip t :: (mid ++ [.failure ip t'])))
    (hlock : lockout.performGuarded (.available entries₀) (.failure ip t) =
      (.ok (.failure .locked), .available entries₁))
    (hmid : lockout.runGuarded (.available entries₁) mid = (replies, .available entries₂)) :
    (t'.nanos < t.nanos + lockout.lockoutDuration.nanos → Call.success ip ∉ mid →
      ∃ entries₃, lockout.performGuarded (.available entries₂) (.failure ip t') =
          (.ok (.failure .alreadyLocked), .available entries₃) ∧
        entries₂.lookup ip = entries₁.lookup ip ∧ entries₃.lookup ip = entries₁.lookup ip) ∧
    (t.nanos + lockout.lockoutDuration.nanos ≤ t'.nanos →
      (∀ answer ∈ answers ip (returned (mid.zip replies)),
        t.nanos + lockout.lockoutDuration.nanos ≤ answer.1.nanos →
        answer.2 = .entryLimitReached) →
      (∀ early s late, mid = early ++ .failure ip s :: late → Call.success ip ∈ early →
        t.nanos + lockout.lockoutDuration.nanos ≤ s.nanos) →
      ∀ result entries₃, lockout.performGuarded (.available entries₂) (.failure ip t') =
          (.ok (.failure result), .available entries₃) →
        result ≠ .entryLimitReached →
        (result = if lockout.maxFailures.val = 1 then .locked else .tracked) ∧
        ∃ state, entries₃.lookup ip = some state ∧ state.failures.val = 1 ∧
          state.windowStartedAt = t' ∧ state.lastSeenAt = t') := by
  obtain ⟨log, hrun, hreturned⟩ := run_of_available lockout mid entries₁ entries₂ replies hmid
  obtain ⟨hlocked, hreopens⟩ := lock_holds_of_run lockout entries₀ entries₁ entries₂ mid log ip t t'
    hmono ((performGuarded_failure lockout entries₀ entries₁ ip t .locked).mp hlock) hrun
  constructor
  · intro hnow hsuccess
    obtain ⟨entries₃, hrecord, hkept⟩ := hlocked hnow hsuccess
    exact ⟨entries₃, (performGuarded_failure lockout _ _ _ _ _).mpr hrecord, hkept⟩
  · intro hnow hrefused hreentry result entries₃ hperform hroom
    rw [hreturned] at hrefused
    exact hreopens hnow hrefused hreentry result entries₃
      ((performGuarded_failure lockout entries₂ entries₃ ip t' result).mp hperform) hroom

/-- What happens while the sample client is locked. -/
def whileLocked : List Call :=
  [.failure clientB (.ofSecs 3), .snapshot (.ofSecs 9), .failure clientA (.ofSecs 10)]

/-- Locked at 2 seconds for 300: still locked at 301, a new window at 302. -/
theorem lock_holds_exactly_sample : ∃ entries₀ entries₁ entries₂ replies₀ replies,
    threeStrikes.runGuarded (.available ∅) [.failure clientA (.ofSecs 0),
      .failure clientA (.ofSecs 1)] = (replies₀, .available entries₀) ∧
    threeStrikes.performGuarded (.available entries₀) (.failure clientA (.ofSecs 2)) =
      (.ok (.failure .locked), .available entries₁) ∧
    threeStrikes.runGuarded (.available entries₁) whileLocked = (replies, .available entries₂) ∧
    (∃ entries₃, threeStrikes.performGuarded (.available entries₂)
        (.failure clientA (.ofSecs 301)) =
      (.ok (.failure .alreadyLocked), .available entries₃) ∧
      entries₃.lookup clientA = entries₁.lookup clientA) ∧
    ∃ entries₃ state, threeStrikes.performGuarded (.available entries₂)
        (.failure clientA (.ofSecs 302)) = (.ok (.failure .tracked), .available entries₃) ∧
      entries₃.lookup clientA = some state ∧ state.failures.val = 1 := by
  obtain ⟨replies₀, entries₀, hbefore, entries₁, hlock, replies, entries₂, hmid, hearly, entries₃,
      hrec⟩ : ∃ replies₀ entries₀, threeStrikes.runGuarded (.available ∅)
          [.failure clientA (.ofSecs 0), .failure clientA (.ofSecs 1)] =
          (replies₀, .available entries₀) ∧
        ∃ entries₁, threeStrikes.performGuarded (.available entries₀)
          (.failure clientA (.ofSecs 2)) = (.ok (.failure .locked), .available entries₁) ∧
        ∃ replies entries₂, threeStrikes.runGuarded (.available entries₁) whileLocked =
          (replies, .available entries₂) ∧
        answers clientA (returned (whileLocked.zip replies)) =
          [(.ofSecs 10, .alreadyLocked)] ∧
        ∃ entries₃, threeStrikes.performGuarded (.available entries₂)
          (.failure clientA (.ofSecs 302)) = (.ok (.failure .tracked), .available entries₃) :=
    ⟨_, _, rfl, _, rfl, _, _, rfl, by decide, _, rfl⟩
  refine ⟨entries₀, entries₁, entries₂, replies₀, replies, hbefore, hlock, hmid, ?_, ?_⟩
  · obtain ⟨last, hlast, _, hsame⟩ := (lock_holds_exactly threeStrikes entries₀ entries₁ entries₂
      whileLocked replies clientA (.ofSecs 2) (.ofSecs 301) (by decide) hlock hmid).1
      (by decide) (by decide)
    exact ⟨last, hlast, hsame⟩
  · have hopen := (lock_holds_exactly threeStrikes entries₀ entries₁ entries₂ whileLocked replies
      clientA (.ofSecs 2) (.ofSecs 302) (by decide) hlock hmid).2 (by decide)
      (by rw [hearly]; decide) (by
        intro early s late hsplit hmem
        have hall : Call.success clientA ∈ early ++ .failure clientA s :: late :=
          List.mem_append_left _ hmem
        rw [← hsplit] at hall
        exact absurd hall (by decide))
    obtain ⟨_, state, hlook, hone, _⟩ := hopen .tracked entries₃ hrec (by decide)
    exact ⟨entries₃, state, hrec, hlook, hone⟩

/-- Two failures in ten minutes lock for five. -/
def twoStrikes : AuthLockout := ⟨2, Duration.fromSecs 600, Duration.fromSecs 300, 16⟩

/-- One failure locks, for so long that only a lock taken in the first 808 seconds
ends inside the clock's range. -/
def lastLock : AuthLockout :=
  ⟨1, Duration.fromSecs 300, Duration.fromSecs 9223372036854775000, 16⟩

/-- Whatever else happens, a failure before the expiry finds the lock. -/
def HoldsToExpiry : Prop :=
  ∀ (lockout : AuthLockout) (before mid : List Call) (replies₀ replies : List (Except Panic Reply))
    (cell₀ cell₁ cell₂ : Guarded) (ip : IpAddr) (t t' : Instant),
    NonDecreasing (before ++ .failure ip t :: (mid ++ [.failure ip t'])) →
    lockout.runGuarded (.available ∅) before = (replies₀, cell₀) →
    lockout.performGuarded cell₀ (.failure ip t) = (.ok (.failure .locked), cell₁) →
    lockout.runGuarded cell₁ mid = (replies, cell₂) →
    t'.nanos < t.nanos + lockout.lockoutDuration.nanos → Call.success ip ∉ mid →
    (lockout.performGuarded cell₂ (.failure ip t')).1 = .ok (.failure .alreadyLocked)

/-- Whatever else happens, the first failure recorded after the expiry opens a window. -/
def ReopensAtExpiry : Prop :=
  ∀ (lockout : AuthLockout) (before mid : List Call) (replies₀ replies : List (Except Panic Reply))
    (cell₀ cell₁ cell₂ cell₃ : Guarded) (ip : IpAddr) (t t' : Instant) (result : AuthFailure),
    NonDecreasing (before ++ .failure ip t :: (mid ++ [.failure ip t'])) →
    lockout.runGuarded (.available ∅) before = (replies₀, cell₀) →
    lockout.performGuarded cell₀ (.failure ip t) = (.ok (.failure .locked), cell₁) →
    lockout.runGuarded cell₁ mid = (replies, cell₂) →
    t.nanos + lockout.lockoutDuration.nanos ≤ t'.nanos →
    (∀ answer ∈ answers ip (returned (mid.zip replies)),
      t.nanos + lockout.lockoutDuration.nanos ≤ answer.1.nanos →
      answer.2 = .entryLimitReached) →
    lockout.performGuarded cell₂ (.failure ip t') = (.ok (.failure result), cell₃) →
    result ≠ .entryLimitReached →
    result = if lockout.maxFailures.val = 1 then .locked else .tracked

/-- Another client's lock overflows in between, and the locked client finds the
mutex poisoned. A success clears a lock, the address fails once before the old
expiry, and its first failure after it is the second of its window. -/
theorem lock_not_exact : ¬HoldsToExpiry ∧ ¬ReopensAtExpiry := by
  constructor
  · intro hholds
    have hfound := hholds lastLock [] [.failure clientB (.ofSecs 900)] _ _ _ _ _ clientA
      (.ofSecs 100) (.ofSecs 901) (by decide) rfl rfl rfl (by decide) (by decide)
    exact absurd hfound (by decide)
  · intro hreopens
    have hfirst := hreopens twoStrikes [.failure clientA (.ofSecs 0)]
      [.success clientA, .failure clientA (.ofSecs 299)] _ _ _ _ _ _ clientA (.ofSecs 0)
      (.ofSecs 300) .locked (by decide) rfl rfl rfl (by decide) (by decide) rfl (by decide)
    exact absurd hfirst (by decide)

end AuthLockout

end RedisBridge.Lockout
