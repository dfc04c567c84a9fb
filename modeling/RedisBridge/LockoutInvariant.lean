import RedisBridge.LockoutIsolation

/-!
What holds of every reachable table. Each of the exits of a failure leaves an
entry whose failures lie between one and the maximum, which is locked exactly at
the maximum, from its last failure on, and whose window was open at that
failure. The table never outgrows its capacity, since an entry is only added
where there was room.
-/
namespace RedisBridge.Lockout

open AssocTables Instants IpAddress

namespace AuthLockout

/-- What holds of an entry. -/
structure WellFormed (lockout : AuthLockout) (state : AuthState) : Prop where
  positive : 1 ≤ state.failures.val
  bounded : state.failures.val ≤ lockout.maxFailures.val
  locked_iff : state.lockedUntil.isSome = true ↔ state.failures = lockout.maxFailures
  expiry : ∀ expiry, state.lockedUntil = some expiry →
    expiry.nanos = state.lastSeenAt.nanos + lockout.lockoutDuration.nanos
  ordered : state.windowStartedAt ≤ state.lastSeenAt
  windowed : state.lockedUntil = none →
    state.lastSeenAt.nanos - state.windowStartedAt.nanos < lockout.failureWindow.nanos

variable (lockout : AuthLockout)

/-- Counting a failure in an open window that is not at its maximum yet. -/
theorem tallyFailure_wellFormed (state next : AuthState) (now : Instant) (result : AuthFailure)
    (hbelow : state.failures.val < lockout.maxFailures.val) (hfree : state.lockedUntil = none)
    (hstarted : state.windowStartedAt ≤ now)
    (hopen : now.nanos - state.windowStartedAt.nanos < lockout.failureWindow.nanos)
    (h : lockout.tallyFailure state now = .ok (result, next)) : lockout.WellFormed next := by
  obtain ⟨hfailures, hseen, hwindow, hcases⟩ :=
    tallyFailure_cases lockout state next now result h
  rcases hcases with ⟨_, hless, hlocked⟩ | ⟨_, hmax, expiry, hadd, hlocked⟩
  · rw [Fin.lt_def] at hless
    refine ⟨by omega, by omega, ?_, ?_, ?_, ?_⟩
    · rw [hlocked, hfree]
      constructor
      · intro hbad
        cases hbad
      · intro heq
        rw [heq] at hless
        omega
    · intro expiry hexpiry
      rw [hlocked, hfree] at hexpiry
      cases hexpiry
    · rw [hwindow, hseen]
      exact hstarted
    · intro _
      rw [hwindow, hseen]
      exact hopen
  · rw [Fin.le_def] at hmax
    refine ⟨by omega, by omega, ?_, ?_, ?_, ?_⟩
    · rw [hlocked]
      have heq : next.failures = lockout.maxFailures := Fin.ext (by omega)
      exact ⟨fun _ => heq, fun _ => rfl⟩
    · intro expiry' hexpiry
      rw [hlocked] at hexpiry
      obtain rfl : expiry = expiry' := Option.some.inj hexpiry
      rw [hseen]
      exact (Instant.checkedAdd_eq_some now expiry _).mp hadd
    · rw [hwindow, hseen]
      exact hstarted
    · intro hnone
      rw [hlocked] at hnone
      cases hnone

/-- The first failure of a window. -/
theorem tallyFailure_new_wellFormed (next : AuthState) (now : Instant) (result : AuthFailure)
    (hmax : 1 ≤ lockout.maxFailures.val) (hwindow : 0 < lockout.failureWindow.nanos)
    (h : lockout.tallyFailure (AuthState.new now) now = .ok (result, next)) :
    lockout.WellFormed next := by
  apply tallyFailure_wellFormed lockout (AuthState.new now) next now result _ rfl (le_refl now) _ h
  · exact hmax
  · show now.nanos - now.nanos < (lockout.failureWindow.nanos : ℤ)
    omega

/-- A failure leaves the entry well-formed, and last seen by now. -/
theorem failEntry_wellFormed (entry : Option AuthState) (next : AuthState) (now : Instant)
    (result : AuthFailure) (hmax : 1 ≤ lockout.maxFailures.val)
    (hwindow : 0 < lockout.failureWindow.nanos)
    (hentry : ∀ state, entry = some state → lockout.WellFormed state ∧ state.lastSeenAt ≤ now)
    (h : lockout.failEntry (entry.getD (AuthState.new now)) now = .ok (result, next)) :
    lockout.WellFormed next := by
  cases entry with
  | none =>
    rw [Option.getD_none, failEntry_new] at h
    exact tallyFailure_new_wellFormed lockout next now result hmax hwindow h
  | some state =>
    obtain ⟨hstate, hseen⟩ := hentry state rfl
    rw [Option.getD_some] at h
    rcases failEntry_cases lockout state now with ⟨_, _, _, heq⟩ | ⟨_, heq⟩ | ⟨hfree, hopen, heq⟩
    · rw [heq] at h
      cases h
      exact hstate
    · rw [heq] at h
      exact tallyFailure_new_wellFormed lockout next now result hmax hwindow h
    · rw [heq] at h
      rw [Instant.le_durationSince] at hopen
      have hordered := hstate.ordered
      rw [Instant.le_iff] at hordered hseen
      have hbelow : state.failures.val < lockout.maxFailures.val := by
        have hne : state.failures ≠ lockout.maxFailures := by
          intro hall
          have hlocked := hstate.locked_iff.mpr hall
          rw [hfree] at hlocked
          cases hlocked
        have hle := hstate.bounded
        have hval : state.failures.val ≠ lockout.maxFailures.val := fun hv => hne (Fin.ext hv)
        omega
      apply tallyFailure_wellFormed lockout state next now result hbelow hfree _ _ h
      · rw [Instant.le_iff]
        omega
      · omega

/-- An entry is only added where there was room. -/
theorem recordFailureAt_len (entries entries' : Entries) (ip : IpAddr) (now : Instant)
    (result : AuthFailure) (hroom : entries.len ≤ lockout.maxEntries.val)
    (h : lockout.recordFailureAt entries ip now = .ok (result, entries')) :
    entries'.len ≤ lockout.maxEntries.val := by
  have hcleanup := Table.len_retain_le
    (fun (_ : IpAddr) (state : AuthState) => !state.isStale now lockout.failureWindow) entries
  unfold recordFailureAt at h
  split at h
  · cases h
    exact hroom
  · split at h
    · dsimp only at h
      split at h
      · cases h
        exact le_trans hcleanup hroom
      · rename_i hspace
        obtain ⟨state, _, rfl⟩ := recordEntry_eq_ok lockout _ _ _ _ _ h
        have hinsert := Table.len_insert_le
          (cleanupStaleEntries entries now lockout.failureWindow) ip state
        omega
    · rename_i hnotFull
      obtain ⟨state, _, rfl⟩ := recordEntry_eq_ok lockout _ _ _ _ _ h
      by_cases hmem : ip ∈ entries
      · rw [Table.len_insert_of_mem entries ip state hmem]
        exact hroom
      · have hless : ¬lockout.maxEntries.val ≤ entries.len := fun hle => hnotFull ⟨hle, hmem⟩
        have hinsert := Table.len_insert_le entries ip state
        omega

theorem recordSuccess_len (entries : Entries) (ip : IpAddr)
    (hroom : entries.len ≤ lockout.maxEntries.val) :
    (lockout.recordSuccess entries ip).len ≤ lockout.maxEntries.val := by
  unfold recordSuccess
  split
  · exact hroom
  · exact le_trans (Table.len_erase_le entries ip) hroom

theorem snapshotAt_len (entries : Entries) (now : Instant)
    (hroom : entries.len ≤ lockout.maxEntries.val) :
    (lockout.snapshotAt entries now).2.len ≤ lockout.maxEntries.val := by
  unfold snapshotAt
  split
  · exact hroom
  · exact le_trans (Table.len_retain_le _ entries) hroom

/-- What holds of a table up to an instant. -/
structure Sound (now : Instant) (entries : Entries) : Prop where
  room : entries.len ≤ lockout.maxEntries.val
  entry : ∀ ip state, entries.lookup ip = some state →
    lockout.WellFormed state ∧ state.lastSeenAt ≤ now

variable {lockout}

theorem Sound.mono {s t : Instant} {entries : Entries} (h : lockout.Sound s entries)
    (hst : s ≤ t) : lockout.Sound t entries := by
  refine ⟨h.room, ?_⟩
  intro ip state hlook
  obtain ⟨hstate, hseen⟩ := h.entry ip state hlook
  exact ⟨hstate, le_trans hseen hst⟩

theorem Sound.cleanup {now : Instant} {entries : Entries} (h : lockout.Sound now entries)
    (t : Instant) (w : Duration) : lockout.Sound now (cleanupStaleEntries entries t w) := by
  refine ⟨le_trans (Table.len_retain_le _ entries) h.room, ?_⟩
  intro ip state hlook
  rw [lookup_cleanupStaleEntries, Option.filter_eq_some_iff] at hlook
  exact h.entry ip state hlook.1

variable (lockout)

theorem recordFailureAt_sound (entries entries' : Entries) (ip : IpAddr) (now : Instant)
    (result : AuthFailure) (hmax : 1 ≤ lockout.maxFailures.val)
    (hwindow : 0 < lockout.failureWindow.nanos) (hsound : lockout.Sound now entries)
    (h : lockout.recordFailureAt entries ip now = .ok (result, entries')) :
    lockout.Sound now entries' := by
  refine ⟨recordFailureAt_len lockout entries entries' ip now result hsound.room h, ?_⟩
  rcases recordFailureAt_cases lockout entries entries' ip now result h with
    ⟨_, _, rfl⟩ | ⟨_, _, _, _, rfl⟩ | ⟨_, _, base, next, hbase, hfail, rfl⟩
  · exact hsound.entry
  · exact (hsound.cleanup now lockout.failureWindow).entry
  · have hbaseSound : lockout.Sound now base := by
      rcases hbase with rfl | ⟨_, rfl⟩
      · exact hsound
      · exact hsound.cleanup now lockout.failureWindow
    have hanchored : Anchored now (entries.lookup ip) := by
      intro state hstate
      obtain ⟨hwell, hseen⟩ := hsound.entry ip state hstate
      exact ⟨hwell.ordered, hseen⟩
    intro other state hlook
    by_cases heq : other = ip
    · subst heq
      rw [AList.lookup_insert, Option.some.injEq] at hlook
      subst hlook
      exact ⟨failEntry_wellFormed lockout (entries.lookup other) next now result hmax hwindow
          (hsound.entry other) hfail,
        (failEntry_anchored lockout _ next now result hanchored hfail next rfl).2⟩
    · rw [AList.lookup_insert_ne heq] at hlook
      exact hbaseSound.entry other state hlook

theorem recordSuccess_sound (entries : Entries) (ip : IpAddr) (now : Instant)
    (hsound : lockout.Sound now entries) :
    lockout.Sound now (lockout.recordSuccess entries ip) := by
  refine ⟨recordSuccess_len lockout entries ip hsound.room, ?_⟩
  intro other state hlook
  unfold recordSuccess at hlook
  split at hlook
  · exact hsound.entry other state hlook
  · by_cases heq : other = ip
    · rw [heq, AList.lookup_erase] at hlook
      cases hlook
    · rw [AList.lookup_erase_ne heq] at hlook
      exact hsound.entry other state hlook

/-- Every call keeps the table sound. -/
theorem perform_sound (entries entries' : Entries) (call : Call) (reply : Reply) (t : Instant)
    (hmax : 1 ≤ lockout.maxFailures.val) (hwindow : 0 < lockout.failureWindow.nanos)
    (hcall : ∀ now, call.instant? = some now → now = t) (hsound : lockout.Sound t entries)
    (h : lockout.perform entries call = .ok (reply, entries')) : lockout.Sound t entries' := by
  cases call with
  | failure ip now =>
    obtain rfl := hcall now rfl
    obtain ⟨result, _, hrec⟩ := perform_failure_eq_ok lockout entries entries' ip now reply h
    exact recordFailureAt_sound lockout entries entries' ip now result hmax hwindow hsound hrec
  | success ip =>
    cases h
    exact recordSuccess_sound lockout entries ip t hsound
  | snapshot now =>
    cases h
    unfold snapshotAt
    split
    · exact hsound
    · exact hsound.cleanup now lockout.failureWindow

theorem run_sound (calls : List Call) (entries last : Entries) (log : List (Call × Reply))
    (s : Instant) (hmax : 1 ≤ lockout.maxFailures.val)
    (hwindow : 0 < lockout.failureWindow.nanos) (hmono : NonDecreasing calls)
    (hlater : ∀ now ∈ calls.filterMap Call.instant?, s ≤ now) (hsound : lockout.Sound s entries)
    (hrun : lockout.run entries calls = .ok (log, last)) :
    ∃ t, lockout.Sound t last := by
  induction calls generalizing entries s log with
  | nil =>
    cases hrun
    exact ⟨s, hsound⟩
  | cons call rest ih =>
    obtain ⟨reply, entries', log', hperform, hrest, _⟩ :=
      (run_cons_eq_ok lockout entries last call rest log).mp hrun
    obtain ⟨hst, hmono', hlater'⟩ := nonDecreasing_cons call rest s hmono hlater
    have hstep := perform_sound lockout entries entries' call reply (call.instant?.getD s) hmax
      hwindow (fun now hnow => by rw [hnow]; rfl) (hsound.mono hst) hperform
    exact ih entries' log' (call.instant?.getD s) hmono' hlater' hstep hrest

/-- Without a maximum nothing is ever recorded. -/
theorem run_disabled (calls : List Call) (entries last : Entries) (log : List (Call × Reply))
    (hoff : lockout.isEnabled = false) (hrun : lockout.run entries calls = .ok (log, last)) :
    last = entries := by
  induction calls generalizing entries log with
  | nil =>
    cases hrun
    rfl
  | cons call rest ih =>
    obtain ⟨reply, entries', log', hperform, hrest, _⟩ :=
      (run_cons_eq_ok lockout entries last call rest log).mp hrun
    have hsame : entries' = entries := by
      cases call with
      | failure ip now =>
        obtain ⟨result, _, hrec⟩ :=
          perform_failure_eq_ok lockout entries entries' ip now reply hperform
        simp only [recordFailureAt, hoff] at hrec
        cases hrec
        rfl
      | success ip =>
        simp only [perform, recordSuccess, hoff] at hperform
        cases hperform
        rfl
      | snapshot now =>
        simp only [perform, snapshotAt, hoff] at hperform
        cases hperform
        rfl
    rw [ih entries' log' hrest, hsame]

/-- The invariant of every reachable table. -/
theorem table_invariant (calls : List Call) (log : List (Call × Reply)) (last : Entries)
    (hmono : NonDecreasing calls) (hrun : lockout.run ∅ calls = .ok (log, last)) :
    (1 ≤ lockout.maxFailures.val → 0 < lockout.failureWindow.nanos →
      last.len ≤ lockout.maxEntries.val ∧
        ∀ ip state, last.lookup ip = some state → lockout.WellFormed state) ∧
    (lockout.maxFailures.val = 0 → last = ∅) := by
  constructor
  · intro hmax hwindow
    have hempty : lockout.Sound Instant.earliest ∅ := by
      refine ⟨Nat.zero_le _, ?_⟩
      intro ip state hlook
      rw [AList.lookup_empty] at hlook
      cases hlook
    obtain ⟨t, hsound⟩ := run_sound lockout calls ∅ last log Instant.earliest hmax hwindow hmono
      (fun now _ => Instant.earliest_le now) hempty hrun
    exact ⟨hsound.room, fun ip state hlook => (hsound.entry ip state hlook).1⟩
  · intro hzero
    have hoff : lockout.isEnabled = false := by
      simp only [isEnabled, decide_eq_false_iff_not, Fin.lt_def, not_lt]
      omega
    exact run_disabled lockout calls ∅ last log hoff hrun

/-- The third failure locks the entry for as long as the lockout lasts. -/
theorem table_invariant_locked : ∃ log last state,
    threeStrikes.run ∅ [.failure clientA (.ofSecs 0), .failure clientA (.ofSecs 1),
      .failure clientA (.ofSecs 2)] = .ok (log, last) ∧
    last.lookup clientA = some state ∧ state.failures.val = 3 ∧
    threeStrikes.WellFormed state := by
  obtain ⟨log, last, state, hrun, hlook, hthree⟩ : ∃ log last state,
      threeStrikes.run ∅ [.failure clientA (.ofSecs 0), .failure clientA (.ofSecs 1),
        .failure clientA (.ofSecs 2)] = .ok (log, last) ∧
      last.lookup clientA = some state ∧ state.failures.val = 3 := ⟨_, _, _, rfl, rfl, rfl⟩
  obtain ⟨henabled, _⟩ := table_invariant threeStrikes _ log last (by decide) hrun
  obtain ⟨_, hentry⟩ := henabled (by decide) (by decide)
  exact ⟨log, last, state, hrun, hlook, hthree, hentry clientA state hlook⟩

end AuthLockout

end RedisBridge.Lockout
