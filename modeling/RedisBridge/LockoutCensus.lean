import RedisBridge.LockoutDuration
import RedisBridge.LockoutInvariant

/-!
What the capacity check and the snapshot count. Both classify an entry by the
one rule of staleness, under which a locked entry is live exactly while its lock
holds. A refusal means that live entries fill the table, and the snapshot's two
numbers count the addresses that are locked and the addresses that are live.
-/
namespace RedisBridge.Lockout

open AssocTables Instants IpAddress

namespace AuthState

/-- A lock that holds is never stale. -/
theorem live_and_locked (state : AuthState) (now : Instant) (w : Duration) :
    (!state.isStale now w && AuthLockout.isLockedState now state) =
      AuthLockout.isLockedState now state := by
  unfold AuthLockout.isLockedState isStale
  cases state.lockedUntil with
  | none => exact Bool.and_false _
  | some expiry =>
    by_cases hnow : now < expiry
    · simp [hnow]
    · simp [hnow]

/-- A live entry without a lock is one with a recent failure. -/
theorem live_and_unlocked (state : AuthState) (now : Instant) (w : Duration) :
    (!state.isStale now w && !AuthLockout.isLockedState now state) =
      decide (state.lockedUntil = none ∧ now.durationSince state.lastSeenAt < w) := by
  unfold AuthLockout.isLockedState isStale
  cases state.lockedUntil with
  | none =>
    by_cases hlate : w ≤ now.durationSince state.lastSeenAt
    · simp [hlate]
    · simp [hlate, not_le.mp hlate]
  | some expiry => simp

end AuthState

namespace AuthLockout

variable (lockout : AuthLockout)

/-- A failure is refused when live entries fill the table. -/
theorem recordFailureAt_refused (entries : Entries) (ip : IpAddr) (now : Instant) :
    (∃ entries', lockout.recordFailureAt entries ip now = .ok (.entryLimitReached, entries')) ↔
      lockout.isEnabled = true ∧ entries.lookup ip = none ∧
        lockout.maxEntries.val ≤
          entries.countValues (fun state => !state.isStale now lockout.failureWindow) := by
  have hcount : (cleanupStaleEntries entries now lockout.failureWindow).len =
      entries.countValues (fun state => !state.isStale now lockout.failureWindow) :=
    Table.len_retain _ entries
  rw [← hcount]
  constructor
  · intro hgiven
    obtain ⟨entries', h⟩ := hgiven
    rcases recordFailureAt_cases lockout entries entries' ip now _ h with
      ⟨_, hbad, _⟩ | ⟨henabled, _, hnone, hfull, rfl⟩ | ⟨_, hne, _⟩
    · cases hbad
    · exact ⟨henabled, hnone, hfull⟩
    · exact absurd rfl hne
  · intro hgiven
    obtain ⟨henabled, hnone, hfull⟩ := hgiven
    have hlen : (cleanupStaleEntries entries now lockout.failureWindow).len ≤ entries.len :=
      Table.len_retain_le _ entries
    have hmem : ip ∉ entries := AList.lookup_eq_none.mp hnone
    refine ⟨cleanupStaleEntries entries now lockout.failureWindow, ?_⟩
    unfold recordFailureAt
    rw [if_neg (by simp [henabled]), if_pos ⟨le_trans hfull hlen, hmem⟩]
    exact if_pos hfull

/-- A refusal leaves every live entry as it was. -/
theorem recordFailureAt_refused_live (entries entries' : Entries) (ip other : IpAddr)
    (now : Instant) (state : AuthState)
    (h : lockout.recordFailureAt entries ip now = .ok (.entryLimitReached, entries'))
    (hlook : entries.lookup other = some state)
    (hlive : state.isStale now lockout.failureWindow = false) :
    entries'.lookup other = some state := by
  rcases recordFailureAt_cases lockout entries entries' ip now _ h with
    ⟨_, hbad, _⟩ | ⟨_, _, _, _, rfl⟩ | ⟨_, hne, _⟩
  · cases hbad
  · rw [lookup_cleanupStaleEntries, hlook]
    simp [hlive]
  · exact absurd rfl hne

/-- A failure finds its address locked when the entry's lock holds. -/
theorem recordFailureAt_alreadyLocked (entries : Entries) (ip : IpAddr) (now : Instant) :
    (∃ entries', lockout.recordFailureAt entries ip now = .ok (.alreadyLocked, entries')) ↔
      lockout.isEnabled = true ∧
        ∃ state, entries.lookup ip = some state ∧ isLockedState now state = true := by
  constructor
  · intro hgiven
    obtain ⟨entries', h⟩ := hgiven
    rcases recordFailureAt_cases lockout entries entries' ip now _ h with
      ⟨_, hbad, _⟩ | ⟨_, hbad, _⟩ | ⟨henabled, _, base, next, _, hfail, _⟩
    · cases hbad
    · cases hbad
    · refine ⟨henabled, ?_⟩
      have hstate : isLockedState now ((entries.lookup ip).getD (AuthState.new now)) = true := by
        rcases failEntry_cases lockout ((entries.lookup ip).getD (AuthState.new now)) now with
          ⟨expiry, hlocked, hnow, _⟩ | ⟨_, heq⟩ | ⟨_, _, heq⟩
        · unfold isLockedState
          rw [hlocked]
          exact decide_eq_true hnow
        all_goals
          rw [heq] at hfail
          rcases (tallyFailure_cases lockout _ _ _ _ hfail).2.2.2 with ⟨hbad, _⟩ | ⟨hbad, _⟩
          · cases hbad
          · cases hbad
      cases hlook : entries.lookup ip with
      | none =>
        rw [hlook] at hstate
        cases hstate
      | some state =>
        rw [hlook] at hstate
        exact ⟨state, rfl, hstate⟩
  · intro hgiven
    obtain ⟨henabled, state, hlook, hstate⟩ := hgiven
    unfold isLockedState at hstate
    split at hstate
    · rename_i expiry hlocked
      obtain ⟨entries', hrec, _⟩ := recordFailureAt_locked lockout entries ip now expiry state
        henabled hlook hlocked (of_decide_eq_true hstate)
      exact ⟨entries', hrec⟩
    · cases hstate

/-- The snapshot counts the live entries and the locked ones. -/
theorem snapshotAt_counts (entries : Entries) (now : Instant)
    (henabled : lockout.isEnabled = true) :
    (lockout.snapshotAt entries now).1.trackedIps =
        entries.countValues (fun state => !state.isStale now lockout.failureWindow) ∧
      (lockout.snapshotAt entries now).1.lockedIps = entries.countValues (isLockedState now) := by
  have hlocked : (cleanupStaleEntries entries now lockout.failureWindow).countValues
      (isLockedState now) = entries.countValues (isLockedState now) := by
    unfold cleanupStaleEntries
    rw [Table.countValues_retain]
    congr 1
    funext state
    rw [Bool.and_comm]
    exact state.live_and_locked now lockout.failureWindow
  unfold snapshotAt
  rw [if_neg (by simp [henabled])]
  exact ⟨Table.len_retain _ entries, hlocked⟩

theorem snapshotAt_tracked_le (entries : Entries) (now : Instant) :
    (lockout.snapshotAt entries now).1.trackedIps ≤ entries.len := by
  unfold snapshotAt
  split
  · exact Nat.zero_le _
  · exact Table.len_retain_le _ entries

/-- The addresses that a failure would find locked. -/
def LockedAt (entries : Entries) (now : Instant) : Set IpAddr :=
  {ip | ∃ entries', lockout.recordFailureAt entries ip now = .ok (.alreadyLocked, entries')}

/-- The addresses without a lock that failed within the window. -/
def FailingAt (entries : Entries) (now : Instant) : Set IpAddr :=
  {ip | ∃ state, entries.lookup ip = some state ∧ state.lockedUntil = none ∧
    now.durationSince state.lastSeenAt < lockout.failureWindow}

/-- The addresses whose entry is not stale. -/
def LiveAt (entries : Entries) (now : Instant) : Set IpAddr :=
  {ip | ∃ state, entries.lookup ip = some state ∧
    state.isStale now lockout.failureWindow = false}

theorem encard_liveAt (entries : Entries) (now : Instant) :
    (lockout.LiveAt entries now).encard =
      entries.countValues (fun state => !state.isStale now lockout.failureWindow) := by
  rw [← Table.encard_lookup]
  simp only [LiveAt, Bool.not_eq_true']

theorem encard_lockedAt (entries : Entries) (now : Instant) (henabled : lockout.isEnabled = true) :
    (lockout.LockedAt entries now).encard = entries.countValues (isLockedState now) := by
  rw [← Table.encard_lookup]
  congr 1
  ext ip
  have hlocked := recordFailureAt_alreadyLocked lockout entries ip now
  simp only [henabled, true_and] at hlocked
  exact hlocked

theorem encard_failingAt (entries : Entries) (now : Instant) :
    (lockout.FailingAt entries now).encard = entries.countValues
      (fun state => !state.isStale now lockout.failureWindow && !isLockedState now state) := by
  rw [← Table.encard_lookup]
  congr 1
  ext ip
  simp only [FailingAt, AuthState.live_and_unlocked, decide_eq_true_eq, Set.mem_ofPred_eq]

/-- The snapshot of any table of an enabled lockout. -/
theorem snapshotAt_census (entries : Entries) (now : Instant)
    (henabled : lockout.isEnabled = true) :
    ((lockout.snapshotAt entries now).1.lockedIps : ℕ∞) = (lockout.LockedAt entries now).encard ∧
    ((lockout.snapshotAt entries now).1.trackedIps : ℕ∞) =
      (lockout.LockedAt entries now).encard + (lockout.FailingAt entries now).encard := by
  obtain ⟨htracked, hlocked⟩ := snapshotAt_counts lockout entries now henabled
  have hsplit := Table.countValues_split
    (fun state => !state.isStale now lockout.failureWindow) (isLockedState now) entries
  simp only [AuthState.live_and_locked] at hsplit
  rw [encard_lockedAt lockout entries now henabled, encard_failingAt, htracked, hlocked, hsplit,
    Nat.cast_add]
  exact ⟨rfl, rfl⟩

/-- The snapshot of a disabled lockout counts nothing, and nothing is there. -/
theorem snapshotAt_disabled (now : Instant) (hoff : lockout.isEnabled = false) :
    ((lockout.snapshotAt ∅ now).1.lockedIps : ℕ∞) = (lockout.LockedAt ∅ now).encard ∧
    ((lockout.snapshotAt ∅ now).1.trackedIps : ℕ∞) =
      (lockout.LockedAt ∅ now).encard + (lockout.FailingAt ∅ now).encard := by
  have hlocked : lockout.LockedAt ∅ now = ∅ := by
    refine Set.eq_empty_of_forall_notMem ?_
    intro ip hip
    obtain ⟨henabled, _⟩ := (recordFailureAt_alreadyLocked lockout ∅ ip now).mp hip
    rw [hoff] at henabled
    cases henabled
  have hfailing : lockout.FailingAt ∅ now = ∅ := by
    refine Set.eq_empty_of_forall_notMem ?_
    rintro ip ⟨state, hlook, _⟩
    rw [AList.lookup_empty] at hlook
    cases hlook
  have hzero : (lockout.snapshotAt ∅ now).1 = ⟨0, 0⟩ := by
    unfold snapshotAt
    rw [if_pos (by simp [hoff])]
  rw [hlocked, hfailing, hzero, Set.encard_empty]
  exact ⟨rfl, rfl⟩

/-- Every run keeps the table within its capacity, at whatever instants. -/
theorem run_room (calls : List Call) (entries last : Entries) (log : List (Call × Reply))
    (hroom : entries.len ≤ lockout.maxEntries.val)
    (hrun : lockout.run entries calls = .ok (log, last)) : last.len ≤ lockout.maxEntries.val := by
  induction calls generalizing entries log with
  | nil =>
    cases hrun
    exact hroom
  | cons call rest ih =>
    obtain ⟨reply, entries', log', hperform, hrest, _⟩ :=
      (run_cons_eq_ok lockout entries last call rest log).mp hrun
    refine ih entries' log' ?_ hrest
    cases call with
    | failure ip now =>
      obtain ⟨result, _, hrec⟩ :=
        perform_failure_eq_ok lockout entries entries' ip now reply hperform
      exact recordFailureAt_len lockout entries entries' ip now result hroom hrec
    | success ip =>
      cases hperform
      exact recordSuccess_len lockout entries ip hroom
    | snapshot now =>
      cases hperform
      exact snapshotAt_len lockout entries now hroom

/-- Two failures lock, and there is room for one address. -/
def tiny : AuthLockout := ⟨2, Duration.fromSecs 600, Duration.fromSecs 300, 1⟩

/-- What a refusal and a snapshot count, in every reachable table. -/
theorem census (calls : List Call) (log : List (Call × Reply)) (last : Entries) (ip : IpAddr)
    (now : Instant) (hrun : lockout.run ∅ calls = .ok (log, last)) :
    ((∃ entries', lockout.recordFailureAt last ip now = .ok (.entryLimitReached, entries')) ↔
      lockout.isEnabled = true ∧ last.lookup ip = none ∧
        lockout.maxEntries.val ≤ (lockout.LiveAt last now).encard) ∧
    (∀ entries', lockout.recordFailureAt last ip now = .ok (.entryLimitReached, entries') →
      ∀ other ∈ lockout.LiveAt last now, entries'.lookup other = last.lookup other) ∧
    (lockout.snapshotAt last now).1.lockedIps = (lockout.LockedAt last now).encard ∧
    (lockout.snapshotAt last now).1.trackedIps =
      (lockout.LockedAt last now).encard + (lockout.FailingAt last now).encard ∧
    (lockout.snapshotAt last now).1.trackedIps ≤ lockout.maxEntries.val := by
  refine ⟨?_, ?_, ?_⟩
  · rw [encard_liveAt, Nat.cast_le]
    exact recordFailureAt_refused lockout last ip now
  · rintro entries' h other ⟨state, hlook, hlive⟩
    rw [hlook]
    exact recordFailureAt_refused_live lockout last entries' ip other now state h hlook hlive
  · by_cases henabled : lockout.isEnabled = true
    · obtain ⟨hlocked, htracked⟩ := snapshotAt_census lockout last now henabled
      refine ⟨hlocked, htracked, ?_⟩
      have hroom := run_room lockout calls ∅ last log (Nat.zero_le _) hrun
      exact le_trans (snapshotAt_tracked_le lockout last now) hroom
    · have hoff : lockout.isEnabled = false := Bool.eq_false_iff.mpr henabled
      have hempty := run_disabled lockout calls ∅ last log hoff hrun
      subst hempty
      obtain ⟨hlocked, htracked⟩ := snapshotAt_disabled lockout now hoff
      exact ⟨hlocked, htracked, le_trans (snapshotAt_tracked_le lockout ∅ now) (Nat.zero_le _)⟩

/-- A table full of live entries refuses the next address. -/
theorem census_full : ∃ log last,
    tiny.run ∅ [.failure clientA (.ofSecs 0), .failure clientA (.ofSecs 1)] = .ok (log, last) ∧
    (∃ entries', tiny.recordFailureAt last clientB (.ofSecs 2) =
      .ok (.entryLimitReached, entries')) ∧
    (1 : ℕ∞) ≤ (tiny.LiveAt last (.ofSecs 2)).encard ∧
    (tiny.LockedAt last (.ofSecs 2)).encard = 1 := by
  obtain ⟨log, last, hrun, hrefused, hcount⟩ : ∃ log last,
      tiny.run ∅ [.failure clientA (.ofSecs 0), .failure clientA (.ofSecs 1)] = .ok (log, last) ∧
      (∃ entries', tiny.recordFailureAt last clientB (.ofSecs 2) =
        .ok (.entryLimitReached, entries')) ∧
      (tiny.snapshotAt last (.ofSecs 2)).1.lockedIps = 1 := ⟨_, _, rfl, ⟨_, rfl⟩, by decide⟩
  obtain ⟨hlimit, _, hlocked, _⟩ := census tiny _ log last clientB (.ofSecs 2) hrun
  refine ⟨log, last, hrun, hrefused, (hlimit.mp hrefused).2.2, ?_⟩
  rw [← hlocked, hcount]
  rfl

end AuthLockout

end RedisBridge.Lockout
