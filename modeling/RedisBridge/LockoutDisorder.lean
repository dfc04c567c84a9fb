import RedisBridge.LockoutCensus
import RedisBridge.LockoutPoison

/-!
The table when clock readings reach it in any order, as they do when the clock
is read before the mutex is taken. A window may then start after the last
failure that it counts, and everything else of an entry stays as it is for
readings in order: a failure is counted only less than a window after its
window starts.
-/
namespace RedisBridge.Lockout

open AssocTables Instants IpAddress

namespace AuthLockout

/-- What holds of an entry whatever the order of the readings. A window of no
length restarts with every failure. -/
structure Shaped (lockout : AuthLockout) (state : AuthState) : Prop where
  positive : 1 ≤ state.failures.val
  bounded : state.failures.val ≤ lockout.maxFailures.val
  locked_iff : state.lockedUntil.isSome = true ↔ state.failures = lockout.maxFailures
  expiry : ∀ expiry, state.lockedUntil = some expiry →
    expiry.nanos = state.lastSeenAt.nanos + lockout.lockoutDuration.nanos
  windowed : 0 < lockout.failureWindow.nanos →
    state.lastSeenAt.nanos - state.windowStartedAt.nanos < lockout.failureWindow.nanos

variable (lockout : AuthLockout)

/-- A failure counted below the maximum leaves the shape, wherever the window starts. -/
theorem tallyFailure_shaped (state next : AuthState) (now : Instant) (result : AuthFailure)
    (hbelow : state.failures.val < lockout.maxFailures.val) (hfree : state.lockedUntil = none)
    (hopen : 0 < lockout.failureWindow.nanos →
      now.nanos - state.windowStartedAt.nanos < lockout.failureWindow.nanos)
    (h : lockout.tallyFailure state now = .ok (result, next)) : lockout.Shaped next := by
  obtain ⟨hfailures, hseen, hstart, hcases⟩ := tallyFailure_cases lockout state next now result h
  have hwindowed : 0 < lockout.failureWindow.nanos →
      next.lastSeenAt.nanos - next.windowStartedAt.nanos < lockout.failureWindow.nanos := by
    rw [hseen, hstart]
    exact hopen
  rcases hcases with ⟨_, hless, hlock⟩ | ⟨_, hmax, expiry, hadd, hlock⟩
  · rw [hfree] at hlock
    refine ⟨by omega, by omega, ?_, ?_, hwindowed⟩
    · rw [hlock]
      constructor
      · intro hnone
        cases hnone
      · intro hall
        rw [hall] at hless
        exact absurd hless (lt_irrefl _)
    · intro expiry hexpiry
      rw [hlock] at hexpiry
      cases hexpiry
  · rw [Fin.le_def] at hmax
    refine ⟨by omega, by omega, ?_, ?_, hwindowed⟩
    · rw [hlock]
      exact ⟨fun _ => Fin.ext (by omega), fun _ => rfl⟩
    · intro expiry' hexpiry
      rw [hlock] at hexpiry
      cases hexpiry
      rw [hseen]
      exact (Instant.checkedAdd_eq_some now expiry _).mp hadd

theorem keepsAt_shaped (now : Instant) (henabled : lockout.isEnabled = true) :
    lockout.KeepsAt lockout.Shaped now := by
  have hmax : 0 < lockout.maxFailures.val := of_decide_eq_true henabled
  have hnew : ∀ result next, lockout.tallyFailure (AuthState.new now) now = .ok (result, next) →
      lockout.Shaped next := by
    intro result next h
    apply tallyFailure_shaped lockout (AuthState.new now) next now result hmax rfl _ h
    intro hwindow
    show now.nanos - now.nanos < _
    omega
  intro entry result next hentry h
  cases entry with
  | none =>
    rw [Option.getD_none, failEntry_new] at h
    exact hnew result next h
  | some state =>
    have hstate := hentry state rfl
    rw [Option.getD_some] at h
    rcases failEntry_cases lockout state now with ⟨_, _, _, heq⟩ | ⟨_, heq⟩ | ⟨hfree, hopen, heq⟩
    · rw [heq] at h
      cases h
      exact hstate
    · exact hnew result next (heq ▸ h)
    · rw [heq] at h
      rw [Instant.le_durationSince] at hopen
      -- An unlocked entry has not reached the maximum.
      have hbelow : state.failures.val < lockout.maxFailures.val := by
        have hle := hstate.bounded
        have hne : state.failures.val ≠ lockout.maxFailures.val := by
          intro hall
          have hlocked := hstate.locked_iff.mpr (Fin.ext hall)
          rw [hfree] at hlocked
          cases hlocked
        omega
      exact tallyFailure_shaped lockout state next now result hbelow hfree (fun _ => by omega) h

/-- The shape of a table. -/
structure TableShaped (entries : Entries) : Prop where
  room : entries.len ≤ lockout.maxEntries.val
  each : Every lockout.Shaped entries

/-- Every call leaves a shaped table, at whatever instant. -/
theorem perform_shaped (entries entries' : Entries) (call : Call) (reply : Reply)
    (hentries : lockout.TableShaped entries)
    (h : lockout.perform entries call = .ok (reply, entries')) : lockout.TableShaped entries' := by
  refine ⟨?_, perform_every lockout lockout.Shaped entries entries' call reply
    (fun henabled now _ => keepsAt_shaped lockout now henabled) hentries.each h⟩
  cases call with
  | failure ip now =>
    obtain ⟨result, _, hrecord⟩ := perform_failure_eq_ok lockout entries entries' ip now reply h
    exact recordFailureAt_len lockout entries entries' ip now result hentries.room hrecord
  | success ip =>
    cases h
    exact recordSuccess_len lockout entries ip hentries.room
  | snapshot now =>
    cases h
    exact snapshotAt_len lockout entries now hentries.room

/-- A poisoned table has no shape to keep. -/
def CellShaped (cell : Guarded) : Prop := ∀ entries, cell = .available entries →
  lockout.TableShaped entries

theorem performGuarded_shaped (cell : Guarded) (call : Call) (h : lockout.CellShaped cell) :
    lockout.CellShaped (lockout.performGuarded cell call).2 := by
  intro entries' hcell
  unfold performGuarded withLock at hcell
  cases cell with
  | poisoned =>
    dsimp only at hcell
    split at hcell
    · cases hcell
    · cases hcell
  | available entries =>
    dsimp only at hcell
    split at hcell
    · rename_i reply last hperform
      cases hcell
      exact perform_shaped lockout entries entries' call reply (h entries rfl) hperform
    · cases hcell

/-- Both numbers of a snapshot are at most the number of entries. -/
theorem snapshotAt_le (entries : Entries) (now : Instant) :
    (lockout.snapshotAt entries now).1.trackedIps ≤ entries.len ∧
      (lockout.snapshotAt entries now).1.lockedIps ≤ entries.len := by
  refine ⟨snapshotAt_tracked_le lockout entries now, ?_⟩
  unfold snapshotAt
  split
  · exact Nat.zero_le _
  · exact le_trans List.countP_le_length (Table.len_retain_le _ entries)

/-- What a shaped table shows fits in its capacity. -/
theorem performGuarded_snapshot (cell cell' : Guarded) (now : Instant) (counts : AuthSnapshot)
    (hshaped : lockout.CellShaped cell)
    (h : lockout.performGuarded cell (.snapshot now) = (.ok (.snapshot counts), cell')) :
    counts.trackedIps ≤ lockout.maxEntries.val ∧ counts.lockedIps ≤ lockout.maxEntries.val := by
  have hshown (entries : Entries) (hroom : entries.len ≤ lockout.maxEntries.val) :
      (lockout.snapshotAt entries now).1.trackedIps ≤ lockout.maxEntries.val ∧
        (lockout.snapshotAt entries now).1.lockedIps ≤ lockout.maxEntries.val :=
    ⟨le_trans (lockout.snapshotAt_le entries now).1 hroom,
      le_trans (lockout.snapshotAt_le entries now).2 hroom⟩
  unfold performGuarded withLock at h
  cases cell with
  | available entries =>
    cases h
    exact hshown entries (hshaped entries rfl).room
  | poisoned =>
    dsimp only at h
    split at h
    · cases h
    · cases h
      exact hshown ∅ (Nat.zero_le _)

end AuthLockout

end RedisBridge.Lockout
