import RedisBridge.AssocTables
import RedisBridge.Instants
import RedisBridge.IpAddress

/-!
The table of failed authentications by client address. An entry counts the
failures of one window; the failure that reaches the maximum locks the address
for a fixed duration. Stale entries are dropped when the table is full and
whenever a snapshot is taken, by a rule that is not the rule by which a failure
restarts a window. Arithmetic that std answers with a panic is an error here.
-/
namespace RedisBridge.Lockout

open AssocTables Instants IpAddress RustText

structure AuthState where
  failures : Usize
  windowStartedAt : Instant
  lastSeenAt : Instant
  lockedUntil : Option Instant
  deriving DecidableEq

inductive AuthFailure
  | disabled
  | tracked
  | locked
  | alreadyLocked
  | entryLimitReached
  deriving DecidableEq

structure AuthSnapshot where
  trackedIps : ℕ
  lockedIps : ℕ
  deriving DecidableEq

/-- Where the code stops with a panic instead of returning. -/
inductive Panic
  | failuresOverflow
  | instantOverflow
  | mutexPoisoned
  deriving DecidableEq

structure AuthLockout where
  maxFailures : Usize
  failureWindow : Duration
  lockoutDuration : Duration
  maxEntries : Usize
  deriving DecidableEq

abbrev Entries := Table IpAddr AuthState

namespace AuthState

def new (now : Instant) : AuthState := ⟨0, now, now, none⟩

def isStale (state : AuthState) (now : Instant) (failureWindow : Duration) : Bool :=
  match state.lockedUntil with
  | some expiry => expiry ≤ now
  | none => failureWindow ≤ now.durationSince state.lastSeenAt

def resetWindow (_ : AuthState) (now : Instant) : AuthState := ⟨0, now, now, none⟩

end AuthState

namespace AuthLockout

def isEnabled (lockout : AuthLockout) : Bool := 0 < lockout.maxFailures

/-- `state.failures += 1`, checked. -/
def addFailure (failures : Usize) : Option Usize :=
  if h : failures.val + 1 < 2 ^ 64 then some ⟨failures.val + 1, h⟩ else none

/-- Count one failure in the entry's window and lock at the maximum. -/
def tallyFailure (lockout : AuthLockout) (state : AuthState) (now : Instant) :
    Except Panic (AuthFailure × AuthState) :=
  match addFailure state.failures with
  | none => .error .failuresOverflow
  | some failures =>
      let state := { state with failures := failures, lastSeenAt := now }
      if lockout.maxFailures ≤ failures then
        match now.checkedAdd lockout.lockoutDuration with
        | none => .error .instantOverflow
        | some lockedUntil =>
            .ok (.locked, { state with lockedUntil := some lockedUntil })
      else .ok (.tracked, state)

/-- The part of `record_failure_at` after the lock check. -/
def countFailure (lockout : AuthLockout) (state : AuthState) (now : Instant) :
    Except Panic (AuthFailure × AuthState) :=
  if lockout.failureWindow ≤ now.durationSince state.windowStartedAt then
    lockout.tallyFailure (state.resetWindow now) now
  else lockout.tallyFailure state now

/-- The part of `record_failure_at` that works on the entry alone. -/
def failEntry (lockout : AuthLockout) (state : AuthState) (now : Instant) :
    Except Panic (AuthFailure × AuthState) :=
  match state.lockedUntil with
  | some expiry =>
      if now < expiry then .ok (.alreadyLocked, state)
      else lockout.countFailure (state.resetWindow now) now
  | none => lockout.countFailure state now

def cleanupStaleEntries (entries : Entries) (now : Instant) (failureWindow : Duration) :
    Entries :=
  entries.retain (fun _ state => !state.isStale now failureWindow)

/-- `entry(ip).or_insert_with(..)` and the update of the entry in place. -/
def recordEntry (lockout : AuthLockout) (entries : Entries) (ip : IpAddr) (now : Instant) :
    Except Panic (AuthFailure × Entries) :=
  match lockout.failEntry ((entries.lookup ip).getD (AuthState.new now)) now with
  | .error panic => .error panic
  | .ok (result, state) => .ok (result, entries.insert ip state)

def recordFailureAt (lockout : AuthLockout) (entries : Entries) (ip : IpAddr) (now : Instant) :
    Except Panic (AuthFailure × Entries) :=
  if !lockout.isEnabled then .ok (.disabled, entries)
  else if lockout.maxEntries.val ≤ entries.len ∧ ip ∉ entries then
    let entries := cleanupStaleEntries entries now lockout.failureWindow
    if lockout.maxEntries.val ≤ entries.len then .ok (.entryLimitReached, entries)
    else lockout.recordEntry entries ip now
  else lockout.recordEntry entries ip now

def recordSuccess (lockout : AuthLockout) (entries : Entries) (ip : IpAddr) : Entries :=
  if !lockout.isEnabled then entries else entries.erase ip

def isLockedState (now : Instant) (state : AuthState) : Bool :=
  match state.lockedUntil with
  | some expiry => now < expiry
  | none => false

def snapshotAt (lockout : AuthLockout) (entries : Entries) (now : Instant) :
    AuthSnapshot × Entries :=
  if !lockout.isEnabled then (⟨0, 0⟩, entries)
  else
    let entries := cleanupStaleEntries entries now lockout.failureWindow
    (⟨entries.len, entries.countValues (isLockedState now)⟩, entries)

end AuthLockout

/-- `Mutex<HashMap<..>>`: the table, or a mutex poisoned by a panic. -/
inductive Guarded
  | available (entries : Entries)
  | poisoned
  deriving DecidableEq

namespace AuthLockout

/-- Work on the table under its mutex. A panic poisons the mutex, and a poisoned
mutex panics. A disabled lockout returns before it locks. -/
def withLock {α : Type} (lockout : AuthLockout) (cell : Guarded)
    (work : Entries → Except Panic (α × Entries)) : Except Panic α × Guarded :=
  match cell with
  | .available entries =>
      match work entries with
      | .ok (result, entries') => (.ok result, .available entries')
      | .error panic => (.error panic, .poisoned)
  | .poisoned =>
      if lockout.isEnabled then (.error .mutexPoisoned, .poisoned)
      else ((work ∅).map Prod.fst, .poisoned)

end AuthLockout

/-- One call on the table. -/
inductive Call
  | failure (ip : IpAddr) (now : Instant)
  | success (ip : IpAddr)
  | snapshot (now : Instant)
  deriving DecidableEq

inductive Reply
  | failure (result : AuthFailure)
  | success
  | snapshot (counts : AuthSnapshot)
  deriving DecidableEq

def Call.instant? : Call → Option Instant
  | .failure _ now => some now
  | .success _ => none
  | .snapshot now => some now

namespace AuthLockout

def perform (lockout : AuthLockout) (entries : Entries) : Call → Except Panic (Reply × Entries)
  | .failure ip now =>
      (lockout.recordFailureAt entries ip now).map (fun r => (.failure r.1, r.2))
  | .success ip => .ok (.success, lockout.recordSuccess entries ip)
  | .snapshot now =>
      .ok (.snapshot (lockout.snapshotAt entries now).1, (lockout.snapshotAt entries now).2)

/-- The calls in order, each with the reply it returned. A run is over calls
that return; the first panic ends it. -/
def run (lockout : AuthLockout) (entries : Entries) :
    List Call → Except Panic (List (Call × Reply) × Entries)
  | [] => .ok ([], entries)
  | call :: rest =>
      match lockout.perform entries call with
      | .error panic => .error panic
      | .ok (reply, entries') =>
          match lockout.run entries' rest with
          | .error panic => .error panic
          | .ok (log, last) => .ok ((call, reply) :: log, last)

end AuthLockout

/-- The clock readings of the calls never go back. -/
def NonDecreasing (calls : List Call) : Prop := (calls.filterMap Call.instant?).Pairwise (· ≤ ·)

instance : DecidablePred NonDecreasing := fun calls =>
  inferInstanceAs (Decidable ((calls.filterMap Call.instant?).Pairwise (· ≤ ·)))

/-- What the failures of one address were answered, with their instants. -/
def answers (ip : IpAddr) (log : List (Call × Reply)) : List (Instant × AuthFailure) :=
  log.filterMap fun
    | (.failure ip' now, .failure result) => if ip' = ip then some (now, result) else none
    | _ => none

/-! What each operation can do to one address's entry. -/

namespace AuthState

@[simp] theorem resetWindow_eq (state : AuthState) (now : Instant) :
    state.resetWindow now = AuthState.new now := rfl

/-- Staleness is permanent: time only adds to it. -/
theorem isStale_mono (state : AuthState) (s t : Instant) (w : Duration) (hst : s ≤ t)
    (h : state.isStale s w = true) : state.isStale t w = true := by
  unfold isStale at h ⊢
  split at h
  · rw [decide_eq_true_eq] at h ⊢
    exact le_trans h hst
  · rw [decide_eq_true_eq, Instant.le_durationSince] at h ⊢
    rw [Instant.le_iff] at hst
    omega

/-- A locked entry is stale only when its lock is over. -/
theorem expired_of_stale (state : AuthState) (now expiry : Instant) (w : Duration)
    (hlocked : state.lockedUntil = some expiry) (h : state.isStale now w = true) :
    expiry ≤ now := by
  unfold isStale at h
  rw [hlocked] at h
  exact of_decide_eq_true h

end AuthState

namespace AuthLockout

variable (lockout : AuthLockout)

theorem addFailure_eq_some (failures next : Usize) :
    addFailure failures = some next ↔ next.val = failures.val + 1 := by
  unfold addFailure
  constructor
  · intro h
    split at h
    · cases h
      rfl
    · cases h
  · intro h
    have hlt := next.isLt
    rw [dif_pos (by omega)]
    exact congrArg some (Fin.ext h.symm)

/-- Both ways in which counting a failure returns. -/
theorem tallyFailure_cases (state next : AuthState) (now : Instant) (result : AuthFailure)
    (h : lockout.tallyFailure state now = .ok (result, next)) :
    next.failures.val = state.failures.val + 1 ∧ next.lastSeenAt = now ∧
    next.windowStartedAt = state.windowStartedAt ∧
    ((result = .tracked ∧ next.failures < lockout.maxFailures ∧
        next.lockedUntil = state.lockedUntil) ∨
      (result = .locked ∧ lockout.maxFailures ≤ next.failures ∧
        ∃ expiry, now.checkedAdd lockout.lockoutDuration = some expiry ∧
          next.lockedUntil = some expiry)) := by
  unfold tallyFailure at h
  split at h
  · cases h
  · rename_i failures hadd
    have hval := (addFailure_eq_some state.failures failures).mp hadd
    split at h
    · rename_i hmax
      split at h
      · cases h
      · rename_i expiry hexpiry
        cases h
        exact ⟨hval, rfl, rfl, Or.inr ⟨rfl, hmax, expiry, hexpiry, rfl⟩⟩
    · rename_i hmax
      cases h
      exact ⟨hval, rfl, rfl, Or.inl ⟨rfl, not_le.mp hmax, rfl⟩⟩

/-- A window that starts now cannot also have expired, unless it restarts as
the same window. -/
theorem countFailure_new (now : Instant) :
    lockout.countFailure (AuthState.new now) now =
      lockout.tallyFailure (AuthState.new now) now := by
  unfold countFailure
  split <;> rfl

/-- The three ways in which a failure works on an entry: the lock still holds,
the window restarts, or the failure is counted in the current window. -/
theorem failEntry_cases (state : AuthState) (now : Instant) :
    (∃ expiry, state.lockedUntil = some expiry ∧ now < expiry ∧
      lockout.failEntry state now = .ok (.alreadyLocked, state)) ∨
    (((∃ expiry, state.lockedUntil = some expiry ∧ expiry ≤ now) ∨
        (state.lockedUntil = none ∧
          lockout.failureWindow ≤ now.durationSince state.windowStartedAt)) ∧
      lockout.failEntry state now = lockout.tallyFailure (AuthState.new now) now) ∨
    (state.lockedUntil = none ∧
      ¬ lockout.failureWindow ≤ now.durationSince state.windowStartedAt ∧
      lockout.failEntry state now = lockout.tallyFailure state now) := by
  unfold failEntry
  split
  · rename_i expiry hlocked
    by_cases hnow : now < expiry
    · rw [if_pos hnow]
      exact Or.inl ⟨expiry, hlocked, hnow, rfl⟩
    · rw [if_neg hnow, AuthState.resetWindow_eq, countFailure_new]
      exact Or.inr (Or.inl ⟨Or.inl ⟨expiry, hlocked, not_lt.mp hnow⟩, rfl⟩)
  · rename_i hfree
    unfold countFailure
    by_cases hwindow : lockout.failureWindow ≤ now.durationSince state.windowStartedAt
    · rw [if_pos hwindow, AuthState.resetWindow_eq]
      exact Or.inr (Or.inl ⟨Or.inr ⟨hfree, hwindow⟩, rfl⟩)
    · rw [if_neg hwindow]
      exact Or.inr (Or.inr ⟨hfree, hwindow, rfl⟩)

theorem failEntry_new (now : Instant) :
    lockout.failEntry (AuthState.new now) now =
      lockout.tallyFailure (AuthState.new now) now := by
  unfold failEntry
  exact countFailure_new lockout now

theorem failEntry_result (state next : AuthState) (now : Instant) (result : AuthFailure)
    (h : lockout.failEntry state now = .ok (result, next)) :
    result = .tracked ∨ result = .locked ∨ result = .alreadyLocked := by
  rcases failEntry_cases lockout state now with ⟨_, _, _, heq⟩ | ⟨_, heq⟩ | ⟨_, _, heq⟩
  · rw [heq] at h
    cases h
    exact Or.inr (Or.inr rfl)
  all_goals
    rw [heq] at h
    rcases (tallyFailure_cases lockout _ _ _ _ h).2.2.2 with ⟨hr, _⟩ | ⟨hr, _⟩
    · exact Or.inl hr
    · exact Or.inr (Or.inl hr)

theorem lookup_cleanupStaleEntries (entries : Entries) (now : Instant) (w : Duration)
    (ip : IpAddr) :
    (cleanupStaleEntries entries now w).lookup ip =
      (entries.lookup ip).filter (fun state => !state.isStale now w) :=
  Table.lookup_retain _ entries ip

/-- An address keeps its entry, or loses one that was stale. -/
def KeptOrStale (w : Duration) (now : Instant) (before after : Option AuthState) : Prop :=
  after = before ∨ ∃ state, before = some state ∧ state.isStale now w = true ∧ after = none

theorem keptOrStale_cleanup (entries : Entries) (now : Instant) (w : Duration) (ip : IpAddr) :
    KeptOrStale w now (entries.lookup ip) ((cleanupStaleEntries entries now w).lookup ip) := by
  rw [lookup_cleanupStaleEntries]
  cases hlook : entries.lookup ip with
  | none => exact Or.inl rfl
  | some state =>
    by_cases hstale : state.isStale now w = true
    · exact Or.inr ⟨state, rfl, hstale, by simp [hstale]⟩
    · exact Or.inl (by simp [hstale])

theorem recordEntry_eq_ok (entries entries' : Entries) (ip : IpAddr) (now : Instant)
    (result : AuthFailure) (h : lockout.recordEntry entries ip now = .ok (result, entries')) :
    ∃ state, lockout.failEntry ((entries.lookup ip).getD (AuthState.new now)) now =
      .ok (result, state) ∧ entries' = entries.insert ip state := by
  unfold recordEntry at h
  split at h
  · cases h
  · rename_i result' state heq
    cases h
    exact ⟨state, heq, rfl⟩

/-- The three ways in which `record_failure_at` returns: disabled, refused for
want of room, or recorded in the table or in what cleanup left of it. -/
theorem recordFailureAt_cases (entries entries' : Entries) (ip : IpAddr) (now : Instant)
    (result : AuthFailure) (h : lockout.recordFailureAt entries ip now = .ok (result, entries')) :
    (lockout.isEnabled = false ∧ result = .disabled ∧ entries' = entries) ∨
    (lockout.isEnabled = true ∧ result = .entryLimitReached ∧ entries.lookup ip = none ∧
      lockout.maxEntries.val ≤ entries'.len ∧
      entries' = cleanupStaleEntries entries now lockout.failureWindow) ∨
    (lockout.isEnabled = true ∧ result ≠ .entryLimitReached ∧
      ∃ base state, (base = entries ∨ (entries.lookup ip = none ∧
          base = cleanupStaleEntries entries now lockout.failureWindow)) ∧
        lockout.failEntry ((entries.lookup ip).getD (AuthState.new now)) now =
          .ok (result, state) ∧ entries' = base.insert ip state) := by
  have hresult : ∀ state next r, lockout.failEntry state now = .ok (r, next) →
      r ≠ .entryLimitReached := by
    intro state next r hr
    rcases failEntry_result lockout state next now r hr with rfl | rfl | rfl <;> simp
  unfold recordFailureAt at h
  by_cases henabled : lockout.isEnabled = true
  · rw [if_neg (by simp [henabled])] at h
    split at h
    · rename_i hfull
      have hnone : entries.lookup ip = none := AList.lookup_eq_none.mpr hfull.2
      dsimp only at h
      split at h
      · rename_i hstill
        cases h
        exact Or.inr (Or.inl ⟨henabled, rfl, hnone, hstill, rfl⟩)
      · obtain ⟨state, hfail, heq⟩ := recordEntry_eq_ok lockout _ _ _ _ _ h
        rw [lookup_cleanupStaleEntries, hnone] at hfail
        rw [hnone]
        exact Or.inr (Or.inr ⟨henabled, hresult _ _ _ hfail, _, state,
          Or.inr ⟨rfl, rfl⟩, hfail, heq⟩)
    · obtain ⟨state, hfail, heq⟩ := recordEntry_eq_ok lockout _ _ _ _ _ h
      exact Or.inr (Or.inr ⟨henabled, hresult _ _ _ hfail, _, state, Or.inl rfl, hfail, heq⟩)
  · rw [if_pos (by simp [henabled])] at h
    cases h
    exact Or.inl ⟨by simpa using henabled, rfl, rfl⟩

/-- A failure of another address only drops an entry that is stale. -/
theorem recordFailureAt_other (entries entries' : Entries) (ip other : IpAddr) (now : Instant)
    (result : AuthFailure) (hne : other ≠ ip)
    (h : lockout.recordFailureAt entries ip now = .ok (result, entries')) :
    KeptOrStale lockout.failureWindow now (entries.lookup other) (entries'.lookup other) := by
  rcases recordFailureAt_cases lockout entries entries' ip now result h with
    ⟨_, _, rfl⟩ | ⟨_, _, _, _, rfl⟩ | ⟨_, _, base, state, hbase, _, rfl⟩
  · exact Or.inl rfl
  · exact keptOrStale_cleanup entries now _ other
  · rw [AList.lookup_insert_ne hne]
    rcases hbase with rfl | ⟨_, rfl⟩
    · exact Or.inl rfl
    · exact keptOrStale_cleanup entries now _ other

/-- A failure that is not refused works on the address's own entry, or on a
new one, exactly as it would alone. -/
theorem recordFailureAt_self (entries entries' : Entries) (ip : IpAddr) (now : Instant)
    (result : AuthFailure) (henabled : lockout.isEnabled = true)
    (hroom : result ≠ .entryLimitReached)
    (h : lockout.recordFailureAt entries ip now = .ok (result, entries')) :
    ∃ state, lockout.failEntry ((entries.lookup ip).getD (AuthState.new now)) now =
      .ok (result, state) ∧ entries'.lookup ip = some state := by
  rcases recordFailureAt_cases lockout entries entries' ip now result h with
    ⟨hoff, _, _⟩ | ⟨_, hfull, _⟩ | ⟨_, _, base, state, _, hfail, rfl⟩
  · rw [henabled] at hoff
    cases hoff
  · exact absurd hfull hroom
  · exact ⟨state, hfail, AList.lookup_insert _⟩

theorem recordSuccess_other (entries : Entries) (ip other : IpAddr) (hne : other ≠ ip) :
    (lockout.recordSuccess entries ip).lookup other = entries.lookup other := by
  unfold recordSuccess
  split
  · rfl
  · exact AList.lookup_erase_ne hne

theorem recordSuccess_self (entries : Entries) (ip : IpAddr) (henabled : lockout.isEnabled = true) :
    (lockout.recordSuccess entries ip).lookup ip = none := by
  unfold recordSuccess
  rw [if_neg (by simp [henabled])]
  exact AList.lookup_erase _ _

theorem snapshotAt_other (entries : Entries) (now : Instant) (ip : IpAddr) :
    KeptOrStale lockout.failureWindow now (entries.lookup ip)
      ((lockout.snapshotAt entries now).2.lookup ip) := by
  unfold snapshotAt
  split
  · exact Or.inl rfl
  · exact keptOrStale_cleanup entries now _ ip

theorem perform_failure_eq_ok (entries entries' : Entries) (ip : IpAddr) (now : Instant)
    (reply : Reply) (h : lockout.perform entries (.failure ip now) = .ok (reply, entries')) :
    ∃ result, reply = .failure result ∧
      lockout.recordFailureAt entries ip now = .ok (result, entries') := by
  simp only [perform] at h
  cases hrec : lockout.recordFailureAt entries ip now with
  | error panic =>
    rw [hrec] at h
    cases h
  | ok r =>
    rw [hrec] at h
    cases h
    exact ⟨r.1, rfl, rfl⟩

theorem run_cons_eq_ok (entries last : Entries) (call : Call) (rest : List Call)
    (log : List (Call × Reply)) :
    lockout.run entries (call :: rest) = .ok (log, last) ↔
      ∃ reply entries' log', lockout.perform entries call = .ok (reply, entries') ∧
        lockout.run entries' rest = .ok (log', last) ∧ log = (call, reply) :: log' := by
  rw [run]
  constructor
  · intro h
    split at h
    · cases h
    · rename_i reply entries' hperform
      split at h
      · cases h
      · rename_i log' last' hrest
        cases h
        exact ⟨reply, entries', log', hperform, hrest, rfl⟩
  · rintro ⟨reply, entries', log', hperform, hrest, rfl⟩
    rw [hperform]
    simp only [hrest]

end AuthLockout

end RedisBridge.Lockout
