import RedisBridge.Lockout

/-!
The mutex around the lockout table. A panic while the table is held poisons the
mutex, and every later call that needs the table panics in turn: a run through
the mutex is a run without a panic up to the first one, and panics from there.
Counting failures cannot overflow, because an unlocked entry has fewer failures
than the maximum. Adding the lockout duration to the clock reading can, and the
failure that reaches the maximum does so.
-/
namespace RedisBridge.Lockout

open AssocTables Instants IpAddress RustText

/-- The calls that returned, with what they returned. -/
def returned (outcomes : List (Call × Except Panic Reply)) : List (Call × Reply) :=
  outcomes.filterMap fun
    | (call, .ok reply) => some (call, reply)
    | (_, .error _) => none

namespace AuthLockout

/-- One call through the mutex. -/
def performGuarded (lockout : AuthLockout) (cell : Guarded) (call : Call) :
    Except Panic Reply × Guarded :=
  lockout.withLock cell (fun entries => lockout.perform entries call)

/-- The calls in order, panicking or not: a panic ends its request only. -/
def runGuarded (lockout : AuthLockout) (cell : Guarded) :
    List Call → List (Except Panic Reply) × Guarded
  | [] => ([], cell)
  | call :: rest =>
      let outcome := lockout.performGuarded cell call
      let later := lockout.runGuarded outcome.2 rest
      (outcome.1 :: later.1, later.2)

/-- The calls of a run through the mutex, each with what it came to. -/
def outcomes (lockout : AuthLockout) (cell : Guarded) (calls : List Call) :
    List (Call × Except Panic Reply) :=
  calls.zip (lockout.runGuarded cell calls).1

variable (lockout : AuthLockout)

theorem outcomes_cons (cell : Guarded) (call : Call) (rest : List Call) :
    lockout.outcomes cell (call :: rest) = (call, (lockout.performGuarded cell call).1) ::
      lockout.outcomes (lockout.performGuarded cell call).2 rest := rfl

theorem outcomes_append (cell : Guarded) (xs ys : List Call) :
    lockout.outcomes cell (xs ++ ys) =
      lockout.outcomes cell xs ++ lockout.outcomes (lockout.runGuarded cell xs).2 ys := by
  induction xs generalizing cell with
  | nil => rfl
  | cons call rest ih => rw [List.cons_append, outcomes_cons, ih, outcomes_cons]; rfl

/-- A run without a panic goes through the mutex as it does without one. -/
theorem runGuarded_of_run (calls : List Call) (entries last : Entries)
    (log : List (Call × Reply)) (h : lockout.run entries calls = .ok (log, last)) :
    lockout.runGuarded (.available entries) calls =
      (log.map (fun entry => .ok entry.2), .available last) := by
  induction calls generalizing entries log with
  | nil =>
    cases h
    rfl
  | cons call rest ih =>
    obtain ⟨reply, entries', log', hperform, hrest, rfl⟩ :=
      (run_cons_eq_ok lockout entries last call rest log).mp h
    have hcall : lockout.performGuarded (.available entries) call =
        (.ok reply, .available entries') := by
      simp only [performGuarded, withLock, hperform]
    rw [runGuarded, hcall, ih entries' log' hrest]
    rfl

theorem runGuarded_append (cell : Guarded) (xs ys : List Call) :
    lockout.runGuarded cell (xs ++ ys) =
      ((lockout.runGuarded cell xs).1 ++ (lockout.runGuarded (lockout.runGuarded cell xs).2 ys).1,
        (lockout.runGuarded (lockout.runGuarded cell xs).2 ys).2) := by
  induction xs generalizing cell with
  | nil => rfl
  | cons call rest ih =>
    simp only [List.cons_append, runGuarded, ih]

theorem poisoned_forever (henabled : lockout.isEnabled = true) (calls : List Call) :
    lockout.runGuarded .poisoned calls =
      (List.replicate calls.length (.error .mutexPoisoned), .poisoned) := by
  induction calls with
  | nil => rfl
  | cons call rest ih =>
    have hcall : lockout.performGuarded .poisoned call = (.error .mutexPoisoned, .poisoned) := by
      simp only [performGuarded, withLock, henabled, if_true]
    rw [runGuarded, hcall, ih]
    rfl

/-- Behind a poisoned mutex no call returns. -/
theorem returned_poisoned (henabled : lockout.isEnabled = true) (calls : List Call) :
    returned (lockout.outcomes .poisoned calls) = [] := by
  unfold outcomes
  rw [poisoned_forever lockout henabled calls]
  induction calls with
  | nil => rfl
  | cons call rest ih => exact ih

/-- Only a failure can panic, and only while the lockout is enabled. -/
theorem perform_panics (entries : Entries) (call : Call) (panic : Panic)
    (h : lockout.perform entries call = .error panic) :
    lockout.isEnabled = true ∧ ∃ ip now, call = .failure ip now := by
  cases call with
  | success ip => cases h
  | snapshot now => cases h
  | failure ip now =>
    refine ⟨?_, ip, now, rfl⟩
    by_contra hoff
    have hok : lockout.recordFailureAt entries ip now = .ok (.disabled, entries) := by
      unfold recordFailureAt
      rw [if_pos (by simp [hoff])]
    rw [perform, hok] at h
    cases h

/-- By induction on the calls: a run without a panic up to the first call that
panics, with the mutex poisoned from there on. -/
theorem runGuarded_splits (calls : List Call) (entries : Entries) :
    ∃ done rest log last, calls = done ++ rest ∧ lockout.run entries done = .ok (log, last) ∧
      returned (lockout.outcomes (.available entries) calls) = log ∧
      ((rest = [] ∧ (lockout.runGuarded (.available entries) calls).2 = .available last) ∨
        ((lockout.runGuarded (.available entries) calls).2 = .poisoned ∧
          lockout.isEnabled = true ∧ ∃ ip now tail panic, rest = .failure ip now :: tail ∧
            lockout.perform last (.failure ip now) = .error panic)) := by
  induction calls generalizing entries with
  | nil => exact ⟨[], [], [], entries, rfl, rfl, rfl, Or.inl ⟨rfl, rfl⟩⟩
  | cons call rest ih =>
    cases hperform : lockout.perform entries call with
    | error panic =>
      have hcall : lockout.performGuarded (.available entries) call =
          (.error panic, .poisoned) := by
        simp only [performGuarded, withLock, hperform]
      obtain ⟨henabled, ip, now, rfl⟩ := perform_panics lockout entries call panic hperform
      refine ⟨[], _, [], entries, rfl, rfl, ?_, Or.inr ⟨?_, henabled, ip, now, rest, panic, rfl,
        hperform⟩⟩
      · rw [outcomes_cons, hcall]
        exact returned_poisoned lockout henabled rest
      · rw [runGuarded, hcall, poisoned_forever lockout henabled rest]
    | ok result =>
      obtain ⟨reply, entries'⟩ := result
      have hcall : lockout.performGuarded (.available entries) call =
          (.ok reply, .available entries') := by
        simp only [performGuarded, withLock, hperform]
      obtain ⟨done, later, log, last, rfl, hrun, hreturned, hend⟩ := ih entries'
      refine ⟨call :: done, later, (call, reply) :: log, last, rfl, ?_, ?_, ?_⟩
      · exact (run_cons_eq_ok lockout entries last call done _).mpr
          ⟨reply, entries', log, hperform, hrun, rfl⟩
      · rw [outcomes_cons, hcall, ← hreturned]
        rfl
      · rw [runGuarded, hcall]
        exact hend

/-- A run that leaves the mutex usable had no panic. -/
theorem run_of_available (calls : List Call) (entries last : Entries)
    (replies : List (Except Panic Reply))
    (h : lockout.runGuarded (.available entries) calls = (replies, .available last)) :
    ∃ log, lockout.run entries calls = .ok (log, last) ∧ returned (calls.zip replies) = log := by
  obtain ⟨done, rest, log, last', rfl, hrun, hreturned, hend⟩ :=
    runGuarded_splits lockout calls entries
  unfold outcomes at hreturned
  rw [h] at hreturned hend
  rcases hend with ⟨rfl, hlast⟩ | ⟨hbad, _⟩
  · cases hlast
    rw [List.append_nil] at hreturned ⊢
    exact ⟨log, hrun, hreturned⟩
  · cases hbad

/-! Where every call returns. -/

/-- Every entry has the property. -/
def Every (holds : AuthState → Prop) (entries : Entries) : Prop :=
  ∀ ip state, entries.lookup ip = some state → holds state

/-- A failure counted now leaves an entry with the property. -/
def KeepsAt (holds : AuthState → Prop) (now : Instant) : Prop :=
  ∀ entry result next, (∀ state, entry = some state → holds state) →
    lockout.failEntry (entry.getD (AuthState.new now)) now = .ok (result, next) → holds next

/-- A failure can be counted now for every entry with the property. -/
def ReturnsAt (holds : AuthState → Prop) (now : Instant) : Prop :=
  ∀ entry, (∀ state, entry = some state → holds state) →
    ∃ result next, lockout.failEntry (entry.getD (AuthState.new now)) now = .ok (result, next)

theorem every_empty (holds : AuthState → Prop) : Every holds ∅ := by
  intro ip state hstate
  cases hstate

theorem Every.of_kept {holds : AuthState → Prop} {entries entries' : Entries}
    (h : Every holds entries)
    (hkept : ∀ ip state, entries'.lookup ip = some state → entries.lookup ip = some state) :
    Every holds entries' :=
  fun ip state hstate => h ip state (hkept ip state hstate)

theorem Every.cleanup {holds : AuthState → Prop} {entries : Entries} (h : Every holds entries)
    (now : Instant) (w : Duration) : Every holds (cleanupStaleEntries entries now w) := by
  apply h.of_kept
  intro ip state hstate
  rw [lookup_cleanupStaleEntries, Option.filter_eq_some_iff] at hstate
  exact hstate.1

theorem Every.insert {holds : AuthState → Prop} {entries : Entries} (h : Every holds entries)
    (ip : IpAddr) (next : AuthState) (hnext : holds next) :
    Every holds (entries.insert ip next) := by
  intro other state hstate
  by_cases hother : other = ip
  · rw [hother, AList.lookup_insert, Option.some.injEq] at hstate
    exact hstate ▸ hnext
  · rw [AList.lookup_insert_ne hother] at hstate
    exact h other state hstate

/-- What counting a failure leaves of an entry, every call leaves of the table. -/
theorem perform_every (holds : AuthState → Prop) (entries entries' : Entries) (call : Call)
    (reply : Reply)
    (hkeeps : lockout.isEnabled = true →
      ∀ now, call.instant? = some now → lockout.KeepsAt holds now)
    (hentries : Every holds entries)
    (h : lockout.perform entries call = .ok (reply, entries')) : Every holds entries' := by
  cases call with
  | success ip =>
    cases h
    apply hentries.of_kept
    intro other state hstate
    unfold recordSuccess at hstate
    split at hstate
    · exact hstate
    · by_cases hother : other = ip
      · rw [hother, AList.lookup_erase] at hstate
        cases hstate
      · rwa [AList.lookup_erase_ne hother] at hstate
  | snapshot now =>
    cases h
    unfold snapshotAt
    split
    · exact hentries
    · exact hentries.cleanup now _
  | failure ip now =>
    obtain ⟨result, _, hrecord⟩ := perform_failure_eq_ok lockout entries entries' ip now reply h
    rcases recordFailureAt_cases lockout entries entries' ip now result hrecord with
      ⟨_, _, rfl⟩ | ⟨_, _, _, _, rfl⟩ | ⟨henabled, _, base, next, hbase, hfail, rfl⟩
    · exact hentries
    · exact hentries.cleanup now _
    · have hnext : holds next :=
        hkeeps henabled now rfl (entries.lookup ip) result next (hentries ip) hfail
      rcases hbase with rfl | ⟨_, rfl⟩
      · exact hentries.insert ip next hnext
      · exact (hentries.cleanup now _).insert ip next hnext

theorem recordEntry_returns (entries : Entries) (ip : IpAddr) (now : Instant)
    (hfail : ∃ result next,
      lockout.failEntry ((entries.lookup ip).getD (AuthState.new now)) now = .ok (result, next)) :
    ∃ result entries', lockout.recordEntry entries ip now = .ok (result, entries') := by
  obtain ⟨result, next, hfail⟩ := hfail
  refine ⟨result, entries.insert ip next, ?_⟩
  unfold recordEntry
  rw [hfail]

/-- A failure is recorded where its entry can be counted. -/
theorem recordFailureAt_returns (entries : Entries) (ip : IpAddr) (now : Instant)
    (hfail : lockout.isEnabled = true → ∃ result next,
      lockout.failEntry ((entries.lookup ip).getD (AuthState.new now)) now = .ok (result, next)) :
    ∃ result entries', lockout.recordFailureAt entries ip now = .ok (result, entries') := by
  unfold recordFailureAt
  by_cases henabled : lockout.isEnabled = true
  · rw [if_neg (by simp [henabled])]
    by_cases hfull : lockout.maxEntries.val ≤ entries.len ∧ ip ∉ entries
    · have hnone : entries.lookup ip = none := AList.lookup_eq_none.mpr hfull.2
      rw [if_pos hfull]
      dsimp only
      split
      · exact ⟨_, _, rfl⟩
      · apply recordEntry_returns
        rw [lookup_cleanupStaleEntries, hnone]
        have hnew := hfail henabled
        rwa [hnone] at hnew
    · rw [if_neg hfull]
      exact recordEntry_returns lockout entries ip now (hfail henabled)
  · rw [if_pos (by simp [henabled])]
    exact ⟨_, _, rfl⟩

theorem perform_returns_of (holds : AuthState → Prop) (entries : Entries) (call : Call)
    (hreturns : lockout.isEnabled = true →
      ∀ now, call.instant? = some now → lockout.ReturnsAt holds now)
    (hentries : Every holds entries) :
    ∃ reply entries', lockout.perform entries call = .ok (reply, entries') := by
  cases call with
  | success ip => exact ⟨_, _, rfl⟩
  | snapshot now => exact ⟨_, _, rfl⟩
  | failure ip now =>
    obtain ⟨result, entries', hrecord⟩ := recordFailureAt_returns lockout entries ip now
      (fun henabled => hreturns henabled now rfl (entries.lookup ip) (hentries ip))
    refine ⟨.failure result, entries', ?_⟩
    rw [perform, hrecord]
    rfl

/-- By induction on the calls: where failures can be counted and leave entries
that can be counted again, no call panics. -/
theorem run_returns_of (holds : AuthState → Prop) (calls : List Call) (entries : Entries)
    (hcounts : lockout.isEnabled = true → ∀ now ∈ calls.filterMap Call.instant?,
      lockout.ReturnsAt holds now ∧ lockout.KeepsAt holds now)
    (hentries : Every holds entries) :
    ∃ log last, lockout.run entries calls = .ok (log, last) := by
  induction calls generalizing entries with
  | nil => exact ⟨[], entries, rfl⟩
  | cons call rest ih =>
    have hcall : lockout.isEnabled = true → ∀ now, call.instant? = some now →
        lockout.ReturnsAt holds now ∧ lockout.KeepsAt holds now := by
      intro henabled now hnow
      exact hcounts henabled now (List.mem_filterMap.mpr ⟨call, List.mem_cons_self, hnow⟩)
    have hrest : lockout.isEnabled = true → ∀ now ∈ rest.filterMap Call.instant?,
        lockout.ReturnsAt holds now ∧ lockout.KeepsAt holds now := by
      intro henabled now hnow
      obtain ⟨later, hlater, heq⟩ := List.mem_filterMap.mp hnow
      exact hcounts henabled now
        (List.mem_filterMap.mpr ⟨later, List.mem_cons_of_mem _ hlater, heq⟩)
    obtain ⟨reply, entries', hperform⟩ := perform_returns_of lockout holds entries call
      (fun henabled now hnow => (hcall henabled now hnow).1) hentries
    have hnext := perform_every lockout holds entries entries' call reply
      (fun henabled now hnow => (hcall henabled now hnow).2) hentries hperform
    obtain ⟨log, last, hrun⟩ := ih entries' hrest hnext
    exact ⟨_, last, (run_cons_eq_ok lockout _ _ _ _ _).mpr
      ⟨reply, entries', log, hperform, hrun, rfl⟩⟩

/-- An unlocked entry can count one more failure. -/
def CanCount (state : AuthState) : Prop :=
  state.lockedUntil = none → state.failures < lockout.maxFailures

/-- Every unlocked entry can count one more failure. -/
def Countable (entries : Entries) : Prop := Every lockout.CanCount entries

/-- The end of a lock taken now is an instant. -/
def LockEnds (now : Instant) : Prop :=
  now.nanos + lockout.lockoutDuration.nanos < 2 ^ 63 * 10 ^ 9

theorem checkedAdd_of_lockEnds (now : Instant) (h : lockout.LockEnds now) :
    ∃ expiry, now.checkedAdd lockout.lockoutDuration = some expiry :=
  ⟨_, dif_pos h⟩

theorem tallyFailure_returns (state : AuthState) (now : Instant) (hends : lockout.LockEnds now)
    (hbelow : state.failures < lockout.maxFailures) :
    ∃ result next, lockout.tallyFailure state now = .ok (result, next) := by
  have hmax := Usize.le_max lockout.maxFailures
  rw [Fin.lt_def] at hbelow
  have hroom : state.failures.val + 1 < 2 ^ 64 := by
    unfold usizeMax at hmax
    omega
  obtain ⟨expiry, hexpiry⟩ := checkedAdd_of_lockEnds lockout now hends
  unfold tallyFailure addFailure
  rw [dif_pos hroom]
  dsimp only
  rw [hexpiry]
  split_ifs
  · exact ⟨_, _, rfl⟩
  · exact ⟨_, _, rfl⟩

theorem tallyFailure_canCount (state next : AuthState) (now : Instant) (result : AuthFailure)
    (h : lockout.tallyFailure state now = .ok (result, next)) : lockout.CanCount next := by
  intro hfree
  rcases (tallyFailure_cases lockout state next now result h).2.2.2 with
    ⟨_, hbelow, _⟩ | ⟨_, _, expiry, _, hlocked⟩
  · exact hbelow
  · rw [hlocked] at hfree
    cases hfree

theorem keepsAt_canCount (now : Instant) : lockout.KeepsAt lockout.CanCount now := by
  intro entry result next hentry h
  cases entry with
  | none =>
    rw [Option.getD_none, failEntry_new] at h
    exact tallyFailure_canCount lockout _ next now result h
  | some state =>
    rw [Option.getD_some] at h
    rcases failEntry_cases lockout state now with ⟨_, _, _, heq⟩ | ⟨_, heq⟩ | ⟨_, _, heq⟩
    · rw [heq] at h
      cases h
      exact hentry next rfl
    · exact tallyFailure_canCount lockout _ next now result (heq ▸ h)
    · exact tallyFailure_canCount lockout _ next now result (heq ▸ h)

theorem returnsAt_canCount (now : Instant) (henabled : lockout.isEnabled = true)
    (hends : lockout.LockEnds now) : lockout.ReturnsAt lockout.CanCount now := by
  have hpos : 0 < lockout.maxFailures := of_decide_eq_true henabled
  intro entry hentry
  cases entry with
  | none =>
    rw [Option.getD_none, failEntry_new]
    exact tallyFailure_returns lockout _ now hends hpos
  | some state =>
    rw [Option.getD_some]
    rcases failEntry_cases lockout state now with ⟨_, _, _, heq⟩ | ⟨_, heq⟩ | ⟨hfree, _, heq⟩
    · exact ⟨_, _, heq⟩
    · rw [heq]
      exact tallyFailure_returns lockout _ now hends hpos
    · rw [heq]
      exact tallyFailure_returns lockout _ now hends (hentry state rfl hfree)

/-- One call on a countable table returns and leaves a countable table. -/
theorem perform_returns (entries : Entries) (call : Call)
    (hends : lockout.isEnabled = true → ∀ now, call.instant? = some now → lockout.LockEnds now)
    (h : lockout.Countable entries) :
    ∃ reply entries', lockout.perform entries call = .ok (reply, entries') ∧
      lockout.Countable entries' := by
  obtain ⟨reply, entries', hperform⟩ := perform_returns_of lockout lockout.CanCount entries call
    (fun henabled now hnow => returnsAt_canCount lockout now henabled (hends henabled now hnow)) h
  exact ⟨reply, entries', hperform, perform_every lockout lockout.CanCount entries entries' call
    reply (fun _ now _ => keepsAt_canCount lockout now) h hperform⟩

/-- While every lock ends inside the clock's range, no call panics. -/
theorem run_returns (calls : List Call) (entries : Entries)
    (hends : lockout.isEnabled = true →
      ∀ now ∈ calls.filterMap Call.instant?, lockout.LockEnds now)
    (h : lockout.Countable entries) :
    ∃ log last, lockout.run entries calls = .ok (log, last) :=
  run_returns_of lockout lockout.CanCount calls entries
    (fun henabled now hnow => ⟨returnsAt_canCount lockout now henabled (hends henabled now hnow),
      keepsAt_canCount lockout now⟩) h

/-- No failure takes a lock: the lockout is disabled, or each failure restarts
its window before a second one is counted in it. -/
def NeverLocks : Prop :=
  lockout.maxFailures.val = 0 ∨
    lockout.failureWindow.nanos = 0 ∧ 2 ≤ lockout.maxFailures.val

theorem tallyFailure_new_tracked (now : Instant) (hmax : 2 ≤ lockout.maxFailures.val) :
    ∃ next, lockout.tallyFailure (AuthState.new now) now = .ok (.tracked, next) ∧
      next.lockedUntil = none := by
  obtain ⟨one, hone⟩ : ∃ one : Usize, one.val = 1 := ⟨⟨1, by omega⟩, rfl⟩
  have hadd : addFailure (AuthState.new now).failures = some one :=
    (addFailure_eq_some _ one).mpr hone
  have hbelow : ¬lockout.maxFailures ≤ one := by
    rw [Fin.le_def]
    omega
  refine ⟨{ AuthState.new now with failures := one, lastSeenAt := now }, ?_, rfl⟩
  unfold tallyFailure
  rw [hadd]
  dsimp only
  rw [if_neg hbelow]

/-- Where no window lasts, a failure starts its entry anew. -/
theorem failEntry_windowless (entry : Option AuthState) (now : Instant)
    (hwindow : lockout.failureWindow.nanos = 0)
    (hfree : ∀ state, entry = some state → state.lockedUntil = none) :
    lockout.failEntry (entry.getD (AuthState.new now)) now =
      lockout.tallyFailure (AuthState.new now) now := by
  cases entry with
  | none => exact failEntry_new lockout now
  | some state =>
    rcases failEntry_cases lockout state now with ⟨_, hlocked, _⟩ | ⟨_, heq⟩ | ⟨_, hinside, _⟩
    · rw [hfree state rfl] at hlocked
      cases hlocked
    · exact heq
    · rw [Instant.le_durationSince] at hinside
      omega

theorem run_returns_neverLocks (calls : List Call) (h : lockout.NeverLocks) :
    ∃ log last, lockout.run ∅ calls = .ok (log, last) := by
  apply run_returns_of lockout (fun state => state.lockedUntil = none) calls ∅ _ (every_empty _)
  intro henabled now _
  have hpos : 0 < lockout.maxFailures.val := of_decide_eq_true henabled
  rcases h with hoff | ⟨hwindow, hmax⟩
  · omega
  · obtain ⟨fresh, htally, hfresh⟩ := tallyFailure_new_tracked lockout now hmax
    constructor
    · intro entry hentry
      rw [failEntry_windowless lockout entry now hwindow hentry]
      exact ⟨_, fresh, htally⟩
    · intro entry result next hentry hfail
      rw [failEntry_windowless lockout entry now hwindow hentry, htally] at hfail
      cases hfail
      exact hfresh

/-! Where the threshold overflows. -/

/-- The record of an address after failures at one instant. -/
def countedAt (now : Instant) (failures : Usize) : AuthState := ⟨failures, now, now, none⟩

theorem failEntry_countedAt (now : Instant) (failures : Usize)
    (hwindow : 0 < failures.val → 0 < lockout.failureWindow.nanos) :
    lockout.failEntry (countedAt now failures) now =
      lockout.tallyFailure (countedAt now failures) now := by
  by_cases hfresh : failures.val = 0
  · obtain rfl : failures = 0 := Fin.ext hfresh
    exact failEntry_new lockout now
  · have hlasts := hwindow (Nat.pos_of_ne_zero hfresh)
    have hinside : ¬ lockout.failureWindow ≤ now.durationSince now := by
      rw [Instant.le_durationSince]
      omega
    unfold failEntry countFailure countedAt
    dsimp only
    rw [if_neg hinside]

/-- Room for the address, so that its failures are recorded. -/
def HasRoom (entries : Entries) (ip : IpAddr) : Prop :=
  entries.len < lockout.maxEntries.val ∨ ip ∈ entries

theorem recordFailureAt_hasRoom (entries : Entries) (ip : IpAddr) (now : Instant)
    (henabled : lockout.isEnabled = true) (hroom : lockout.HasRoom entries ip) :
    lockout.recordFailureAt entries ip now = lockout.recordEntry entries ip now := by
  have hfits : ¬ (lockout.maxEntries.val ≤ entries.len ∧ ip ∉ entries) := by
    rintro ⟨hfull, hnew⟩
    rcases hroom with hlen | hold
    · omega
    · exact hnew hold
  unfold recordFailureAt
  rw [if_neg (by simp [henabled]), if_neg hfits]

/-- A failure at the same instant that stays below the maximum. -/
theorem recordFailureAt_countedAt (entries : Entries) (ip : IpAddr) (now : Instant)
    (failures next : Usize) (henabled : lockout.isEnabled = true)
    (hwindow : 0 < failures.val → 0 < lockout.failureWindow.nanos)
    (hroom : lockout.HasRoom entries ip)
    (hown : (entries.lookup ip).getD (AuthState.new now) = countedAt now failures)
    (hnext : next.val = failures.val + 1) (hbelow : next < lockout.maxFailures) :
    lockout.recordFailureAt entries ip now =
      .ok (.tracked, entries.insert ip (countedAt now next)) := by
  have hadd : addFailure failures = some next := (addFailure_eq_some failures next).mpr hnext
  have htally : lockout.tallyFailure (countedAt now failures) now =
      .ok (.tracked, countedAt now next) := by
    unfold tallyFailure countedAt
    dsimp only
    rw [hadd]
    dsimp only
    rw [if_neg (not_le.mpr hbelow)]
  rw [recordFailureAt_hasRoom lockout entries ip now henabled hroom, recordEntry, hown,
    failEntry_countedAt lockout now failures hwindow, htally]

/-- The failure that reaches the maximum panics when its lock would end outside
the clock's range. -/
theorem recordFailureAt_overflows (entries : Entries) (ip : IpAddr) (now : Instant)
    (failures : Usize) (henabled : lockout.isEnabled = true)
    (hwindow : 0 < failures.val → 0 < lockout.failureWindow.nanos)
    (hroom : lockout.HasRoom entries ip)
    (hown : (entries.lookup ip).getD (AuthState.new now) = countedAt now failures)
    (hmax : lockout.maxFailures.val = failures.val + 1) (hends : ¬ lockout.LockEnds now) :
    lockout.recordFailureAt entries ip now = .error .instantOverflow := by
  have hadd : addFailure failures = some lockout.maxFailures :=
    (addFailure_eq_some failures lockout.maxFailures).mpr hmax
  have hoverflow : now.checkedAdd lockout.lockoutDuration = none := dif_neg hends
  have htally : lockout.tallyFailure (countedAt now failures) now = .error .instantOverflow := by
    unfold tallyFailure countedAt
    dsimp only
    rw [hadd]
    dsimp only
    rw [if_pos (le_refl _), hoverflow]
  rw [recordFailureAt_hasRoom lockout entries ip now henabled hroom, recordEntry, hown,
    failEntry_countedAt lockout now failures hwindow, htally]

/-- Failures at one instant are counted one by one below the maximum. -/
theorem run_countedAt (ip : IpAddr) (now : Instant) (henabled : lockout.isEnabled = true)
    (hwindow : 1 < lockout.maxFailures.val → 0 < lockout.failureWindow.nanos)
    (hentries : 0 < lockout.maxEntries.val) (n : ℕ) (hn : n < lockout.maxFailures.val) :
    ∃ outcomes entries failures,
      lockout.runGuarded (.available ∅) (List.replicate n (.failure ip now)) =
        (outcomes, .available entries) ∧
      failures.val = n ∧ lockout.HasRoom entries ip ∧
      (entries.lookup ip).getD (AuthState.new now) = countedAt now failures := by
  induction n with
  | zero => exact ⟨[], ∅, 0, rfl, rfl, Or.inl hentries, rfl⟩
  | succ n ih =>
    obtain ⟨outcomes, entries, failures, hrun, hval, hroom, hown⟩ := ih (by omega)
    have hlt := lockout.maxFailures.isLt
    obtain ⟨next, hnext⟩ : ∃ next : Usize, next.val = n + 1 := ⟨⟨n + 1, by omega⟩, rfl⟩
    have hrecord := recordFailureAt_countedAt lockout entries ip now failures next henabled
      (fun _ => hwindow (by omega)) hroom hown (by omega) (by rw [Fin.lt_def]; omega)
    refine ⟨outcomes ++ [.ok (.failure .tracked)], entries.insert ip (countedAt now next), next,
      ?_, hnext, Or.inr ((AList.mem_insert entries).mpr (Or.inl rfl)), ?_⟩
    · rw [List.replicate_succ', runGuarded_append, hrun]
      simp only [runGuarded, performGuarded, withLock, perform, hrecord, Except.map]
    · rw [AList.lookup_insert]
      rfl

/-- Reaching the maximum with a lock that would end outside the clock's range
leaves the mutex poisoned. -/
theorem threshold_poisons (ip : IpAddr) (now : Instant) (henabled : lockout.isEnabled = true)
    (hwindow : 1 < lockout.maxFailures.val → 0 < lockout.failureWindow.nanos)
    (hentries : 0 < lockout.maxEntries.val) (hends : ¬ lockout.LockEnds now) :
    ∃ outcomes,
      lockout.runGuarded (.available ∅)
          (List.replicate lockout.maxFailures.val (.failure ip now)) =
        (outcomes ++ [.error .instantOverflow], .poisoned) := by
  have hpos : 0 < lockout.maxFailures := of_decide_eq_true henabled
  rw [Fin.lt_def] at hpos
  obtain ⟨n, hn⟩ : ∃ n, lockout.maxFailures.val = n + 1 :=
    Nat.exists_eq_add_one_of_ne_zero (Nat.ne_of_gt hpos)
  obtain ⟨outcomes, entries, failures, hrun, hval, hroom, hown⟩ :=
    run_countedAt lockout ip now henabled hwindow hentries n (by omega)
  have hrecord := recordFailureAt_overflows lockout entries ip now failures henabled
    (fun _ => hwindow (by omega)) hroom hown (by omega) hends
  refine ⟨outcomes, ?_⟩
  rw [hn, List.replicate_succ', runGuarded_append, hrun]
  simp only [runGuarded, performGuarded, withLock, perform, hrecord, Except.map]

end AuthLockout

end RedisBridge.Lockout
