import RedisBridge.AuthGuarantees

/-!
Nobody is locked out for nothing. A history of calls through the mutex, with
their answers, accounts for every lock in the table: the failures that an entry
counts stand in the history one by one, within one window and with no success
between them, and a lock stands there with the failure that took it. So a
failure is answered as locked only where the history holds what locks, however
concurrent requests interleave.
-/
namespace RedisBridge.Lockout

open AssocTables Instants IpAddress

/-- The calls through the mutex with what they were answered. -/
abbrev History := List (Call × Except Panic Reply)

namespace History

/-- What a failure of the address was answered. -/
def answered (ip : IpAddr) : Call × Except Panic Reply → Option (Instant × AuthFailure)
  | (.failure ip' now, .ok (.failure result)) => if ip' = ip then some (now, result) else none
  | _ => none

/-- The history ends in exactly these failures of the address, with no success. -/
def Counted (ip : IpAddr) (history : History) (counted : List Instant) : Prop :=
  ∃ before window, history = before ++ window ∧
    (∀ entry ∈ window, entry.1 ≠ .success ip) ∧
    window.filterMap (answered ip) = counted.map (fun now => (now, .tracked))

/-- The address was locked at an instant, and has only met its lock since. -/
def LockedSince (ip : IpAddr) (history : History) (since : Instant) : Prop :=
  ∃ before window, history = before ++ (.failure ip since, .ok (.failure .locked)) :: window ∧
    (∀ entry ∈ window, entry.1 ≠ .success ip) ∧
    ∀ answer ∈ window.filterMap (answered ip), answer.2 = .alreadyLocked

/-- The instants lie less than a window after the first of them. -/
def Spans (w : Duration) : List Instant → Prop
  | [] => True
  | first :: rest => ∀ now ∈ rest, now.nanos - first.nanos < w.nanos

theorem Spans.concat (w : Duration) (counted : List Instant) (first now : Instant)
    (hfirst : counted.head? = some first) (h : Spans w counted)
    (hnow : now.nanos - first.nanos < w.nanos) : Spans w (counted ++ [now]) := by
  cases counted with
  | nil => cases hfirst
  | cons head rest =>
    cases hfirst
    intro later hlater
    rcases List.mem_append.mp hlater with hold | hnew
    · exact h later hold
    · obtain rfl := List.mem_singleton.mp hnew
      exact hnow

variable {ip : IpAddr} {history : History}

theorem counted_nil : Counted ip history [] :=
  ⟨history, [], (List.append_nil history).symm, fun _ hmem => absurd hmem List.not_mem_nil, rfl⟩

theorem Counted.other {counted : List Instant} (h : Counted ip history counted)
    (entry : Call × Except Panic Reply) (hsuccess : entry.1 ≠ .success ip)
    (hother : answered ip entry = none) : Counted ip (history ++ [entry]) counted := by
  obtain ⟨before, window, rfl, hclear, hanswers⟩ := h
  refine ⟨before, window ++ [entry], List.append_assoc _ _ _, ?_, ?_⟩
  · intro other hmem
    rcases List.mem_append.mp hmem with hold | hnew
    · exact hclear other hold
    · obtain rfl := List.mem_singleton.mp hnew
      exact hsuccess
  · rw [List.filterMap_append, hanswers]
    simp [hother]

/-- One more failure is counted. -/
theorem Counted.tracked {counted : List Instant} (h : Counted ip history counted)
    (now : Instant) :
    Counted ip (history ++ [(.failure ip now, .ok (.failure .tracked))]) (counted ++ [now]) := by
  obtain ⟨before, window, rfl, hclear, hanswers⟩ := h
  refine ⟨before, window ++ [(.failure ip now, .ok (.failure .tracked))],
    List.append_assoc _ _ _, ?_, ?_⟩
  · intro other hmem
    rcases List.mem_append.mp hmem with hold | hnew
    · exact hclear other hold
    · obtain rfl := List.mem_singleton.mp hnew
      intro heq
      cases heq
  · rw [List.filterMap_append, hanswers, List.map_append]
    simp [answered]

theorem lockedSince_locked (now : Instant) :
    LockedSince ip (history ++ [(.failure ip now, .ok (.failure .locked))]) now :=
  ⟨history, [], rfl, fun _ hmem => absurd hmem List.not_mem_nil,
    fun _ hmem => absurd hmem List.not_mem_nil⟩

/-- A lock is met again, or another call is made. -/
theorem LockedSince.concat {since : Instant} (h : LockedSince ip history since)
    (entry : Call × Except Panic Reply) (hsuccess : entry.1 ≠ .success ip)
    (hother : ∀ answer, answered ip entry = some answer → answer.2 = .alreadyLocked) :
    LockedSince ip (history ++ [entry]) since := by
  obtain ⟨before, window, rfl, hclear, hanswers⟩ := h
  refine ⟨before, window ++ [entry], ?_, ?_, ?_⟩
  · rw [List.append_assoc, List.cons_append]
  · intro other hmem
    rcases List.mem_append.mp hmem with hold | hnew
    · exact hclear other hold
    · obtain rfl := List.mem_singleton.mp hnew
      exact hsuccess
  · intro answer hmem
    rw [List.filterMap_append, List.mem_append] at hmem
    rcases hmem with hold | hnew
    · exact hanswers answer hold
    · obtain ⟨other, hother', hanswer⟩ := List.mem_filterMap.mp hnew
      obtain rfl := List.mem_singleton.mp hother'
      exact hother answer hanswer

end History

namespace AuthLockout

open History

variable (lockout : AuthLockout)

/-- What a history must hold for a failure to be answered as locked. -/
def Justified (history : History) : Call × Except Panic Reply → Prop
  | (.failure ip now, .ok (.failure .locked)) =>
      ∃ counted, Counted ip history counted ∧ counted.length + 1 = lockout.maxFailures.val ∧
        Spans lockout.failureWindow (counted ++ [now])
  | (.failure ip now, .ok (.failure .alreadyLocked)) =>
      ∃ since, LockedSince ip history since ∧
        now.nanos < since.nanos + lockout.lockoutDuration.nanos
  | _ => True

/-- What the history holds for an entry. -/
structure Backed (history : History) (ip : IpAddr) (state : AuthState) : Prop where
  enabled : lockout.isEnabled = true
  counting : state.lockedUntil = none → state.failures.val < lockout.maxFailures.val ∧
    ∃ counted, Counted ip history counted ∧ counted.length = state.failures.val ∧
      counted.head? = some state.windowStartedAt ∧ Spans lockout.failureWindow counted
  locked : ∀ expiry, state.lockedUntil = some expiry → ∃ since, LockedSince ip history since ∧
    expiry.nanos = since.nanos + lockout.lockoutDuration.nanos

/-- The history accounts for its own answers and for the table that it left. -/
structure Accounts (history : History) (cell : Guarded) : Prop where
  answers : ∀ earlier entry later, history = earlier ++ entry :: later →
    lockout.Justified earlier entry
  entries : ∀ entries, cell = .available entries → ∀ ip state,
    entries.lookup ip = some state → lockout.Backed history ip state

variable {lockout}

/-- A call that is not the address's own leaves its entry backed. -/
theorem Backed.other {history : History} {ip : IpAddr} {state : AuthState}
    (h : lockout.Backed history ip state) (entry : Call × Except Panic Reply)
    (hsuccess : entry.1 ≠ .success ip) (hother : answered ip entry = none) :
    lockout.Backed (history ++ [entry]) ip state := by
  refine ⟨h.enabled, ?_, ?_⟩
  · intro hfree
    obtain ⟨hbelow, counted, hcounted, hrest⟩ := h.counting hfree
    exact ⟨hbelow, counted, hcounted.other entry hsuccess hother, hrest⟩
  · intro expiry hexpiry
    obtain ⟨since, hsince, hends⟩ := h.locked expiry hexpiry
    refine ⟨since, hsince.concat entry hsuccess ?_, hends⟩
    intro answer hanswer
    rw [hother] at hanswer
    cases hanswer

/-- Counting a failure after those that the history holds. -/
theorem tallyFailure_backed (history : History) (ip : IpAddr) (state next : AuthState)
    (now : Instant) (result : AuthFailure) (counted : List Instant)
    (henabled : lockout.isEnabled = true) (hfree : state.lockedUntil = none)
    (hbelow : state.failures.val < lockout.maxFailures.val)
    (hcounted : Counted ip history counted) (hlength : counted.length = state.failures.val)
    (hspans : Spans lockout.failureWindow (counted ++ [now]))
    (hfirst : (counted ++ [now]).head? = some state.windowStartedAt)
    (h : lockout.tallyFailure state now = .ok (result, next)) :
    lockout.Justified history (.failure ip now, .ok (.failure result)) ∧
      lockout.Backed (history ++ [(.failure ip now, .ok (.failure result))]) ip next := by
  obtain ⟨hfailures, hseen, hwindow, hcases⟩ :=
    lockout.tallyFailure_cases state next now result h
  rcases hcases with ⟨rfl, hless, hlocked⟩ | ⟨rfl, hmax, expiry, hadd, hlocked⟩
  · rw [Fin.lt_def] at hless
    refine ⟨trivial, henabled, ?_, ?_⟩
    · intro _
      refine ⟨hless, counted ++ [now], hcounted.tracked now, ?_, ?_, hspans⟩
      · rw [List.length_append, List.length_singleton, hlength, hfailures]
      · rw [hfirst, hwindow]
    · intro expiry hexpiry
      rw [hlocked, hfree] at hexpiry
      cases hexpiry
  · rw [Fin.le_def] at hmax
    refine ⟨⟨counted, hcounted, by omega, hspans⟩, henabled, ?_, ?_⟩
    · intro hnone
      rw [hlocked] at hnone
      cases hnone
    · intro expiry' hexpiry
      rw [hlocked] at hexpiry
      cases hexpiry
      exact ⟨now, lockedSince_locked now, (Instant.checkedAdd_eq_some now expiry _).mp hadd⟩

/-- The first failure of a window. -/
theorem tallyFailure_new_backed (history : History) (ip : IpAddr) (next : AuthState)
    (now : Instant) (result : AuthFailure) (henabled : lockout.isEnabled = true)
    (h : lockout.tallyFailure (AuthState.new now) now = .ok (result, next)) :
    lockout.Justified history (.failure ip now, .ok (.failure result)) ∧
      lockout.Backed (history ++ [(.failure ip now, .ok (.failure result))]) ip next := by
  have hpositive : 0 < lockout.maxFailures.val := by
    unfold isEnabled at henabled
    exact of_decide_eq_true henabled
  exact tallyFailure_backed history ip (AuthState.new now) next now result [] henabled rfl
    hpositive counted_nil rfl (fun _ hlater => absurd hlater List.not_mem_nil) rfl h

/-- A failure on an entry that the history backs is justified, and leaves one. -/
theorem failEntry_backed (history : History) (ip : IpAddr) (entry : Option AuthState)
    (next : AuthState) (now : Instant) (result : AuthFailure)
    (henabled : lockout.isEnabled = true)
    (hentry : ∀ state, entry = some state → lockout.Backed history ip state)
    (h : lockout.failEntry (entry.getD (AuthState.new now)) now = .ok (result, next)) :
    lockout.Justified history (.failure ip now, .ok (.failure result)) ∧
      lockout.Backed (history ++ [(.failure ip now, .ok (.failure result))]) ip next := by
  cases entry with
  | none =>
    rw [Option.getD_none, failEntry_new] at h
    exact tallyFailure_new_backed history ip next now result henabled h
  | some state =>
    have hstate := hentry state rfl
    rw [Option.getD_some] at h
    rcases lockout.failEntry_cases state now with
      ⟨expiry, hexpiry, hbefore, heq⟩ | ⟨_, heq⟩ | ⟨hfree, hopen, heq⟩
    · rw [heq] at h
      cases h
      obtain ⟨since, hsince, hends⟩ := hstate.locked expiry hexpiry
      rw [Instant.lt_iff, hends] at hbefore
      refine ⟨⟨since, hsince, hbefore⟩, henabled, ?_, ?_⟩
      · intro hfree
        rw [hexpiry] at hfree
        cases hfree
      · intro expiry' hexpiry'
        rw [hexpiry] at hexpiry'
        cases hexpiry'
        refine ⟨since, hsince.concat _ (fun heq => by cases heq) ?_, hends⟩
        intro answer hanswer
        simp only [answered, if_true, Option.some.injEq] at hanswer
        rw [← hanswer]
    · rw [heq] at h
      exact tallyFailure_new_backed history ip next now result henabled h
    · rw [heq] at h
      obtain ⟨hbelow, counted, hcounted, hlength, hfirst, hspans⟩ := hstate.counting hfree
      rw [Instant.le_durationSince] at hopen
      apply tallyFailure_backed history ip state next now result counted henabled hfree hbelow
        hcounted hlength _ _ h
      · exact hspans.concat _ counted state.windowStartedAt now hfirst (by omega)
      · rw [List.head?_append, hfirst]
        rfl

/-- What is left of a backed table is backed, as no call of its own is added. -/
theorem backed_kept {history : History} {entries entries' : Entries}
    (h : ∀ ip state, entries.lookup ip = some state → lockout.Backed history ip state)
    (entry : Call × Except Panic Reply)
    (hkept : ∀ ip state, entries'.lookup ip = some state → entries.lookup ip = some state ∧
      entry.1 ≠ .success ip ∧ answered ip entry = none) :
    ∀ ip state, entries'.lookup ip = some state → lockout.Backed (history ++ [entry]) ip state := by
  intro ip state hlook
  obtain ⟨hbefore, hsuccess, hother⟩ := hkept ip state hlook
  exact (h ip state hbefore).other entry hsuccess hother

theorem answered_failure_other (ip other : IpAddr) (now : Instant)
    (answer : Except Panic Reply) (hne : other ≠ ip) :
    answered other (.failure ip now, answer) = none := by
  unfold answered
  split
  · rename_i heq
    cases heq
    exact if_neg (fun heq => hne heq.symm)
  · rfl

theorem lookup_of_cleanup (entries : Entries) (now : Instant) (w : Duration) (ip : IpAddr)
    (state : AuthState) (h : (cleanupStaleEntries entries now w).lookup ip = some state) :
    entries.lookup ip = some state := by
  rw [lookup_cleanupStaleEntries, Option.filter_eq_some_iff] at h
  exact h.1

theorem recordFailureAt_backed (history : History) (entries entries' : Entries) (ip : IpAddr)
    (now : Instant) (result : AuthFailure)
    (hentries : ∀ ip state, entries.lookup ip = some state → lockout.Backed history ip state)
    (h : lockout.recordFailureAt entries ip now = .ok (result, entries')) :
    lockout.Justified history (.failure ip now, .ok (.failure result)) ∧
      ∀ other state, entries'.lookup other = some state →
        lockout.Backed (history ++ [(.failure ip now, .ok (.failure result))]) other state := by
  have hother (other : IpAddr) (hne : other ≠ ip) :
      answered other (.failure ip now, .ok (.failure result)) = none :=
    answered_failure_other ip other now _ hne
  have hsuccess (other : IpAddr) : Call.failure ip now ≠ .success other := by
    intro heq
    cases heq
  rcases lockout.recordFailureAt_cases entries entries' ip now result h with
    ⟨hoff, rfl, rfl⟩ | ⟨_, rfl, hnone, _, rfl⟩ | ⟨henabled, _, base, next, hbase, hfail, rfl⟩
  · refine ⟨trivial, ?_⟩
    intro other state hlook
    have hon := (hentries other state hlook).enabled
    rw [hoff] at hon
    cases hon
  · refine ⟨trivial, backed_kept hentries _ ?_⟩
    intro other state hlook
    have hbefore := lookup_of_cleanup entries now _ other state hlook
    refine ⟨hbefore, hsuccess other, hother other ?_⟩
    rintro rfl
    rw [hnone] at hbefore
    cases hbefore
  · obtain ⟨hjustified, hbacked⟩ := failEntry_backed history ip (entries.lookup ip) next now
      result henabled (hentries ip) hfail
    refine ⟨hjustified, ?_⟩
    intro other state hlook
    by_cases heq : other = ip
    · subst heq
      rw [AList.lookup_insert, Option.some.injEq] at hlook
      subst hlook
      exact hbacked
    · rw [AList.lookup_insert_ne heq] at hlook
      have hbefore : entries.lookup other = some state := by
        rcases hbase with rfl | ⟨_, rfl⟩
        · exact hlook
        · exact lookup_of_cleanup entries now _ other state hlook
      exact (hentries other state hbefore).other _ (hsuccess other) (hother other heq)

/-- A call that returns is justified, and leaves a backed table. -/
theorem perform_backed (history : History) (entries entries' : Entries) (call : Call)
    (reply : Reply)
    (hentries : ∀ ip state, entries.lookup ip = some state → lockout.Backed history ip state)
    (h : lockout.perform entries call = .ok (reply, entries')) :
    lockout.Justified history (call, .ok reply) ∧
      ∀ other state, entries'.lookup other = some state →
        lockout.Backed (history ++ [(call, .ok reply)]) other state := by
  cases call with
  | failure ip now =>
    obtain ⟨result, rfl, hrecord⟩ := lockout.perform_failure_eq_ok entries entries' ip now reply h
    exact recordFailureAt_backed history entries entries' ip now result hentries hrecord
  | success ip =>
    cases h
    refine ⟨trivial, backed_kept hentries _ ?_⟩
    intro other state hlook
    by_cases heq : other = ip
    · subst heq
      unfold recordSuccess at hlook
      split at hlook
      · rename_i hoff
        rw [(hentries other state hlook).enabled] at hoff
        cases hoff
      · rw [AList.lookup_erase] at hlook
        cases hlook
    · rw [lockout.recordSuccess_other entries ip other heq] at hlook
      refine ⟨hlook, ?_, rfl⟩
      intro hsame
      cases hsame
      exact heq rfl
  | snapshot now =>
    cases h
    refine ⟨trivial, backed_kept hentries _ ?_⟩
    intro other state hlook
    refine ⟨?_, (fun heq => by cases heq), rfl⟩
    unfold snapshotAt at hlook
    split at hlook
    · exact hlook
    · exact lookup_of_cleanup entries now _ other state hlook

/-- Every call through the mutex extends the account. -/
theorem Accounts.step (history : History) (cell : Guarded) (call : Call)
    (h : lockout.Accounts history cell) :
    lockout.Accounts (history ++ [(call, (lockout.performGuarded cell call).1)])
      (lockout.performGuarded cell call).2 := by
  obtain ⟨hjustified, hentries⟩ :
      lockout.Justified history (call, (lockout.performGuarded cell call).1) ∧
        ∀ entries, (lockout.performGuarded cell call).2 = .available entries → ∀ ip state,
          entries.lookup ip = some state →
          lockout.Backed (history ++ [(call, (lockout.performGuarded cell call).1)]) ip state := by
    have herror (panic : Panic) : lockout.Justified history (call, .error panic) := by
      cases call <;> trivial
    unfold performGuarded withLock
    cases cell with
    | available entries =>
      dsimp only
      cases hperform : lockout.perform entries call with
      | error panic =>
        refine ⟨herror panic, ?_⟩
        intro entries' hcell
        cases hcell
      | ok outcome =>
        obtain ⟨hanswer, hbacked⟩ := perform_backed history entries outcome.2 call outcome.1
          (h.entries entries rfl) hperform
        refine ⟨hanswer, ?_⟩
        intro entries' hcell
        cases hcell
        exact hbacked
    | poisoned =>
      dsimp only
      split_ifs with henabled
      · refine ⟨herror _, ?_⟩
        intro entries' hcell
        cases hcell
      · refine ⟨?_, ?_⟩
        · cases hperform : lockout.perform ∅ call with
          | error panic => exact herror panic
          | ok outcome =>
            exact (perform_backed history ∅ outcome.2 call outcome.1
              (fun ip state hlook => by cases hlook) hperform).1
        · intro entries' hcell
          cases hcell
  refine ⟨?_, hentries⟩
  intro earlier entry later hsplit
  rcases List.eq_nil_or_concat later with rfl | ⟨front, last, rfl⟩
  · obtain ⟨rfl, hentry⟩ := List.append_inj' hsplit rfl
    cases hentry
    exact hjustified
  · rw [List.concat_eq_append, ← List.cons_append, ← List.append_assoc] at hsplit
    exact h.answers earlier entry front (List.append_inj' hsplit rfl).1

theorem runGuarded_accounts (history : History) (cell : Guarded)
    (h : lockout.runGuarded (.available ∅) (history.map Prod.fst) =
      (history.map Prod.snd, cell)) : lockout.Accounts history cell := by
  induction history using List.reverseRecOn generalizing cell with
  | nil =>
    cases h
    refine ⟨?_, ?_⟩
    · intro earlier entry later hsplit
      cases earlier <;> cases hsplit
    · intro entries hcell ip state hlook
      cases hcell
      cases hlook
  | append_singleton history entry ih =>
    obtain ⟨call, answer⟩ := entry
    rw [List.map_append, List.map_append, runGuarded_append, Prod.mk.injEq] at h
    obtain ⟨hanswers, rfl⟩ := h
    have hinit := List.append_inj' hanswers rfl
    have hrun : lockout.runGuarded (.available ∅) (history.map Prod.fst) =
        (history.map Prod.snd, (lockout.runGuarded (.available ∅) (history.map Prod.fst)).2) :=
      Prod.ext hinit.1 rfl
    obtain rfl : (lockout.performGuarded
        (lockout.runGuarded (.available ∅) (history.map Prod.fst)).2 call).1 = answer :=
      (List.cons.inj hinit.2).1
    exact Accounts.step history _ call (ih _ hrun)

end AuthLockout

end RedisBridge.Lockout

namespace RedisBridge.App.AppState

open BridgeConfig Instants IpAddress Lockout Lockout.History SharedThreads Targets
open TransitionRuns

variable (state : AppState) (crates : Crates)

/-- A request answered that there were too many failures met a lock. -/
theorem recorded_of_throttled (attempt : Attempt) (hfit : attempt.Fit)
    (hcame : state.Came crates attempt) (h : throttled attempt = true) :
    ∃ result, (result = .locked ∨ result = .alreadyLocked) ∧
      attempt.recordedAs attempt.ip result = true := by
  have hleft : attempt.place = .answered := by
    unfold throttled Attempt.left at h
    split at h
    · rename_i error heq
      split at heq
      · assumption
      · cases heq
      · cases heq
    · cases h
  have hcounted := throttled_of_left state crates attempt hfit hcame hleft
  rw [h] at hcounted
  have hrecorded (result : AuthFailure) (hresult : attempt.countedAs result = true) :
      attempt.recordedAs attempt.ip result = true := by
    unfold Attempt.countedAs at hresult
    unfold Attempt.recordedAs
    rw [Bool.and_eq_true] at hresult
    rw [hresult.1, beq_self_eq_true, Bool.and_self]
  cases hlocked : attempt.countedAs .locked with
  | true => exact ⟨.locked, Or.inl rfl, hrecorded _ hlocked⟩
  | false =>
    cases halready : attempt.countedAs .alreadyLocked with
    | true => exact ⟨.alreadyLocked, Or.inr rfl, hrecorded _ halready⟩
    | false =>
      rw [hlocked, halready] at hcounted
      cases hcounted

/-- In every interleaving, a failure takes a lock only where the calls on the
table before it end in exactly one failure of the address less than the maximum,
all within a window and with no success between them, and meets a lock only
where the address was locked less than the duration ago and not cleared since;
and every request that was answered that there were too many failures is one of
these. -/
theorem locks_earned (clock : Instant) (events : List (Event Arrival Unit Instant))
    (s : Threads Hall Attempt)
    (h : run (state.authProgram crates).step (openHall clock) events = some s) :
    (∀ earlier ip now later, state.journal crates (openHall clock) events =
        earlier ++ (.failure ip now, .ok (.failure .locked)) :: later →
      ∃ counted, Counted ip earlier counted ∧
        counted.length + 1 = state.authLockout.maxFailures.val ∧
        Spans state.authLockout.failureWindow (counted ++ [now])) ∧
    (∀ earlier ip now later, state.journal crates (openHall clock) events =
        earlier ++ (.failure ip now, .ok (.failure .alreadyLocked)) :: later →
      ∃ since, LockedSince ip earlier since ∧
        now.nanos < since.nanos + state.authLockout.lockoutDuration.nanos) ∧
    ∀ attempt ∈ s.threads, throttled attempt = true → ∃ earlier now result later,
      (result = .locked ∨ result = .alreadyLocked) ∧
      state.journal crates (openHall clock) events =
        earlier ++ (.failure attempt.ip now, .ok (.failure result)) :: later := by
  obtain ⟨hreplays, _⟩ := journal_replays state crates events (openHall clock) s
    (fun _ hmem => absurd hmem List.not_mem_nil) h
  have haccounts := AuthLockout.runGuarded_accounts _ _ hreplays.replay
  refine ⟨?_, ?_, ?_⟩
  · intro earlier ip now later hsplit
    exact haccounts.answers earlier _ later hsplit
  · intro earlier ip now later hsplit
    exact haccounts.answers earlier _ later hsplit
  · intro attempt hmem hthrottled
    obtain ⟨hfit, hcame⟩ := ((failed_tallies state crates).run_nat events _ s
      (fun _ hmem => absurd hmem List.not_mem_nil) rfl h).1 attempt hmem
    obtain ⟨result, hresult, hrecorded⟩ :=
      recorded_of_throttled state crates attempt hfit hcame hthrottled
    have hcounts := (recorded_fit state crates events (openHall clock) s
      (fun _ hmem => absurd hmem List.not_mem_nil) h attempt.ip result).2
    have hpositive : 0 < (state.journal crates (openHall clock) events).countP
        (answersFailure attempt.ip result) := by
      have hthread : 0 < s.threads.countP (Attempt.recordedAs attempt.ip result) :=
        List.countP_pos_iff.mpr ⟨attempt, hmem, hrecorded⟩
      have hnone : (openHall clock).threads.countP (Attempt.recordedAs attempt.ip result) = 0 :=
        rfl
      omega
    obtain ⟨⟨call, answer⟩, hentry, hanswers⟩ := List.countP_pos_iff.mp hpositive
    obtain ⟨earlier, later, hsplit⟩ := List.append_of_mem hentry
    unfold answersFailure at hanswers
    split at hanswers
    · rename_i ip' now result' heq
      cases heq
      rw [Bool.and_eq_true, beq_iff_eq, beq_iff_eq] at hanswers
      obtain ⟨rfl, rfl⟩ := hanswers
      exact ⟨earlier, now, result', later, hresult, hsplit⟩
    · cases hanswers

/-- The lock that two requests took between them. -/
theorem locks_earned_crossed : ∃ bridge state s,
    Bridge.fromEnv abcCrates twoFailures = .ok bridge ∧
    new (fun _ => .ok ()) bridge = .ok state ∧
    run (state.authProgram abcCrates).step (openHall (.ofSecs 0)) crossedReadings = some s ∧
    ∃ counted, Counted (.v4 0) [(.failure (.v4 0) (.ofSecs 1), .ok (.failure .tracked))] counted ∧
      counted.length + 1 = state.authLockout.maxFailures.val ∧
      Spans state.authLockout.failureWindow (counted ++ [.ofSecs 0]) := by
  obtain ⟨bridge, state, s, hbridge, hnew, hrun, hjournal⟩ : ∃ bridge state s,
      Bridge.fromEnv abcCrates twoFailures = .ok bridge ∧
      new (fun _ => .ok ()) bridge = .ok state ∧
      run (state.authProgram abcCrates).step (openHall (.ofSecs 0)) crossedReadings = some s ∧
      state.journal abcCrates (openHall (.ofSecs 0)) crossedReadings =
        [(.failure (.v4 0) (.ofSecs 1), .ok (.failure .tracked))] ++
          (.failure (.v4 0) (.ofSecs 0), .ok (.failure .locked)) :: [] :=
    ⟨_, _, _, rfl, rfl, rfl, rfl⟩
  exact ⟨bridge, state, s, hbridge, hnew, hrun,
    (locks_earned state abcCrates (.ofSecs 0) crossedReadings s hrun).1 _ _ _ _ hjournal⟩

end RedisBridge.App.AppState
