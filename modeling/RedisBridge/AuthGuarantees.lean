import RedisBridge.AuthInterleavings
import RedisBridge.LockoutDisorder

/-!
What operators and clients may rely on while requests authenticate side by side.
The counters reconcile with the requests at every moment; a request leaves after
a bounded number of its own steps, whatever the others do; no interleaving makes
one panic while locks end inside the clock's range; an address that is locked
stays so until the clock reaches the end of its lock; and the table keeps its
shape although clock readings reach it out of order.
-/
namespace RedisBridge.App

open AssocTables BridgeConfig ClientAddress EnvVars Instants IpAddress Lockout Responses RustText
open SharedThreads Targets TransitionRuns

/-! Counters. -/

/-- The counter of what a failure was recorded as. -/
def resultTotal (metrics : Metrics) : AuthFailure → ℕ
  | .locked => metrics.authLockoutsTotal
  | .alreadyLocked => metrics.authLockedRequestsTotal
  | .entryLimitReached => metrics.authLockoutEntryLimitTotal
  | .disabled | .tracked => 0

/-- The results that have a counter. -/
def HasCounter (result : AuthFailure) : Prop := result ≠ .disabled ∧ result ≠ .tracked

theorem resultTotal_countRejection (metrics : Metrics) (counted result : AuthFailure)
    (hcounter : HasCounter result) :
    resultTotal (AppState.countRejection metrics counted) result =
      resultTotal metrics result + (some counted == some result).toNat := by
  obtain ⟨hdisabled, htracked⟩ := hcounter
  cases result with
  | disabled => exact absurd rfl hdisabled
  | tracked => exact absurd rfl htracked
  | locked => cases counted <;> rfl
  | alreadyLocked => cases counted <;> rfl
  | entryLimitReached => cases counted <;> rfl

@[simp] theorem resultTotal_authFailed (metrics : Metrics) (result : AuthFailure) :
    resultTotal metrics.authFailed result = resultTotal metrics result := by
  cases result <;> rfl

@[simp] theorem resultTotal_showTracked (metrics : Metrics) (counts : AuthSnapshot)
    (result : AuthFailure) :
    resultTotal (AppState.showTracked metrics counts) result = resultTotal metrics result := by
  cases result <;> rfl

@[simp] theorem resultTotal_showLocked (metrics : Metrics) (counts : AuthSnapshot)
    (result : AuthFailure) :
    resultTotal (AppState.showLocked metrics counts) result = resultTotal metrics result := by
  cases result <;> rfl

theorem authFailedTotal_countRejection (metrics : Metrics) (counted : AuthFailure) :
    (AppState.countRejection metrics counted).authFailedTotal = metrics.authFailedTotal := by
  cases counted <;> rfl

namespace AppState

variable (state : AppState) (crates : Crates)

/-- A request at the table is past its decision and not counting. -/
theorem tableCall_place (attempt : Attempt) (call : Call) (hcall : attempt.tableCall = some call) :
    attempt.isDeciding = false ∧ attempt.isCounting = false := by
  unfold Attempt.tableCall at hcall
  split at hcall
  · simp [Attempt.isDeciding, Attempt.isCounting, *]
  · simp [Attempt.isDeciding, Attempt.isCounting, *]
  · simp [Attempt.isDeciding, Attempt.isCounting, *]
  · cases hcall

theorem Moves.failed {hall hall' : Hall} {attempt attempt' : Attempt}
    (h : Moves state hall attempt hall' attempt') :
    hall'.cells.metrics.authFailedTotal + attempt.failed.toNat =
      hall.cells.metrics.authFailedTotal + attempt'.failed.toNat := by
  unfold Attempt.failed
  cases h with
  | rejects message hplace hverdict =>
    simp [Attempt.isDeciding, Attempt.rejected, hplace, hverdict, Metrics.authFailed]
  | counts result hplace =>
    simp [Attempt.isDeciding, hplace, authFailedTotal_countRejection]
  | panics call panic cell hcall hperform =>
    have hpanicked : (attempt.goTo (.panicked panic)).isDeciding = false := rfl
    simp [(tableCall_place attempt call hcall).1, hpanicked]
  | closed hplace hverdict => simp [Attempt.rejected, hverdict]
  | grants result hplace hverdict => simp [Attempt.rejected, hverdict]
  | reads hplace => simp [Attempt.isDeciding, hplace]
  | records now result cell hplace hperform =>
    simp [Attempt.isDeciding, Attempt.rejected, hplace]
  | clears cell hplace hperform => simp [Attempt.isDeciding, hplace]
  | turns hplace => simp [Attempt.isDeciding, hplace]
  | surveys now shown cell hplace hperform => simp [Attempt.isDeciding, hplace]
  | showsTracked shown hplace => simp [Attempt.isDeciding, hplace, showTracked]
  | showsLocked shown hplace hlast => simp [Attempt.isDeciding, hplace, showLocked]
  | showsAgain shown hplace hmore =>
    simp [Attempt.isDeciding, Attempt.rejected, hplace, showLocked]

theorem Moves.counted {hall hall' : Hall} {attempt attempt' : Attempt} (hfit : attempt.Fit)
    (h : Moves state hall attempt hall' attempt') (result : AuthFailure)
    (hcounter : HasCounter result) :
    resultTotal hall'.cells.metrics result + (attempt.countedAs result).toNat =
      resultTotal hall.cells.metrics result + (attempt'.countedAs result).toNat := by
  unfold Attempt.countedAs
  cases h with
  | counts counted hplace =>
    unfold Attempt.Fit at hfit
    rw [hplace] at hfit
    simp [Attempt.isCounting, hplace, hfit.2, resultTotal_countRejection _ _ _ hcounter]
  | records now counted cell hplace hperform =>
    unfold Attempt.Fit at hfit
    rw [hplace] at hfit
    simp [Attempt.isCounting, hfit.2]
  | panics call panic cell hcall hperform =>
    have hpanicked : (attempt.goTo (.panicked panic)).isCounting = false := rfl
    simp [(tableCall_place attempt call hcall).2, hpanicked]
  | rejects message hplace hverdict =>
    simp [Attempt.isCounting, hplace]
  | closed hplace hverdict => simp [Attempt.isCounting, hplace]
  | grants granted hplace hverdict => simp [Attempt.isCounting, hplace]
  | reads hplace => simp [Attempt.isCounting, hplace]
  | clears cell hplace hperform => simp [Attempt.isCounting, hplace]
  | turns hplace => simp [Attempt.isCounting, hplace]
  | surveys now shown cell hplace hperform => simp [Attempt.isCounting, hplace]
  | showsTracked shown hplace =>
    simp [Attempt.isCounting, hplace]
  | showsLocked shown hplace hlast =>
    simp [Attempt.isCounting, hplace]
  | showsAgain shown hplace hmore =>
    simp [Attempt.isCounting, hplace]

/-- The request came through a door with its credentials. -/
def Came (attempt : Attempt) : Prop := ∃ arrival, attempt.verdict = state.verdict crates arrival

theorem Moves.came {hall hall' : Hall} {attempt attempt' : Attempt}
    (hcame : state.Came crates attempt) (h : Moves state hall attempt hall' attempt') :
    state.Came crates attempt' := by
  cases h <;> exact hcame

theorem passes_status (door : Door) (route : AuthRoute) (error : ApiError)
    (h : door.passes route = .error error) : error.status = .forbidden := by
  cases door with
  | bridge => cases h
  | metrics => cases h
  | command =>
    simp only [Door.passes] at h
    split at h
    · cases h
      rfl
    · cases h
  | realtime =>
    simp only [Door.passes] at h
    split at h
    · cases h
      rfl
    · cases h

/-- What is granted is refused by its capabilities, if at all. -/
theorem granted_status (arrival : Arrival) (error : ApiError)
    (h : state.verdict crates arrival = .granted (.error error)) : error.status = .forbidden := by
  unfold verdict at h
  split at h
  · split at h
    · cases h
    · split at h
      · cases h
      · split at h
        · cases h
        · cases h
  · split at h
    · cases h
    · split at h
      · cases h
      · rename_i route _
        exact passes_status _ route error (Verdict.granted.inj h)

/-- A request that was answered that there were too many failures. -/
def throttled (attempt : Attempt) : Bool :=
  match attempt.left with
  | some (.ok (.error error)) => error.status == .tooManyRequests
  | _ => false

/-- Such an answer is one that a lock gave. -/
theorem throttled_of_left (attempt : Attempt) (hfit : attempt.Fit)
    (hcame : state.Came crates attempt) (hleft : attempt.place = .answered) :
    (throttled attempt).toNat = (attempt.countedAs .locked).toNat +
      (attempt.countedAs .alreadyLocked).toNat := by
  unfold Attempt.Fit at hfit
  rw [hleft] at hfit
  have hcounting : attempt.isCounting = false := by simp [Attempt.isCounting, hleft]
  obtain ⟨arrival, hverdict⟩ := hcame
  simp only [throttled, Attempt.left, hleft, Attempt.answer, Attempt.countedAs, hcounting]
  cases hkind : attempt.verdict with
  | closed =>
    have hnone : attempt.recorded = none := by simpa [Attempt.rejected, hkind] using hfit
    rw [hnone]
    rfl
  | rejected message =>
    obtain ⟨result, hresult⟩ : ∃ result, attempt.recorded = some result := by
      apply Option.isSome_iff_exists.mp
      rw [hfit, Attempt.rejected, hkind]
    rw [hresult]
    cases result <;> rfl
  | granted result =>
    have hnone : attempt.recorded = none := by simpa [Attempt.rejected, hkind] using hfit
    rw [hnone]
    cases result with
    | ok route => rfl
    | error error =>
      have hstatus := granted_status state crates arrival error (hverdict.symm.trans hkind)
      dsimp only
      rw [hstatus]
      rfl

/-- The fate of the totals under a step, for requests that came through a door. -/
theorem failed_tallies : (state.authProgram crates).Tallies
    (fun attempt => attempt.Fit ∧ state.Came crates attempt)
    (fun hall => hall.cells.metrics.authFailedTotal) Attempt.failed := by
  refine ⟨fun arrival => ⟨⟨rfl, arrival, rfl⟩, Bool.and_false _⟩, ?_, ?_⟩
  · intro hall attempt act hall' attempt' hfit h
    have hmoves := moveAttempt_moves state _ _ _ _ h
    refine ⟨⟨hmoves.fit hfit.1, hmoves.came state crates hfit.2⟩, ?_⟩
    exact_mod_cast hmoves.failed state
  · intro hall later hall' h
    rw [((passTime_eq_some _ _ _).mp h).2]

theorem result_tallies (result : AuthFailure) (hcounter : HasCounter result) :
    (state.authProgram crates).Tallies
      (fun attempt => attempt.Fit ∧ state.Came crates attempt)
      (fun hall => resultTotal hall.cells.metrics result) (Attempt.countedAs result) := by
  refine ⟨fun arrival => ⟨⟨rfl, arrival, rfl⟩, rfl⟩, ?_, ?_⟩
  · intro hall attempt act hall' attempt' hfit h
    have hmoves := moveAttempt_moves state _ _ _ _ h
    refine ⟨⟨hmoves.fit hfit.1, hmoves.came state crates hfit.2⟩, ?_⟩
    exact_mod_cast hmoves.counted state hfit.1 result hcounter
  · intro hall later hall' h
    rw [((passTime_eq_some _ _ _).mp h).2]

/-- At every moment of every interleaving each counter is the number of requests
past the step that moves it; once all are answered, the answers of too many
requests are those that the two lock counters counted. -/
theorem counters_reconcile (clock : Instant) (events : List (Event Arrival Unit Instant))
    (s : Threads Hall Attempt)
    (h : run (state.authProgram crates).step (openHall clock) events = some s) :
    s.shared.cells.metrics.authFailedTotal = s.threads.countP Attempt.failed ∧
    s.shared.cells.metrics.authLockoutsTotal = s.threads.countP (Attempt.countedAs .locked) ∧
    s.shared.cells.metrics.authLockedRequestsTotal =
      s.threads.countP (Attempt.countedAs .alreadyLocked) ∧
    s.shared.cells.metrics.authLockoutEntryLimitTotal =
      s.threads.countP (Attempt.countedAs .entryLimitReached) ∧
    ((∀ attempt ∈ s.threads, attempt.place = .answered) →
      s.threads.countP Attempt.rejected = s.shared.cells.metrics.authFailedTotal ∧
      s.threads.countP throttled = s.shared.cells.metrics.authLockoutsTotal +
        s.shared.cells.metrics.authLockedRequestsTotal) := by
  have hnone : ∀ attempt ∈ (openHall clock).threads,
      attempt.Fit ∧ state.Came crates attempt := fun attempt hmem => absurd hmem List.not_mem_nil
  obtain ⟨hfit, hfailed⟩ := (failed_tallies state crates).run_nat events _ s hnone rfl h
  have htotal (result : AuthFailure) (hcounter : HasCounter result) :
      resultTotal s.shared.cells.metrics result = s.threads.countP (Attempt.countedAs result) := by
    have hstart : resultTotal (openHall clock).shared.cells.metrics result = 0 := by
      cases result <;> rfl
    exact ((result_tallies state crates result hcounter).run_nat events _ s hnone hstart h).2
  have hlocked := htotal .locked (by simp [HasCounter])
  have halready := htotal .alreadyLocked (by simp [HasCounter])
  refine ⟨hfailed, hlocked, halready, htotal .entryLimitReached (by simp [HasCounter]), ?_⟩
  intro hall
  constructor
  · rw [hfailed]
    apply List.countP_congr
    intro attempt hmem
    simp [Attempt.failed, Attempt.isDeciding, hall attempt hmem]
  · change _ = resultTotal _ .locked + resultTotal _ .alreadyLocked
    rw [hlocked, halready]
    apply Program.countP_eq_add
    intro attempt hmem
    obtain ⟨hown, hcame⟩ := hfit attempt hmem
    exact throttled_of_left state crates attempt hown hcame (hall attempt hmem)

/-- Both requests have counted their rejection, and neither what it was recorded as. -/
theorem counters_reconcile_crossed : ∃ bridge state s,
    Bridge.fromEnv abcCrates twoFailures = .ok bridge ∧
    new (fun _ => .ok ()) bridge = .ok state ∧
    run (state.authProgram abcCrates).step (openHall (.ofSecs 0)) crossedReadings = some s ∧
    s.shared.cells.metrics.authFailedTotal = 2 ∧ s.shared.cells.metrics.authLockoutsTotal = 0 := by
  obtain ⟨bridge, state, s, hbridge, hnew, hrun, hfailed, hlocked⟩ : ∃ bridge state s,
      Bridge.fromEnv abcCrates twoFailures = .ok bridge ∧
      new (fun _ => .ok ()) bridge = .ok state ∧
      run (state.authProgram abcCrates).step (openHall (.ofSecs 0)) crossedReadings = some s ∧
      s.threads.countP Attempt.failed = 2 ∧ s.threads.countP (Attempt.countedAs .locked) = 0 :=
    ⟨_, _, _, rfl, rfl, rfl, rfl, rfl⟩
  obtain ⟨htotal, hlockouts, _⟩ :=
    counters_reconcile state abcCrates (.ofSecs 0) crossedReadings s hrun
  exact ⟨bridge, state, s, hbridge, hnew, hrun, htotal.trans hfailed, hlockouts.trans hlocked⟩

/-! Every request leaves, and none panics while locks end in range. -/

/-- How many steps a request has left at most. -/
def stepsLeft (attempt : Attempt) : ℕ :=
  match attempt.place with
  | .deciding =>
      match attempt.verdict with
      | .closed => 1
      | .rejected _ => 4 + 4 * max 1 attempt.refreshes
      | .granted _ => 2 + 4 * max 1 attempt.refreshes
  | .reading => 3 + 4 * max 1 attempt.refreshes
  | .recording _ => 2 + 4 * max 1 attempt.refreshes
  | .counting _ => 1 + 4 * max 1 attempt.refreshes
  | .clearing => 1 + 4 * max 1 attempt.refreshes
  | .refreshing => 4 * max 1 attempt.refreshes
  | .surveying _ => 4 * max 1 attempt.refreshes - 1
  | .showingTracked _ => 4 * max 1 attempt.refreshes - 2
  | .showingLocked _ => 4 * max 1 attempt.refreshes - 3
  | .answered | .panicked _ => 0

theorem stepsLeft_attempt (arrival : Arrival) : stepsLeft (state.attempt crates arrival) ≤ 10 := by
  simp only [stepsLeft, attempt]
  cases state.verdict crates arrival with
  | closed => exact Nat.le_of_ble_eq_true rfl
  | rejected message => simp
  | granted result =>
    dsimp only
    split
    · decide
    · decide

theorem Moves.stepsLeft {hall hall' : Hall} {attempt attempt' : Attempt}
    (h : Moves state hall attempt hall' attempt') :
    stepsLeft attempt' < stepsLeft attempt := by
  have hpass := le_max_left 1 attempt.refreshes
  have hdone : AppState.stepsLeft (attempt.goTo .answered) = 0 := rfl
  cases h with
  | panics call panic cell hcall hperform =>
    have hpanicked : AppState.stepsLeft (attempt.goTo (.panicked panic)) = 0 := rfl
    rw [hpanicked]
    unfold Attempt.tableCall at hcall
    split at hcall
    · rename_i now hplace
      simp only [AppState.stepsLeft, hplace]
      omega
    · rename_i hplace
      simp only [AppState.stepsLeft, hplace]
      omega
    · rename_i now hplace
      simp only [AppState.stepsLeft, hplace]
      omega
    · cases hcall
  | closed hplace hverdict =>
    rw [hdone]
    simp only [AppState.stepsLeft, hplace, hverdict]
    omega
  | showsLocked shown hplace hlast =>
    rw [hdone]
    simp only [AppState.stepsLeft, hplace]
    omega
  | showsAgain shown hplace hmore =>
    simp only [AppState.stepsLeft, hplace]
    omega
  | rejects message hplace hverdict =>
    simp only [AppState.stepsLeft, hplace, hverdict, Attempt.place_goTo, Attempt.refreshes_goTo]
    omega
  | grants result hplace hverdict =>
    simp only [AppState.stepsLeft, hplace, hverdict, Attempt.place_goTo, Attempt.refreshes_goTo]
    omega
  | reads hplace =>
    simp only [AppState.stepsLeft, hplace, Attempt.place_goTo, Attempt.refreshes_goTo]
    omega
  | records now result cell hplace hperform =>
    simp only [AppState.stepsLeft, hplace]
    omega
  | counts result hplace =>
    simp only [AppState.stepsLeft, hplace, Attempt.place_goTo, Attempt.refreshes_goTo]
    omega
  | clears cell hplace hperform =>
    simp only [AppState.stepsLeft, hplace, Attempt.place_goTo, Attempt.refreshes_goTo]
    omega
  | turns hplace =>
    simp only [AppState.stepsLeft, hplace, Attempt.place_goTo, Attempt.refreshes_goTo]
    omega
  | surveys now shown cell hplace hperform =>
    simp only [AppState.stepsLeft, hplace, Attempt.place_goTo, Attempt.refreshes_goTo]
    omega
  | showsTracked shown hplace =>
    simp only [AppState.stepsLeft, hplace, Attempt.place_goTo, Attempt.refreshes_goTo]
    omega

/-- A request that has not left can take its next step. -/
theorem moveAttempt_isSome (hall : Hall) (attempt : Attempt) (h : attempt.left = none) :
    (state.moveAttempt hall attempt).isSome = true := by
  unfold moveAttempt
  unfold Attempt.left at h
  cases hplace : attempt.place with
  | answered =>
    rw [hplace] at h
    cases h
  | panicked panic =>
    rw [hplace] at h
    cases h
  | deciding => cases attempt.verdict <;> rfl
  | _ => rfl

/-- A lock taken by now ends inside the clock's range, if locks are taken. -/
def CanLock (lockout : AuthLockout) (now : Instant) : Prop :=
  lockout.isEnabled = true → lockout.LockEnds now

theorem CanLock.earlier {lockout : AuthLockout} {s t : Instant} (h : CanLock lockout t)
    (hst : s ≤ t) : CanLock lockout s := by
  intro henabled
  have hlater := h henabled
  rw [Instant.le_iff] at hst
  unfold AuthLockout.LockEnds at hlater ⊢
  omega

/-- A call through the mutex of a steady table returns. -/
theorem Steady.guarded {lockout : AuthLockout} {entries : Entries} (h : Steady lockout entries)
    (call : Call) (hends : ∀ now, call.instant? = some now → CanLock lockout now) :
    ∃ reply entries', lockout.perform entries call = .ok (reply, entries') ∧
      lockout.performGuarded (.available entries) call = (.ok reply, .available entries') ∧
      Steady lockout entries' := by
  have hcall : lockout.isEnabled = true →
      ∀ now, call.instant? = some now → lockout.LockEnds now :=
    fun henabled now hnow => hends now hnow henabled
  obtain ⟨reply, entries', hperform, _⟩ := lockout.perform_returns entries call hcall h.countable
  refine ⟨reply, entries', hperform, ?_, h.call hcall hperform⟩
  simp only [AuthLockout.performGuarded, AuthLockout.withLock, hperform]

/-- The table has not been poisoned, as long as locks end in range. -/
def Calm (hall : Hall) : Prop :=
  CanLock state.authLockout hall.clock →
    ∃ entries, hall.cells.lockout = .available entries ∧ Steady state.authLockout entries

/-- The request holds no reading of the future, and has not panicked. -/
def AtEase (hall : Hall) (attempt : Attempt) : Prop :=
  Behind hall.clock attempt ∧
    (CanLock state.authLockout hall.clock → ∀ panic, attempt.place ≠ .panicked panic)

theorem Moves.calm {hall hall' : Hall} {attempt attempt' : Attempt} (hcalm : state.Calm hall)
    (hease : state.AtEase hall attempt) (h : Moves state hall attempt hall' attempt') :
    state.Calm hall' ∧ state.AtEase hall' attempt' := by
  obtain ⟨hclock, htable⟩ := h.table
  have hreturns : CanLock state.authLockout hall.clock → ∀ call,
      attempt.tableCall = some call → ∃ reply entries,
        state.authLockout.performGuarded hall.cells.lockout call = (.ok reply, .available entries) ∧
        Steady state.authLockout entries := by
    intro hlock call hcall
    obtain ⟨entries, hentries, hsteady⟩ := hcalm hlock
    obtain ⟨reply, entries', _, hguarded, hnext⟩ := Steady.guarded hsteady call
      (fun now hnow => hlock.earlier (hease.1 call now hcall hnow))
    rw [hentries]
    exact ⟨reply, entries', hguarded, hnext⟩
  refine ⟨?_, ?_, ?_⟩
  · intro hlock
    rw [hclock] at hlock
    rcases htable with ⟨_, hsame⟩ | ⟨call, hcall, htable⟩
    · rw [hsame]
      exact hcalm hlock
    · obtain ⟨reply, entries, hguarded, hnext⟩ := hreturns hlock call hcall
      rw [htable, hguarded]
      exact ⟨entries, rfl, hnext⟩
  · intro call now hcall hnow
    rw [hclock]
    exact le_of_eq (h.reading call now hcall hnow)
  · intro hlock panic hpanic
    rw [hclock] at hlock
    cases h with
    | panics call panic' cell hcall hperform =>
      obtain ⟨reply, entries, hguarded, _⟩ := hreturns hlock call hcall
      rw [hguarded] at hperform
      cases hperform
    | _ => cases hpanic

theorem calm_keeps : (state.authProgram crates).Keeps state.Calm state.AtEase := by
  refine ⟨?_, ?_, ?_, ?_⟩
  · intro hall arrival _
    refine ⟨behind_attempt state crates hall.clock arrival, ?_⟩
    intro _ panic hpanic
    cases hpanic
  · intro hall attempt act hall' attempt' hcalm hease h
    exact (moveAttempt_moves state _ _ _ _ h).calm state hcalm hease
  · intro hall attempt act hall' attempt' other _ _ hother h
    have hclock := (moveAttempt_moves state _ _ _ _ h).table.1
    unfold AtEase
    rw [hclock]
    exact hother
  · intro hall later hall' hcalm h
    obtain ⟨hle, rfl⟩ := (passTime_eq_some _ _ _).mp h
    refine ⟨fun hlock => hcalm (hlock.earlier hle), ?_⟩
    intro attempt hease
    exact ⟨hease.1.mono hle, fun hlock => hease.2 (hlock.earlier hle)⟩

theorem calm_of_run (clock : Instant) (events : List (Event Arrival Unit Instant))
    (s : Threads Hall Attempt)
    (h : run (state.authProgram crates).step (openHall clock) events = some s) :
    Program.Sound state.Calm state.AtEase s := by
  apply (calm_keeps state crates).run events (openHall clock) s _ h
  refine ⟨?_, fun attempt hmem => absurd hmem List.not_mem_nil⟩
  intro _
  refine ⟨∅, rfl, ?_, fun _ => rfl⟩
  intro ip own hlook
  rw [AList.lookup_empty] at hlook
  cases hlook

/-- However requests interleave, each leaves after at most ten steps of its own,
of which a call on the table is one, from the lock of its mutex to the unlock.
While locks end in range, none panics. -/
theorem requests_leave (clock : Instant) (events : List (Event Arrival Unit Instant))
    (s : Threads Hall Attempt)
    (h : run (state.authProgram crates).step (openHall clock) events = some s) :
    (∀ i attempt, s.threads[i]? = some attempt →
      (ownActs i events).length ≤ 10 ∧
      (attempt.left = none → ∃ s', (state.authProgram crates).step s (.moved i ()) = some s') ∧
      (10 ≤ (ownActs i events).length → attempt.left ≠ none)) ∧
    (CanLock state.authLockout s.shared.clock →
      (∃ entries, s.shared.cells.lockout = .available entries) ∧
      ∀ attempt ∈ s.threads, ∀ outcome, attempt.left = some outcome →
        outcome = .ok attempt.answer) := by
  constructor
  · intro i attempt hattempt
    have hmoves := Program.moves_le stepsLeft 10 (stepsLeft_attempt state crates)
      (fun hall thread _ hall' thread' hmove =>
        (moveAttempt_moves state hall hall' thread thread' hmove).stepsLeft)
      events (openHall clock).shared s h i attempt hattempt
    have hstep : attempt.left = none → ∃ hall attempt',
        state.moveAttempt s.shared attempt = some (hall, attempt') := by
      intro hleft
      obtain ⟨⟨hall, attempt'⟩, hmove⟩ :=
        Option.isSome_iff_exists.mp (moveAttempt_isSome state s.shared attempt hleft)
      exact ⟨hall, attempt', hmove⟩
    refine ⟨by omega, ?_, ?_⟩
    · intro hleft
      obtain ⟨hall, attempt', hmove⟩ := hstep hleft
      refine ⟨⟨hall, s.threads.set i attempt'⟩, ?_⟩
      simp only [Program.step, hattempt, authProgram, hmove]
    · intro hten hleft
      obtain ⟨hall, attempt', hmove⟩ := hstep hleft
      have hsmaller := (moveAttempt_moves state _ _ _ _ hmove).stepsLeft
      omega
  · intro hlock
    have hsound := calm_of_run state crates clock events s h
    obtain ⟨entries, hentries, _⟩ := hsound.shared hlock
    refine ⟨⟨entries, hentries⟩, ?_⟩
    intro attempt hmem outcome hleft
    have hnot := (hsound.each attempt hmem).2 hlock
    unfold Attempt.left at hleft
    split at hleft
    · exact (Option.some.inj hleft).symm
    · rename_i panic hplace
      exact absurd hplace (hnot panic)
    · cases hleft

/-- After its one step of recording, neither request has left. -/
theorem requests_leave_crossed : ∃ bridge state s s',
    Bridge.fromEnv abcCrates twoFailures = .ok bridge ∧
    new (fun _ => .ok ()) bridge = .ok state ∧
    run (state.authProgram abcCrates).step (openHall (.ofSecs 0)) crossedReadings = some s ∧
    (state.authProgram abcCrates).step s (.moved 0 ()) = some s' := by
  obtain ⟨bridge, state, s, attempt, hbridge, hnew, hrun, hattempt, hleft⟩ :
      ∃ bridge state s attempt, Bridge.fromEnv abcCrates twoFailures = .ok bridge ∧
      new (fun _ => .ok ()) bridge = .ok state ∧
      run (state.authProgram abcCrates).step (openHall (.ofSecs 0)) crossedReadings = some s ∧
      s.threads[0]? = some attempt ∧ attempt.left = none :=
    ⟨_, _, _, _, rfl, rfl, rfl, rfl, rfl⟩
  obtain ⟨s', hstep⟩ := ((requests_leave state abcCrates (.ofSecs 0) crossedReadings s hrun).1 0
    attempt hattempt).2.1 hleft
  exact ⟨bridge, state, s, s', hbridge, hnew, hrun, hstep⟩

/-! A lock holds. -/

/-- A call that panics was answered nothing. -/
theorem answersFailure_error (ip : IpAddr) (result : AuthFailure) (call : Call) (panic : Panic) :
    answersFailure ip result (call, .error panic) = false := by
  unfold answersFailure
  split
  · rename_i heq
    cases heq
  · rfl

theorem countP_poisoned (lockout : AuthLockout) (henabled : lockout.isEnabled = true)
    (log : List (Call × Except Panic Reply)) (cell : Guarded) (ip : IpAddr) (result : AuthFailure)
    (hrun : lockout.runGuarded .poisoned (log.map Prod.fst) = (log.map Prod.snd, cell)) :
    cell = .poisoned ∧ log.countP (answersFailure ip result) = 0 := by
  rw [lockout.poisoned_forever henabled, Prod.mk.injEq] at hrun
  refine ⟨hrun.2.symm, ?_⟩
  rw [List.countP_eq_zero]
  rintro ⟨call, answer⟩ hmem
  have hpanic : answer = .error .mutexPoisoned := by
    apply List.eq_of_mem_replicate (n := (log.map Prod.fst).length)
    rw [hrun.1]
    exact List.mem_map.mpr ⟨_, hmem, rfl⟩
  rw [hpanic, answersFailure_error]
  simp

/-- Calls before the end of a lock, none of which clears the address, leave its
entry and find it locked, up to the first one that panics. -/
theorem runGuarded_locked (lockout : AuthLockout) (log : List (Call × Except Panic Reply))
    (entries : Entries) (cell : Guarded) (ip : IpAddr) (own : AuthState) (expiry : Instant)
    (henabled : lockout.isEnabled = true) (hlook : entries.lookup ip = some own)
    (hlocked : own.lockedUntil = some expiry)
    (hbefore : ∀ call ∈ log.map Prod.fst, ∀ now, call.instant? = some now → now < expiry)
    (hsuccess : Call.success ip ∉ log.map Prod.fst)
    (hrun : lockout.runGuarded (.available entries) (log.map Prod.fst) =
      (log.map Prod.snd, cell)) :
    (cell = .poisoned ∨ ∃ entries', cell = .available entries' ∧ entries'.lookup ip = some own) ∧
      ∀ result, result ≠ .alreadyLocked → log.countP (answersFailure ip result) = 0 := by
  induction log generalizing entries with
  | nil =>
    cases hrun
    exact ⟨Or.inr ⟨entries, rfl, hlook⟩, fun _ _ => rfl⟩
  | cons entry rest ih =>
    obtain ⟨call, answer⟩ := entry
    have hhere := hbefore call List.mem_cons_self
    have hne : call ≠ .success ip := fun heq => hsuccess (heq ▸ List.mem_cons_self)
    simp only [List.map_cons, AuthLockout.runGuarded, Prod.mk.injEq, List.cons.injEq] at hrun
    obtain ⟨⟨hanswer, hreplies⟩, hcell⟩ := hrun
    cases hperform : lockout.perform entries call with
    | error panic =>
      have hguarded : lockout.performGuarded (.available entries) call =
          (.error panic, .poisoned) := by
        simp only [AuthLockout.performGuarded, AuthLockout.withLock, hperform]
      rw [hguarded] at hanswer hreplies hcell
      have hrest := fun result => countP_poisoned lockout henabled rest cell ip result
        (Prod.ext hreplies hcell)
      refine ⟨Or.inl (hrest .tracked).1, ?_⟩
      intro result _
      rw [← hanswer, List.countP_cons_of_neg (by simp [answersFailure_error])]
      exact (hrest result).2
    | ok outcome =>
      obtain ⟨reply, entries'⟩ := outcome
      have hguarded : lockout.performGuarded (.available entries) call =
          (.ok reply, .available entries') := by
        simp only [AuthLockout.performGuarded, AuthLockout.withLock, hperform]
      rw [hguarded] at hanswer hreplies hcell
      obtain ⟨hkept, hanswered⟩ := lockout.perform_locked entries entries' call reply ip own expiry
        henabled hlook hlocked hhere hne hperform
      obtain ⟨hlast, hnone⟩ := ih entries' hkept
        (fun other hmem => hbefore other (List.mem_cons_of_mem _ hmem))
        (fun hmem => hsuccess (List.mem_cons_of_mem _ hmem)) (Prod.ext hreplies hcell)
      refine ⟨hlast, ?_⟩
      intro result hresult
      have hfirst : answersFailure ip result (call, answer) = false := by
        rw [← hanswer]
        cases call with
        | failure ip' now =>
          by_cases hip : ip' = ip
          · subst hip
            rw [hanswered now rfl]
            simp [answersFailure, Ne.symm hresult]
          · cases reply <;> simp [answersFailure, hip]
        | success ip' => rfl
        | snapshot now => rfl
      rw [List.countP_cons_of_neg (by simp [hfirst])]
      exact hnone result hresult

/-- From the moment an address is locked until the clock reaches the end of the
lock, and unless an accepted request of the address clears it, every failure of
the address is found locked, however requests interleave. Its entry stays as it
is, unless a lock that would end outside the clock's range poisons the mutex. -/
theorem lock_outlasts_interleavings (clock : Instant)
    (before after : List (Event Arrival Unit Instant)) (s s' : Threads Hall Attempt)
    (entries : Entries) (ip : IpAddr) (own : AuthState) (expiry : Instant)
    (hbefore : run (state.authProgram crates).step (openHall clock) before = some s)
    (hentries : s.shared.cells.lockout = .available entries)
    (hlook : entries.lookup ip = some own) (hlocked : own.lockedUntil = some expiry)
    (hafter : run (state.authProgram crates).step s after = some s')
    (hclock : s'.shared.clock < expiry)
    (hsuccess : Call.success ip ∉ (state.journal crates s after).map Prod.fst) :
    ((s'.shared.cells.lockout = .poisoned ∧ ¬CanLock state.authLockout s'.shared.clock) ∨
      ∃ entries', s'.shared.cells.lockout = .available entries' ∧
        entries'.lookup ip = some own) ∧
    ∀ result, result ≠ .alreadyLocked →
      s'.threads.countP (Attempt.recordedAs ip result) =
        s.threads.countP (Attempt.recordedAs ip result) := by
  have hsound := calm_of_run state crates clock before s hbefore
  have hsound' := (calm_keeps state crates).run after s s' hsound hafter
  have henabled : state.authLockout.isEnabled = true := by
    by_contra hoff
    obtain ⟨entries₀, hentries₀, hsteady⟩ := hsound.shared (fun hon => absurd hon hoff)
    rw [hentries] at hentries₀
    cases hentries₀
    rw [hsteady.disabled (Bool.eq_false_iff.mpr hoff), AList.lookup_empty] at hlook
    cases hlook
  have hfit := (recorded_fit state crates before (openHall clock) s
    (fun attempt hmem => absurd hmem List.not_mem_nil) hbefore ip .locked).1
  obtain ⟨hreplays, _⟩ := journal_replays state crates after s s'
    (fun attempt hmem => (hsound.each attempt hmem).1) hafter
  have hreplay := hreplays.replay
  rw [hentries] at hreplay
  obtain ⟨hkept, hnone⟩ := runGuarded_locked state.authLockout (state.journal crates s after)
    entries s'.shared.cells.lockout ip own expiry henabled hlook hlocked
    (fun call hmem now hnow => lt_of_le_of_lt (hreplays.readings call hmem now hnow) hclock)
    hsuccess hreplay
  constructor
  · rcases hkept with hpoisoned | hkept
    · left
      refine ⟨hpoisoned, fun hlock => ?_⟩
      obtain ⟨entries', hentries', _⟩ := hsound'.shared hlock
      rw [hpoisoned] at hentries'
      cases hentries'
    · exact Or.inr hkept
  · intro result hresult
    rw [(recorded_fit state crates after s s' hfit hafter ip result).2, hnone result hresult,
      Nat.add_zero]

/-- A third request of the address, a hundred seconds later. -/
def thirdRequest : List (Event Arrival Unit Instant) :=
  [.drifted (.ofSecs 100), .entered (unpresented (.ofSecs 100)).arrival, .moved 2 (), .moved 2 (),
    .moved 2 ()]

theorem lock_outlasts_third : ∃ bridge state s s' own,
    Bridge.fromEnv abcCrates twoFailures = .ok bridge ∧
    new (fun _ => .ok ()) bridge = .ok state ∧
    run (state.authProgram abcCrates).step (openHall (.ofSecs 0)) crossedReadings = some s ∧
    run (state.authProgram abcCrates).step s thirdRequest = some s' ∧
    (∃ entries', s'.shared.cells.lockout = .available entries' ∧
      entries'.lookup (.v4 0) = some own) ∧
    s'.threads.countP (Attempt.recordedAs (.v4 0) .tracked) =
      s.threads.countP (Attempt.recordedAs (.v4 0) .tracked) := by
  obtain ⟨bridge, state, s, s', entries, own, expiry, hbridge, hnew, hbefore, hafter, hentries,
      hlook, hlocked, hclock, hlock, hsuccess⟩ : ∃ bridge state s s' entries own expiry,
      Bridge.fromEnv abcCrates twoFailures = .ok bridge ∧
      new (fun _ => .ok ()) bridge = .ok state ∧
      run (state.authProgram abcCrates).step (openHall (.ofSecs 0)) crossedReadings = some s ∧
      run (state.authProgram abcCrates).step s thirdRequest = some s' ∧
      s.shared.cells.lockout = .available entries ∧ entries.lookup (.v4 0) = some own ∧
      own.lockedUntil = some expiry ∧ s'.shared.clock < expiry ∧
      s'.shared.clock.nanos + state.authLockout.lockoutDuration.nanos < 2 ^ 63 * 10 ^ 9 ∧
      Call.success (.v4 0) ∉ (state.journal abcCrates s thirdRequest).map Prod.fst :=
    ⟨_, _, _, _, _, _, _, rfl, rfl, rfl, rfl, rfl, rfl, rfl, by decide, by decide, by decide⟩
  obtain ⟨hkept, hcounts⟩ := lock_outlasts_interleavings state abcCrates (.ofSecs 0)
    crossedReadings thirdRequest s s' entries (.v4 0) own expiry hbefore hentries hlook hlocked
    hafter hclock hsuccess
  refine ⟨bridge, state, s, s', own, hbridge, hnew, hbefore, hafter, ?_,
    hcounts .tracked (by decide)⟩
  exact hkept.resolve_left (fun hpoisoned => hpoisoned.2 (fun _ => hlock))

/-! The shape of the table, and what the gauges show of it. -/

/-- The numbers of a snapshot fit in the capacity of the table. -/
def Fits (counts : AuthSnapshot) : Prop :=
  counts.trackedIps ≤ state.authLockout.maxEntries.val ∧
    counts.lockedIps ≤ state.authLockout.maxEntries.val

structure HallShaped (hall : Hall) : Prop where
  table : state.authLockout.CellShaped hall.cells.lockout
  gauges : state.Fits
    ⟨hall.cells.metrics.authLockoutTrackedIps, hall.cells.metrics.authLockoutLockedIps⟩

/-- What a request is about to show. -/
def toShow (attempt : Attempt) : Option AuthSnapshot :=
  match attempt.place with
  | .showingTracked counts => some counts
  | .showingLocked counts => some counts
  | _ => none

def ShowsFitting (attempt : Attempt) : Prop := ∀ counts, toShow attempt = some counts →
  state.Fits counts

theorem gauges_countRejection (metrics : Metrics) (result : AuthFailure) :
    (countRejection metrics result).authLockoutTrackedIps = metrics.authLockoutTrackedIps ∧
      (countRejection metrics result).authLockoutLockedIps = metrics.authLockoutLockedIps := by
  cases result <;> exact ⟨rfl, rfl⟩

theorem Moves.shaped {hall hall' : Hall} {attempt attempt' : Attempt}
    (hhall : state.HallShaped hall) (hshows : state.ShowsFitting attempt)
    (h : Moves state hall attempt hall' attempt') :
    state.HallShaped hall' ∧ state.ShowsFitting attempt' := by
  have htable : state.authLockout.CellShaped hall'.cells.lockout := by
    rcases h.table.2 with ⟨_, hsame⟩ | ⟨call, _, hperform⟩
    · rw [hsame]
      exact hhall.table
    · rw [hperform]
      exact AuthLockout.performGuarded_shaped _ _ call hhall.table
  cases h with
  | surveys now counts cell hplace hperform =>
    have hcounts := AuthLockout.performGuarded_snapshot _ _ _ _ _ hhall.table hperform
    refine ⟨⟨htable, hhall.gauges⟩, ?_⟩
    intro counts' heq
    cases heq
    exact hcounts
  | showsTracked counts hplace =>
    have hcounts := hshows counts (by rw [toShow, hplace])
    refine ⟨⟨htable, hcounts.1, hhall.gauges.2⟩, ?_⟩
    intro counts' heq
    cases heq
    exact hcounts
  | showsLocked counts hplace hlast =>
    have hcounts := hshows counts (by rw [toShow, hplace])
    refine ⟨⟨htable, hhall.gauges.1, hcounts.2⟩, ?_⟩
    intro counts' heq
    cases heq
  | showsAgain counts hplace hmore =>
    have hcounts := hshows counts (by rw [toShow, hplace])
    refine ⟨⟨htable, hhall.gauges.1, hcounts.2⟩, ?_⟩
    intro counts' heq
    cases heq
  | counts result hplace =>
    obtain ⟨htracked, hlocked⟩ := gauges_countRejection hall.cells.metrics result
    refine ⟨⟨htable, ?_⟩, ?_⟩
    · rw [Hall.setMetrics_metrics, htracked, hlocked]
      exact hhall.gauges
    · intro counts' heq
      cases heq
  | _ =>
    refine ⟨⟨htable, hhall.gauges⟩, ?_⟩
    intro counts' heq
    cases heq

theorem shaped_keeps :
    (state.authProgram crates).Keeps state.HallShaped (fun _ => state.ShowsFitting) := by
  refine ⟨?_, ?_, ?_, ?_⟩
  · intro hall arrival _ counts heq
    cases heq
  · intro hall attempt act hall' attempt' hhall hshows h
    exact (moveAttempt_moves state _ _ _ _ h).shaped state hhall hshows
  · intro hall attempt act hall' attempt' other _ _ hother _
    exact hother
  · intro hall later hall' hhall h
    obtain ⟨_, rfl⟩ := (passTime_eq_some _ _ _).mp h
    exact ⟨⟨hhall.table, hhall.gauges⟩, fun attempt hshows => hshows⟩

/-- Although clock readings reach the table out of order, it never outgrows its
capacity, its entries keep their shape, and no gauge shows more than fits. -/
theorem table_shaped_in_any_order (clock : Instant)
    (events : List (Event Arrival Unit Instant)) (s : Threads Hall Attempt)
    (h : run (state.authProgram crates).step (openHall clock) events = some s) :
    (∀ entries, s.shared.cells.lockout = .available entries →
      entries.len ≤ state.authLockout.maxEntries.val ∧
      ∀ ip own, entries.lookup ip = some own → state.authLockout.Shaped own) ∧
    s.shared.cells.metrics.authLockoutTrackedIps ≤ state.authLockout.maxEntries.val ∧
    s.shared.cells.metrics.authLockoutLockedIps ≤ state.authLockout.maxEntries.val := by
  have hstart : Program.Sound state.HallShaped (fun _ => state.ShowsFitting)
      (openHall clock) := by
    refine ⟨⟨?_, Nat.zero_le _, Nat.zero_le _⟩, fun attempt hmem => absurd hmem List.not_mem_nil⟩
    intro entries hentries
    cases hentries
    exact ⟨Nat.zero_le _, AuthLockout.every_empty _⟩
  have hsound := (shaped_keeps state crates).run events (openHall clock) s hstart h
  refine ⟨?_, hsound.shared.gauges⟩
  intro entries hentries
  have hshaped := hsound.shared.table entries hentries
  exact ⟨hshaped.room, hshaped.each⟩

/-- The entry of the crossed readings is locked, and last seen before its window. -/
theorem table_shaped_crossed : ∃ bridge state s entries own,
    Bridge.fromEnv abcCrates twoFailures = .ok bridge ∧
    new (fun _ => .ok ()) bridge = .ok state ∧
    run (state.authProgram abcCrates).step (openHall (.ofSecs 0)) crossedReadings = some s ∧
    s.shared.cells.lockout = .available entries ∧ entries.lookup (.v4 0) = some own ∧
    own.lastSeenAt < own.windowStartedAt ∧ own.lockedUntil.isSome = true ∧
    state.authLockout.Shaped own := by
  obtain ⟨bridge, state, s, entries, own, hbridge, hnew, hrun, hentries, hlook, hless, hlocked⟩ :
      ∃ bridge state s entries own, Bridge.fromEnv abcCrates twoFailures = .ok bridge ∧
      new (fun _ => .ok ()) bridge = .ok state ∧
      run (state.authProgram abcCrates).step (openHall (.ofSecs 0)) crossedReadings = some s ∧
      s.shared.cells.lockout = .available entries ∧ entries.lookup (.v4 0) = some own ∧
      own.lastSeenAt < own.windowStartedAt ∧ own.lockedUntil.isSome = true :=
    ⟨_, _, _, _, _, rfl, rfl, rfl, rfl, rfl, by decide, rfl⟩
  obtain ⟨htable, _⟩ :=
    table_shaped_in_any_order state abcCrates (.ofSecs 0) crossedReadings s hrun
  exact ⟨bridge, state, s, entries, own, hbridge, hnew, hrun, hentries, hlook, hless, hlocked,
    (htable entries hentries).2 (.v4 0) own hlook⟩

end AppState

end RedisBridge.App
