import RedisBridge.LockoutDuration
import RedisBridge.LockoutInvariant
import RedisBridge.LockoutPoison
import RedisBridge.ProxyConfinement

/-!
Every rejection is counted once. Acceptance is a matter of the authorization
header and the configured tokens; a rejected request records one failure of its
own address and is answered by what came of it; an accepted one clears its
address, so that the next failure there opens a window. All of it holds of runs
in which no lock ends outside the clock's range, and of no others.
-/
namespace RedisBridge.App

open AssocTables BridgeConfig ClientAddress EnvVars Instants IpAddress Lockout Responses RustText
  Targets

namespace AppState

variable (state : AppState) (crates : Crates)

/-- The credentials of the request are checked, and rejected. -/
def rejects (request : AuthRequest) : Bool :=
  !state.credentials.closed request.door &&
    !state.credentials.accept crates request.door request.authorization

/-- What the failure that a rejected request records comes to. -/
def recorded (event : AuthEvent) : Option AuthFailure :=
  if state.rejects crates event.request = true then
    match event.before.lockout with
    | .available entries =>
        match state.authLockout.recordFailureAt entries (state.requestIp event.request)
            event.request.clock.failure with
        | .ok (result, _) => some result
        | .error _ => none
    | .poisoned => none
  else none

/-- What a request of a run comes to, between two tables. -/
structure Answered (event : AuthEvent) (entries entries' : Entries) : Prop where
  before : event.before.lockout = .available entries
  after : event.after.lockout = .available entries'
  accepted : Granted event.outcome ↔
    state.credentials.accept crates event.request.door event.request.authorization = true
  closed : state.credentials.closed event.request.door = true →
    (∃ error, event.outcome = .ok (.error error) ∧ error.status = .unauthorized) ∧
      event.after = event.before
  rejected : state.rejects crates event.request = true →
    ∃ result counted error,
      state.authLockout.recordFailureAt entries (state.requestIp event.request)
        event.request.clock.failure = .ok (result, counted) ∧
      entries' = (state.authLockout.snapshotAt counted event.request.clock.snapshot).2 ∧
      event.outcome = .ok (.error error) ∧
      error.status = if result = .locked ∨ result = .alreadyLocked then .tooManyRequests
        else .unauthorized
  cleared : state.credentials.accept crates event.request.door event.request.authorization = true →
    entries'.lookup (state.requestIp event.request) = none ∧
      ∀ other, other ≠ state.requestIp event.request →
        KeptOrDropped state.authLockout.failureWindow event.request.refreshes
          (entries.lookup other) (entries'.lookup other)

/-- A failure that was not refused, and is the first of its window. -/
def OpensWindow (lockout : AuthLockout) (entries : Entries) (ip : IpAddr) (now : Instant) : Prop :=
  ∀ result counted, lockout.recordFailureAt entries ip now = .ok (result, counted) →
    result ≠ .entryLimitReached →
    (result = if lockout.maxFailures.val = 1 then .locked else .tracked) ∧
      ∃ own, counted.lookup ip = some own ∧ own.failures.val = 1 ∧ own.windowStartedAt = now ∧
        own.lastSeenAt = now

/-- Every request of a run from nothing recorded is answered, an accepted one
clears its address, and each rejection is counted exactly once. -/
structure CountsOnce (requests : List AuthRequest) : Prop where
  answered : ∀ event ∈ (state.authRun crates freshCells requests).1,
    ∃ entries entries', state.Answered crates event entries entries'
  reopens : state.authLockout.isEnabled = true → ∀ early accepted between next late entries,
    (state.authRun crates freshCells requests).1 = early ++ accepted :: (between ++ next :: late) →
    Granted accepted.outcome →
    state.requestIp next.request = state.requestIp accepted.request →
    (∀ event ∈ between, state.rejects crates event.request = true →
      state.requestIp event.request ≠ state.requestIp accepted.request) →
    next.before.lockout = .available entries →
    OpensWindow state.authLockout entries (state.requestIp next.request)
      next.request.clock.failure
  failed : (state.authRun crates freshCells requests).2.metrics.authFailedTotal =
    (state.authRun crates freshCells requests).1.countP
      (fun event => state.rejects crates event.request)
  lockouts : (state.authRun crates freshCells requests).2.metrics.authLockoutsTotal =
    (state.authRun crates freshCells requests).1.countP
      (fun event => state.recorded crates event == some .locked)
  lockedRequests : (state.authRun crates freshCells requests).2.metrics.authLockedRequestsTotal =
    (state.authRun crates freshCells requests).1.countP
      (fun event => state.recorded crates event == some .alreadyLocked)
  entryLimit : (state.authRun crates freshCells requests).2.metrics.authLockoutEntryLimitTotal =
    (state.authRun crates freshCells requests).1.countP
      (fun event => state.recorded crates event == some .entryLimitReached)

/-! A rejection and its counters. -/

theorem rejection_status (message : String) (result : AuthFailure) :
    (rejection message result).status =
      if result = .locked ∨ result = .alreadyLocked then .tooManyRequests else .unauthorized := by
  cases result <;> rfl

theorem rejection_not_granted (message : String) (result : AuthFailure) :
    ¬Granted (.ok (.error (rejection message result))) := by
  rintro (⟨route, h⟩ | ⟨refusal, h⟩)
  · cases h
  · have hstatus := congrArg ApiError.status (Except.error.inj (Except.ok.inj h))
    rw [rejection_status] at hstatus
    split at hstatus
    · cases hstatus
    · cases hstatus

/-- The table is available, can count every failure, and is empty if nothing is
ever recorded in it. -/
structure Steady (lockout : AuthLockout) (entries : Entries) : Prop where
  countable : lockout.Countable entries
  disabled : lockout.isEnabled = false → entries = ∅

theorem Steady.call {lockout : AuthLockout} {entries entries' : Entries} {call : Call}
    {reply : Reply} (h : Steady lockout entries)
    (hends : lockout.isEnabled = true → ∀ now, call.instant? = some now → lockout.LockEnds now)
    (hperform : lockout.perform entries call = .ok (reply, entries')) :
    Steady lockout entries' := by
  obtain ⟨reply', last, hreturns, hcountable⟩ := lockout.perform_returns entries call hends
    h.countable
  rw [hperform] at hreturns
  cases hreturns
  refine ⟨hcountable, ?_⟩
  intro hoff
  have hrun : lockout.run entries [call] = .ok ([(call, reply)], entries') :=
    (lockout.run_cons_eq_ok _ _ _ _ _).mpr ⟨reply, entries', [], hperform, rfl, rfl⟩
  rw [lockout.run_disabled [call] entries entries' _ hoff hrun]
  exact h.disabled hoff

theorem Steady.snapshot {lockout : AuthLockout} {entries : Entries} (h : Steady lockout entries)
    (now : Instant) : Steady lockout (lockout.snapshotAt entries now).2 := by
  unfold AuthLockout.snapshotAt
  split
  · exact h
  · rename_i henabled
    refine ⟨h.countable.cleanup now _, ?_⟩
    intro hoff
    rw [hoff] at henabled
    exact absurd rfl henabled

theorem Steady.refreshed {entries : Entries} (h : Steady state.authLockout entries)
    (instants : List Instant) : Steady state.authLockout (state.refreshed entries instants) := by
  induction instants generalizing entries with
  | nil => exact h
  | cons now rest ih => exact ih (h.snapshot now)

theorem Steady.success {entries : Entries} (h : Steady state.authLockout entries) (ip : IpAddr) :
    Steady state.authLockout (state.authLockout.recordSuccess entries ip) ∧
      (state.authLockout.recordSuccess entries ip).lookup ip = none := by
  have hperform : state.authLockout.perform entries (.success ip) =
      .ok (.success, state.authLockout.recordSuccess entries ip) := rfl
  have hsteady : Steady state.authLockout (state.authLockout.recordSuccess entries ip) :=
    h.call (fun _ now hnow => by cases hnow) hperform
  refine ⟨hsteady, ?_⟩
  by_cases henabled : state.authLockout.isEnabled = true
  · exact state.authLockout.recordSuccess_self entries ip henabled
  · rw [hsteady.disabled (Bool.eq_false_iff.mpr henabled)]
    exact AList.lookup_empty ip

/-- While its lock would end in range, a failure is recorded without a panic. -/
theorem Steady.failure {entries : Entries} (h : Steady state.authLockout entries) (ip : IpAddr)
    (now : Instant) (hends : state.authLockout.isEnabled = true → state.authLockout.LockEnds now) :
    ∃ result counted, state.authLockout.recordFailureAt entries ip now = .ok (result, counted) ∧
      Steady state.authLockout counted := by
  have hcall : state.authLockout.isEnabled = true →
      ∀ t, (Call.failure ip now).instant? = some t → state.authLockout.LockEnds t := by
    intro henabled t ht
    cases ht
    exact hends henabled
  obtain ⟨reply, counted, hperform, _⟩ :=
    state.authLockout.perform_returns entries (.failure ip now) hcall h.countable
  obtain ⟨result, _, hrecord⟩ :=
    state.authLockout.perform_failure_eq_ok entries counted ip now reply hperform
  exact ⟨result, counted, hrecord, h.call hcall hperform⟩

theorem accept_of_closed (door : Door) (authorization : Option (List UInt8))
    (h : state.credentials.closed door = true) :
    state.credentials.accept crates door authorization = false := by
  simp only [Credentials.closed, Bool.and_eq_true, beq_iff_eq, Option.isNone_iff_eq_none] at h
  obtain ⟨rfl, hnone⟩ := h
  simp only [Credentials.accept, hnone, Option.any_none]
  cases presentedToken (fun _ => authorization) with
  | none => rfl
  | some token => rfl

theorem rejects_eq_false_of_accept (request : AuthRequest)
    (h : state.credentials.accept crates request.door request.authorization = true) :
    state.rejects crates request = false := by
  simp [rejects, h]

/-- Over a steady table, a request whose lock would end in range is answered and
leaves a steady table. -/
theorem effect_answered (event : AuthEvent) (entries : Entries)
    (hsteady : Steady state.authLockout entries)
    (hends : state.authLockout.isEnabled = true →
      state.authLockout.LockEnds event.request.clock.failure)
    (hbefore : event.before.lockout = .available entries)
    (h : state.Effect crates event.request entries event.before.metrics event.outcome
      event.after) :
    ∃ entries', state.Answered crates event entries entries' ∧
      Steady state.authLockout entries' := by
  obtain ⟨request, ⟨cell, metrics⟩, outcome, after⟩ := event
  dsimp only at hbefore h hends
  subst hbefore
  cases h with
  | closed hclosed =>
    have hnot := accept_of_closed state crates request.door request.authorization hclosed
    refine ⟨entries, ⟨rfl, rfl, ?_, ?_, ?_, ?_⟩, hsteady⟩
    · constructor
      · rintro (⟨route, hbad⟩ | ⟨message, hbad⟩)
        · cases hbad
        · cases congrArg ApiError.status (Except.error.inj (Except.ok.inj hbad))
      · intro haccepted
        rw [hnot] at haccepted
        cases haccepted
    · intro _
      exact ⟨⟨_, rfl, rfl⟩, rfl⟩
    · intro hrejects
      simp [rejects, hclosed] at hrejects
    · intro haccepted
      rw [hnot] at haccepted
      cases haccepted
  | rejected message result counted hopen hrejected hrecord =>
    obtain ⟨result', counted', hreturns, hnext⟩ :=
      hsteady.failure state (state.requestIp request) request.clock.failure hends
    rw [hrecord] at hreturns
    cases hreturns
    refine ⟨_, ⟨rfl, rfl, ?_, ?_, ?_, ?_⟩, hnext.snapshot request.clock.snapshot⟩
    · constructor
      · intro hgranted
        exact absurd hgranted (rejection_not_granted message result)
      · intro haccepted
        rw [hrejected] at haccepted
        cases haccepted
    · intro hclosed
      rw [hopen] at hclosed
      cases hclosed
    · intro _
      exact ⟨result, counted, _, hrecord, rfl, rfl, rejection_status message result⟩
    · intro haccepted
      rw [hrejected] at haccepted
      cases haccepted
  | panicked panic hopen hrejected hrecord =>
    obtain ⟨result, counted, hreturns, _⟩ :=
      hsteady.failure state (state.requestIp request) request.clock.failure hends
    rw [hrecord] at hreturns
    cases hreturns
  | granted outcome counts haccepted houtcome =>
    obtain ⟨hcleared, hnone⟩ := hsteady.success state (state.requestIp request)
    refine ⟨_, ⟨rfl, rfl, ⟨fun _ => haccepted, fun _ => houtcome⟩, ?_, ?_, ?_⟩,
      hcleared.refreshed state request.refreshes⟩
    · intro hclosed
      rw [accept_of_closed state crates _ _ hclosed] at haccepted
      cases haccepted
    · intro hrejects
      rw [rejects_eq_false_of_accept state crates request haccepted] at hrejects
      cases hrejects
    · intro _
      constructor
      · rcases refreshed_keptOrDropped state _ request.refreshes (state.requestIp request) with
          hsame | ⟨own, _, hgone, _⟩
        · rw [hsame, hnone]
        · exact hgone
      · intro other hne
        have hother := refreshed_keptOrDropped state
          (state.authLockout.recordSuccess entries (state.requestIp request)) request.refreshes
          other
        rw [state.authLockout.recordSuccess_other entries _ other hne] at hother
        exact hother

/-- What a request adds to the four totals. -/
structure Tallied (event : AuthEvent) : Prop where
  failed : event.after.metrics.authFailedTotal = event.before.metrics.authFailedTotal +
    if state.rejects crates event.request = true then 1 else 0
  lockouts : event.after.metrics.authLockoutsTotal = event.before.metrics.authLockoutsTotal +
    if (state.recorded crates event == some .locked) = true then 1 else 0
  lockedRequests : event.after.metrics.authLockedRequestsTotal =
    event.before.metrics.authLockedRequestsTotal +
      if (state.recorded crates event == some .alreadyLocked) = true then 1 else 0
  entryLimit : event.after.metrics.authLockoutEntryLimitTotal =
    event.before.metrics.authLockoutEntryLimitTotal +
      if (state.recorded crates event == some .entryLimitReached) = true then 1 else 0

theorem effect_tallied (event : AuthEvent) (entries : Entries)
    (hbefore : event.before.lockout = .available entries)
    (h : state.Effect crates event.request entries event.before.metrics event.outcome
      event.after) :
    state.Tallied crates event := by
  obtain ⟨request, ⟨cell, metrics⟩, outcome, after⟩ := event
  dsimp only at hbefore h
  subst hbefore
  cases h with
  | closed hclosed =>
    have hrejects : state.rejects crates request = false := by simp [rejects, hclosed]
    constructor <;> simp [recorded, hrejects]
  | rejected message result counted hopen hrejected hrecord =>
    have hrejects : state.rejects crates request = true := by simp [rejects, hopen, hrejected]
    have hresult (outcome : AuthOutcome) (after : Cells) : state.recorded crates
        ⟨request, ⟨.available entries, metrics⟩, outcome, after⟩ = some result := by
      simp only [recorded, hrejects, if_true, hrecord]
    constructor
    · cases result <;> simp [countRejection, Metrics.authFailed, Metrics.lockoutCreated,
        Metrics.lockedRequest, Metrics.lockoutEntryLimit, Metrics.setLockoutState, hrejects]
    all_goals
      rw [hresult]
      cases result <;> rfl
  | panicked panic hopen hrejected hrecord =>
    have hrejects : state.rejects crates request = true := by simp [rejects, hopen, hrejected]
    constructor <;> simp [recorded, hrejects, hrecord, Metrics.authFailed]
  | granted outcome counts haccepted houtcome =>
    have hrejects := rejects_eq_false_of_accept state crates request haccepted
    constructor <;> simp [recorded, hrejects, Metrics.setLockoutState]

/-- An address without an entry has none until it is rejected. -/
theorem effect_keeps_none (request : AuthRequest) (entries entries' : Entries)
    (metrics : Metrics) (outcome : AuthOutcome) (after : Cells) (ip : IpAddr)
    (h : state.Effect crates request entries metrics outcome after)
    (hafter : after.lockout = .available entries') (hnone : entries.lookup ip = none)
    (hrejects : state.rejects crates request = true → state.requestIp request ≠ ip) :
    entries'.lookup ip = none := by
  by_cases hip : ip = state.requestIp request
  · cases h with
    | closed hclosed =>
      cases hafter
      exact hnone
    | rejected message result counted hopen hrejected hrecord =>
      exact absurd hip.symm (hrejects (by simp [rejects, hopen, hrejected]))
    | panicked panic hopen hrejected hrecord => cases hafter
    | granted outcome counts haccepted houtcome =>
      cases hafter
      have hcleared : (state.authLockout.recordSuccess entries
          (state.requestIp request)).lookup ip = none := by
        by_cases henabled : state.authLockout.isEnabled = true
        · rw [hip]
          exact state.authLockout.recordSuccess_self entries _ henabled
        · unfold AuthLockout.recordSuccess
          rw [if_pos (by simp [henabled])]
          exact hnone
      rcases refreshed_keptOrDropped state _ request.refreshes ip with hsame | ⟨own, _, hgone, _⟩
      · rw [hsame, hcleared]
      · exact hgone
  · rcases effect_other state crates request entries entries' metrics outcome after ip h hafter hip
      with hsame | ⟨own, _, hgone, _⟩
    · rw [hsame, hnone]
    · exact hgone

theorem authRun_keeps_none (between late : List AuthEvent) (next : AuthEvent)
    (requests : List AuthRequest) (entries last : Entries) (metrics : Metrics) (ip : IpAddr)
    (h : (state.authRun crates ⟨.available entries, metrics⟩ requests).1 =
      between ++ next :: late)
    (hrejects : ∀ event ∈ between, state.rejects crates event.request = true →
      state.requestIp event.request ≠ ip)
    (hnone : entries.lookup ip = none) (hlast : next.before.lockout = .available last) :
    last.lookup ip = none := by
  induction between generalizing requests entries metrics with
  | nil =>
    cases requests with
    | nil => cases h
    | cons request rest =>
      cases h
      cases hlast
      exact hnone
  | cons first more ih =>
    cases requests with
    | nil => cases h
    | cons request rest =>
      simp only [authRun, List.cons_append, List.cons.injEq] at h
      obtain ⟨rfl, htail⟩ := h
      obtain ⟨hfirst, hmore⟩ := List.forall_mem_cons.mp hrejects
      have heffect := authenticate_effect state crates entries metrics request
      cases hmid : (state.authenticate crates ⟨.available entries, metrics⟩ request).2.lockout with
      | poisoned =>
        have hpoisoned := authRun_invariant state crates (fun cells => cells.lockout = .poisoned)
          (fun _ => True) (fun cells r _ hcells => authenticate_poisoned state crates cells r hcells)
          rest _ hmid (fun _ _ => trivial) next (by rw [htail]; simp)
        rw [hlast] at hpoisoned
        cases hpoisoned
      | available mid =>
        have hkept := effect_keeps_none state crates request entries mid metrics _ _ ip heffect
          hmid hnone hfirst
        have hcells : (state.authenticate crates ⟨.available entries, metrics⟩ request).2 =
            ⟨.available mid,
              (state.authenticate crates ⟨.available entries, metrics⟩ request).2.metrics⟩ := by
          rw [← hmid]
        rw [hcells] at htail
        exact ih rest mid _ htail hmore hkept

/-- The first failure of an address without an entry opens a window. -/
theorem opensWindow_of_none (lockout : AuthLockout) (entries : Entries) (ip : IpAddr)
    (now : Instant) (henabled : lockout.isEnabled = true) (hnone : entries.lookup ip = none) :
    OpensWindow lockout entries ip now := by
  intro result counted hrecord hroom
  obtain ⟨own, hfail, hown⟩ := lockout.recordFailureAt_self entries counted ip now result henabled
    hroom hrecord
  obtain ⟨hresult, hone, hstart, hseen⟩ := lockout.failEntry_opens_window (entries.lookup ip) own
    now result henabled (by
      intro state hstate
      rw [hnone] at hstate
      cases hstate) hfail
  exact ⟨hresult, own, hown, hone, hstart, hseen⟩

/-- A table that is open to requests, and steady. -/
def SteadyCells (cells : Cells) : Prop :=
  ∃ entries, cells.lockout = .available entries ∧ Steady state.authLockout entries

theorem steady_freshCells : state.SteadyCells freshCells := by
  refine ⟨∅, rfl, ?_, fun _ => rfl⟩
  intro ip own hown
  cases hown

/-- A request whose lock ends in range keeps the table steady. -/
theorem authenticate_steady (cells : Cells) (request : AuthRequest)
    (hlock : state.authLockout.isEnabled = true →
      state.authLockout.LockEnds request.clock.failure) (hcells : state.SteadyCells cells) :
    state.SteadyCells (state.authenticate crates cells request).2 := by
  obtain ⟨cell, metrics⟩ := cells
  obtain ⟨entries, hcell, hentries⟩ := hcells
  dsimp only at hcell
  subst hcell
  obtain ⟨entries', hanswered, hnext⟩ := effect_answered state crates
    ⟨request, ⟨.available entries, metrics⟩, _, _⟩ entries hentries hlock rfl
    (authenticate_effect state crates entries metrics request)
  exact ⟨entries', hanswered.after, hnext⟩

/-- Every table of a run whose locks all end in range is steady. -/
theorem authRun_steady (requests : List AuthRequest)
    (hends : state.authLockout.isEnabled = true →
      ∀ request ∈ requests, state.authLockout.LockEnds request.clock.failure) :
    ∀ event ∈ (state.authRun crates freshCells requests).1, state.SteadyCells event.before :=
  authRun_invariant state crates state.SteadyCells _ (authenticate_steady state crates)
    requests freshCells state.steady_freshCells
    (fun request hmem henabled => hends henabled request hmem)

/-- Runs whose locks all end in range answer every request and count every
rejection once. -/
theorem countsOnce_of_lockEnds (requests : List AuthRequest)
    (hends : state.authLockout.isEnabled = true →
      ∀ request ∈ requests, state.authLockout.LockEnds request.clock.failure) :
    state.CountsOnce crates requests := by
  have hanswered : ∀ event ∈ (state.authRun crates freshCells requests).1,
      ∃ entries entries', state.Answered crates event entries entries' := by
    intro event hevent
    obtain ⟨entries, hbefore, hentries⟩ := authRun_steady state crates requests hends event hevent
    obtain ⟨hmem, _⟩ := event_authenticate state crates requests freshCells event hevent
    obtain ⟨entries', hanswered, _⟩ := effect_answered state crates event entries hentries
      (fun henabled => hends henabled event.request hmem) hbefore
      (event_effect state crates requests freshCells event entries hevent hbefore)
    exact ⟨entries, entries', hanswered⟩
  have htallied : ∀ event ∈ (state.authRun crates freshCells requests).1,
      state.Tallied crates event := by
    intro event hevent
    obtain ⟨entries, hbefore, _⟩ := authRun_steady state crates requests hends event hevent
    exact effect_tallied state crates event entries hbefore
      (event_effect state crates requests freshCells event entries hevent hbefore)
  refine ⟨hanswered, ?_, ?_, ?_, ?_, ?_⟩
  · intro henabled early accepted between next late entries hlog hgranted hip hrejects hbefore
    obtain ⟨earlier, cleared, haccepted⟩ := hanswered accepted (by rw [hlog]; simp)
    obtain ⟨hnone, _⟩ := haccepted.cleared (haccepted.accepted.mp hgranted)
    obtain ⟨rest, hrest⟩ := authRun_after state crates requests freshCells accepted early _ hlog
    have hcells : accepted.after = ⟨.available cleared, accepted.after.metrics⟩ := by
      rw [← haccepted.after]
    rw [hcells] at hrest
    rw [hip]
    exact opensWindow_of_none state.authLockout entries _ _ henabled
      (authRun_keeps_none state crates between late next rest cleared entries _ _ hrest.symm
        hrejects hnone hbefore)
  · rw [authRun_count state crates Metrics.authFailedTotal _ requests freshCells
      (fun event hevent => (htallied event hevent).failed)]
    exact Nat.zero_add _
  · rw [authRun_count state crates Metrics.authLockoutsTotal _ requests freshCells
      (fun event hevent => (htallied event hevent).lockouts)]
    exact Nat.zero_add _
  · rw [authRun_count state crates Metrics.authLockedRequestsTotal _ requests freshCells
      (fun event hevent => (htallied event hevent).lockedRequests)]
    exact Nat.zero_add _
  · rw [authRun_count state crates Metrics.authLockoutEntryLimitTotal _ requests freshCells
      (fun event hevent => (htallied event hevent).entryLimit)]
    exact Nat.zero_add _

end AppState

/-- A request without credentials, at one instant. -/
def unpresented (now : Instant) : AuthRequest :=
  ⟨.bridge, fun _ => none, .v4 0, ⟨now, now⟩, now⟩

namespace AppState

variable (state : AppState) (crates : Crates)

theorem readings_unpresented (now t : Instant) (h : t ∈ (unpresented now).readings) : t = now := by
  simpa [AuthRequest.readings, AuthRequest.refreshes, unpresented] using h

theorem rejects_unpresented (now : Instant) : state.rejects crates (unpresented now) = true := rfl

/-- A snapshot keeps what was just counted. -/
theorem snapshotAt_countedAt (lockout : AuthLockout) (entries : Entries) (ip : IpAddr)
    (now : Instant) (failures : Usize) (hwindow : 0 < lockout.failureWindow.nanos)
    (hlook : entries.lookup ip = some (AuthLockout.countedAt now failures)) :
    (lockout.snapshotAt entries now).2.lookup ip =
      some (AuthLockout.countedAt now failures) := by
  have hfresh : ¬(AuthLockout.countedAt now failures).isStale now lockout.failureWindow = true := by
    show ¬decide (lockout.failureWindow ≤ now.durationSince now) = true
    rw [decide_eq_true_eq, Instant.le_durationSince]
    omega
  rcases lockout.snapshotAt_other entries now ip with hsame | ⟨own, hown, hstale, _⟩
  · rw [hsame, hlook]
  · rw [hlook, Option.some.injEq] at hown
    rw [← hown] at hstale
    exact absurd hstale hfresh

/-- A run that ends in a request without credentials ends in its rejection. -/
theorem authRun_unpresented (cells : Cells) (early : List AuthRequest) (now : Instant)
    (entries : Entries) (h : (state.authRun crates cells early).2.lockout = .available entries) :
    ∃ metrics message, (state.authRun crates cells (early ++ [unpresented now])).2 =
      (state.reject ⟨.available entries, metrics⟩ (state.requestIp (unpresented now))
        (unpresented now).clock message :
          Step (Except ApiError (Option AuthRoute))).2 := by
  rw [authRun_append]
  generalize (state.authRun crates cells early).2 = before at h ⊢
  obtain ⟨cell, metrics⟩ := before
  dsimp only at h
  subst h
  obtain ⟨message, hreject⟩ := authenticate_rejects state crates ⟨.available entries, metrics⟩
    (unpresented now) rfl rfl
  exact ⟨metrics, message, by simp only [authRun, hreject]⟩

/-- Below the maximum, requests without credentials are counted one by one. -/
theorem authRun_countedAt (now : Instant) (henabled : state.authLockout.isEnabled = true)
    (hwindow : 0 < state.authLockout.failureWindow.nanos)
    (hentries : 0 < state.authLockout.maxEntries.val) (n : ℕ)
    (hn : n < state.authLockout.maxFailures.val) :
    ∃ entries failures,
      (state.authRun crates freshCells (List.replicate n (unpresented now))).2.lockout =
        .available entries ∧ failures.val = n ∧
      state.authLockout.HasRoom entries (state.requestIp (unpresented now)) ∧
      (entries.lookup (state.requestIp (unpresented now))).getD (AuthState.new now) =
        AuthLockout.countedAt now failures := by
  induction n with
  | zero => exact ⟨∅, 0, rfl, rfl, Or.inl hentries, rfl⟩
  | succ n ih =>
    obtain ⟨entries, failures, hrun, hval, hroom, hown⟩ := ih (by omega)
    have hlt := state.authLockout.maxFailures.isLt
    obtain ⟨next, hnext⟩ : ∃ next : Usize, next.val = n + 1 := ⟨⟨n + 1, by omega⟩, rfl⟩
    have hrecord := state.authLockout.recordFailureAt_countedAt entries
      (state.requestIp (unpresented now)) now failures next henabled (fun _ => hwindow) hroom hown
      (by omega) (by rw [Fin.lt_def]; omega)
    have hlook := snapshotAt_countedAt state.authLockout
      (entries.insert (state.requestIp (unpresented now)) (AuthLockout.countedAt now next))
      (state.requestIp (unpresented now)) now next hwindow (AList.lookup_insert entries)
    refine ⟨_, next, ?_, hnext, Or.inr (Table.mem_of_lookup _ _ _ hlook), by rw [hlook]; rfl⟩
    obtain ⟨metrics, message, hend⟩ :=
      authRun_unpresented state crates freshCells _ now entries hrun
    rw [List.replicate_succ', hend,
      reject_recorded state entries _ metrics _ (unpresented now).clock message .tracked hrecord]
    rfl

/-- Where locks would end outside the clock's range, the failure before the lock
leaves entries in which the next one overflows. -/
theorem authRun_overflows (now : Instant) (henabled : state.authLockout.isEnabled = true)
    (hwindow : 0 < state.authLockout.failureWindow.nanos)
    (hentries : 0 < state.authLockout.maxEntries.val)
    (hends : ¬state.authLockout.LockEnds now) :
    ∃ n entries, state.authLockout.maxFailures.val = n + 1 ∧
      (state.authRun crates freshCells (List.replicate n (unpresented now))).2.lockout =
        .available entries ∧
      state.authLockout.recordFailureAt entries (state.requestIp (unpresented now)) now =
        .error .instantOverflow := by
  have hpos : 0 < state.authLockout.maxFailures := of_decide_eq_true henabled
  rw [Fin.lt_def] at hpos
  obtain ⟨n, hn⟩ : ∃ n, state.authLockout.maxFailures.val = n + 1 :=
    Nat.exists_eq_add_one_of_ne_zero (Nat.ne_of_gt hpos)
  obtain ⟨entries, failures, hrun, hval, hroom, hown⟩ :=
    authRun_countedAt state crates now henabled hwindow hentries n (by omega)
  exact ⟨n, entries, hn, hrun, state.authLockout.recordFailureAt_overflows entries
    (state.requestIp (unpresented now)) now failures henabled (fun _ => hwindow) hroom hown
    (by omega) hends⟩

/-- The request that takes a lock which would end outside the clock's range is
not answered. -/
theorem not_countsOnce (now : Instant) (henabled : state.authLockout.isEnabled = true)
    (hwindow : 0 < state.authLockout.failureWindow.nanos)
    (hentries : 0 < state.authLockout.maxEntries.val)
    (hends : ¬state.authLockout.LockEnds now) :
    ¬state.CountsOnce crates
      (List.replicate state.authLockout.maxFailures.val (unpresented now)) := by
  intro hcounts
  obtain ⟨n, entries, hn, hrun, hrecord⟩ :=
    authRun_overflows state crates now henabled hwindow hentries hends
  have hlast := hcounts.answered
  rw [hn, List.replicate_succ', authRun_append] at hlast
  obtain ⟨before, after, hanswered⟩ := hlast _ (List.mem_append_right _ List.mem_cons_self)
  have hbefore := hanswered.before
  dsimp only at hbefore
  rw [hrun] at hbefore
  cases hbefore
  obtain ⟨result, counted, error, hok, _⟩ := hanswered.rejected
    (rejects_unpresented state crates now)
  have hbad := hrecord.symm.trans hok
  cases hbad

theorem new_authLockout (openClient : String → Except String Unit) (config : Bridge)
    (h : new openClient config = .ok state) : state.authLockout = config.lockout := by
  simp only [new, Fallible.bind_eq_ok, Fallible.pure_eq_ok] at h
  obtain ⟨_, _, _, _, rfl⟩ := h
  rfl

/-- Where the lockout is enabled and not every lock ends inside the clock's range,
some reading overflows. -/
theorem exists_overflow (crates : Crates) (env : Env) (bridge : Bridge)
    (openClient : String → Except String Unit) (state : AppState)
    (henv : Bridge.fromEnv crates env = .ok bridge) (hnew : new openClient bridge = .ok state)
    (clock : Set Instant)
    (h : ¬(bridge.authLockoutFailures = 0 ∨
      ∀ now ∈ clock, now.nanos + bridge.authLockoutDuration.nanos < 2 ^ 63 * 10 ^ 9)) :
    ∃ now ∈ clock, state.authLockout.isEnabled = true ∧
      0 < state.authLockout.failureWindow.nanos ∧ 0 < state.authLockout.maxEntries.val ∧
      ¬state.authLockout.LockEnds now := by
  rw [not_or] at h
  obtain ⟨hfailures, hends⟩ := h
  push Not at hends
  obtain ⟨now, hnow, hlate⟩ := hends
  obtain ⟨henabled, hwindow, hentries⟩ :=
    AuthLockout.enabled_of_fromEnv crates env bridge henv hfailures
  rw [new_authLockout state openClient bridge hnew]
  exact ⟨now, hnow, henabled, hwindow, hentries, not_lt.mpr hlate⟩

theorem lockEnds_of_bounded (bridge : Bridge) (openClient : String → Except String Unit)
    (state : AppState) (hnew : new openClient bridge = .ok state) (clock : Set Instant)
    (h : bridge.authLockoutFailures = 0 ∨
      ∀ now ∈ clock, now.nanos + bridge.authLockoutDuration.nanos < 2 ^ 63 * 10 ^ 9)
    (henabled : state.authLockout.isEnabled = true) :
    ∀ now ∈ clock, state.authLockout.LockEnds now := by
  rw [new_authLockout state openClient bridge hnew] at henabled ⊢
  have hpos : 0 < bridge.authLockoutFailures := of_decide_eq_true henabled
  rcases h with hzero | hall
  · exact absurd hzero (Fin.pos_iff_ne_zero.mp hpos)
  · exact hall

/-- For the clock readings of a set, every run of requests against an accepted
configuration answers every request and counts every rejection once, exactly
when the lockout is disabled or every lock taken at one of these readings ends
inside the clock's range. -/
theorem counts_once_iff_lock_ends (crates : Crates) (env : Env) (bridge : Bridge)
    (openClient : String → Except String Unit) (state : AppState)
    (henv : Bridge.fromEnv crates env = .ok bridge) (hnew : new openClient bridge = .ok state)
    (clock : Set Instant) :
    (∀ requests : List AuthRequest, (∀ request ∈ requests, ∀ now ∈ request.readings, now ∈ clock) →
      state.CountsOnce crates requests) ↔
      bridge.authLockoutFailures = 0 ∨
        ∀ now ∈ clock, now.nanos + bridge.authLockoutDuration.nanos < 2 ^ 63 * 10 ^ 9 := by
  constructor
  · intro hall
    by_contra hcondition
    obtain ⟨now, hnow, henabled, hwindow, hentries, hoverflow⟩ :=
      exists_overflow crates env bridge openClient state henv hnew clock hcondition
    apply not_countsOnce state crates now henabled hwindow hentries hoverflow
    apply hall
    intro request hrequest t ht
    rw [List.eq_of_mem_replicate hrequest] at ht
    rw [readings_unpresented now t ht]
    exact hnow
  · intro hcondition requests hreadings
    apply countsOnce_of_lockEnds state crates requests
    intro henabled request hrequest
    exact lockEnds_of_bounded bridge openClient state hnew clock hcondition henabled _
      (hreadings request hrequest _ List.mem_cons_self)

/-- The default lockout of five minutes, on a clock that reads up to 2^32 seconds. -/
theorem counts_once_brief_lock : ∃ bridge state,
    Bridge.fromEnv abcCrates briefLock = .ok bridge ∧
    new (fun _ => .ok ()) bridge = .ok state ∧
    ∀ requests : List AuthRequest, (∀ request ∈ requests, ∀ now ∈ request.readings,
      now ∈ {t | t ≤ Instant.ofSecs 4294967295}) → state.CountsOnce abcCrates requests := by
  obtain ⟨bridge, state, hbridge, hnew, hduration⟩ : ∃ bridge state,
      Bridge.fromEnv abcCrates briefLock = .ok bridge ∧
      new (fun _ => .ok ()) bridge = .ok state ∧
        bridge.authLockoutDuration = Duration.fromSecs 300 := ⟨_, _, rfl, rfl, rfl⟩
  refine ⟨bridge, state, hbridge, hnew, (counts_once_iff_lock_ends abcCrates briefLock bridge
    (fun _ => .ok ()) state hbridge hnew _).mpr ?_⟩
  right
  intro now hnow
  exact brief_lock_ends bridge hduration now hnow

/-- With a lockout of 2^64 - 1 seconds, the first rejection panics, and the valid
token of another address is not accepted any more. -/
theorem valid_token_lost : ∃ bridge state,
    Bridge.fromEnv abcCrates endlessLock = .ok bridge ∧
    new (fun _ => .ok ()) bridge = .ok state ∧
    (state.authRun abcCrates freshCells [unpresented (.ofSecs 0),
        ⟨.bridge, bearerAbc, .v4 2, ⟨.ofSecs 1, .ofSecs 1⟩, .ofSecs 1⟩]).1.map
      AuthEvent.outcome = [.error .instantOverflow, .error .mutexPoisoned] ∧
    state.credentials.accept abcCrates .bridge (bearerAbc "authorization") = true ∧
    ¬state.CountsOnce abcCrates [unpresented (.ofSecs 0)] := by
  obtain ⟨bridge, state, hbridge, hnew, hrun, haccept, henabled, hwindow, hentries, hends, hmax⟩ :
      ∃ bridge state, Bridge.fromEnv abcCrates endlessLock = .ok bridge ∧
      new (fun _ => .ok ()) bridge = .ok state ∧
      (state.authRun abcCrates freshCells [unpresented (.ofSecs 0),
          ⟨.bridge, bearerAbc, .v4 2, ⟨.ofSecs 1, .ofSecs 1⟩, .ofSecs 1⟩]).1.map
        AuthEvent.outcome = [.error .instantOverflow, .error .mutexPoisoned] ∧
      state.credentials.accept abcCrates .bridge (bearerAbc "authorization") = true ∧
      state.authLockout.isEnabled = true ∧ 0 < state.authLockout.failureWindow.nanos ∧
      0 < state.authLockout.maxEntries.val ∧
      ¬(Instant.ofSecs 0).nanos + state.authLockout.lockoutDuration.nanos < 2 ^ 63 * 10 ^ 9 ∧
      state.authLockout.maxFailures.val = 1 :=
    ⟨_, _, rfl, rfl, rfl, by decide, by decide, by decide, by decide, by decide, rfl⟩
  have hfails := not_countsOnce state abcCrates (.ofSecs 0) henabled hwindow hentries hends
  rw [hmax] at hfails
  exact ⟨bridge, state, hbridge, hnew, hrun, haccept, hfails⟩

end AppState

end RedisBridge.App
