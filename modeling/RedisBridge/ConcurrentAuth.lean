import RedisBridge.AuthRuns
import RedisBridge.SharedThreads

/-!
Requests that authenticate side by side. The lockout table is held for one call
at a time; the clock is read before the table is taken, each counter and each
gauge is moved by itself, and between any two of these steps other requests go
on and time passes. What the credentials come to is settled without the table.
A request that nothing interrupts does what authentication does at once.
-/
namespace RedisBridge.App

open ClientAddress Instants IpAddress Lockout Responses RustText SharedThreads Targets
open TransitionRuns

/-- A request as it arrives at a door. -/
structure Arrival where
  door : Door
  headers : HeaderMap
  peer : IpAddr

/-- What the credentials of a request come to. -/
inductive Verdict
  | closed
  | rejected (message : String)
  | granted (result : Except ApiError (Option AuthRoute))

/-- What a door makes of an accepted token. -/
def Door.passes (route : AuthRoute) : Door → Except ApiError (Option AuthRoute)
  | .bridge => .ok (some route)
  | .command =>
      if route.allowsCommandRoute = false then
        .error (.forbidden "Bearer token is not allowed to access command routes")
      else .ok (some route)
  | .realtime =>
      if route.allowsRealtime = false then
        .error (.forbidden "Bearer token is not allowed to access realtime routes")
      else .ok (some route)
  | .metrics => .ok none

/-- Where a request is in its authentication. -/
inductive Place
  | deciding
  | reading
  | recording (now : Instant)
  | counting (result : AuthFailure)
  | clearing
  | refreshing
  | surveying (now : Instant)
  | showingTracked (counts : AuthSnapshot)
  | showingLocked (counts : AuthSnapshot)
  | answered
  | panicked (panic : Panic)

/-- A request with its local variables: what its failure was recorded as, and
how many refreshes of the gauges it has still to make. -/
structure Attempt where
  ip : IpAddr
  verdict : Verdict
  recorded : Option AuthFailure
  refreshes : ℕ
  place : Place

namespace Attempt

def goTo (attempt : Attempt) (place : Place) : Attempt := { attempt with place := place }

/-- What the request is answered. -/
def answer (attempt : Attempt) : Except ApiError (Option AuthRoute) :=
  match attempt.verdict with
  | .closed => .error (.unauthorized "Metrics authentication is not configured")
  | .rejected message => .error (AppState.rejection message (attempt.recorded.getD .tracked))
  | .granted result => result

/-- How the request has left, once it has. -/
def left (attempt : Attempt) : Option AuthOutcome :=
  match attempt.place with
  | .answered => some (.ok attempt.answer)
  | .panicked panic => some (.error panic)
  | _ => none

/-- The call on the table that the next step of the request makes. -/
def tableCall (attempt : Attempt) : Option Call :=
  match attempt.place with
  | .recording now => some (.failure attempt.ip now)
  | .clearing => some (.success attempt.ip)
  | .surveying now => some (.snapshot now)
  | _ => none

end Attempt

/-- What the requests share, with the clock that all of them read. -/
structure Hall where
  cells : Cells
  clock : Instant

namespace Hall

def setMetrics (hall : Hall) (metrics : Metrics) : Hall :=
  { hall with cells := { hall.cells with metrics := metrics } }

end Hall

namespace AppState

def showTracked (metrics : Metrics) (counts : AuthSnapshot) : Metrics :=
  { metrics with authLockoutTrackedIps := counts.trackedIps }

def showLocked (metrics : Metrics) (counts : AuthSnapshot) : Metrics :=
  { metrics with authLockoutLockedIps := counts.lockedIps }

variable (state : AppState) (crates : Crates)

def verdict (arrival : Arrival) : Verdict :=
  match arrival.door with
  | .metrics =>
      match state.metricsToken with
      | none => .closed
      | some metricsToken =>
          match presentedToken arrival.headers with
          | none => .rejected "Invalid authorization header"
          | some token =>
              if asBytes metricsToken ≠ asBytes token then .rejected "Invalid token"
              else .granted (.ok none)
  | door =>
      match presentedToken arrival.headers with
      | none => .rejected "Invalid authorization header"
      | some token =>
          match state.tokenRoutes.lookup (state.tokenDigest crates token) with
          | none => .rejected "Invalid token"
          | some route => .granted (door.passes route)

/-- A request enters before any of its steps. The metrics route refreshes the
gauges once more before it renders them. -/
def attempt (arrival : Arrival) : Attempt where
  ip := state.clientIp arrival.headers arrival.peer
  verdict := state.verdict crates arrival
  recorded := none
  refreshes := if arrival.door = .metrics ∧
    state.verdict crates arrival matches .granted _ then 2 else 1
  place := .deciding

/-- The request goes on after a call on the table, unless that panicked. -/
def afterLock {β : Type} (hall : Hall) (attempt : Attempt) (outcome : Step β)
    (next : β → Attempt) : Hall × Attempt :=
  match outcome with
  | (.ok result, cells) => ({ hall with cells := cells }, next result)
  | (.error panic, cells) => ({ hall with cells := cells }, attempt.goTo (.panicked panic))

/-- One step of a request. -/
def moveAttempt (hall : Hall) (attempt : Attempt) : Option (Hall × Attempt) :=
  match attempt.place with
  | .deciding =>
      match attempt.verdict with
      | .closed => some (hall, attempt.goTo .answered)
      | .rejected _ =>
          some (hall.setMetrics hall.cells.metrics.authFailed, attempt.goTo .reading)
      | .granted _ => some (hall, attempt.goTo .clearing)
  | .reading => some (hall, attempt.goTo (.recording hall.clock))
  | .recording now =>
      some (afterLock hall attempt (state.recordFailure hall.cells attempt.ip now)
        (fun result => { attempt with recorded := some result, place := .counting result }))
  | .counting result =>
      some (hall.setMetrics (countRejection hall.cells.metrics result), attempt.goTo .refreshing)
  | .clearing =>
      some (afterLock hall attempt (state.recordSuccess hall.cells attempt.ip)
        (fun _ => attempt.goTo .refreshing))
  | .refreshing => some (hall, attempt.goTo (.surveying hall.clock))
  | .surveying now =>
      some (afterLock hall attempt (state.snapshot hall.cells now)
        (fun counts => attempt.goTo (.showingTracked counts)))
  | .showingTracked counts =>
      some (hall.setMetrics (showTracked hall.cells.metrics counts),
        attempt.goTo (.showingLocked counts))
  | .showingLocked counts =>
      some (hall.setMetrics (showLocked hall.cells.metrics counts),
        if 1 < attempt.refreshes then
          { attempt with refreshes := attempt.refreshes - 1, place := .refreshing }
        else attempt.goTo .answered)
  | .answered => none
  | .panicked _ => none

/-- The clock never goes back. -/
def passTime (hall : Hall) (later : Instant) : Option Hall :=
  if hall.clock ≤ later then some { hall with clock := later } else none

/-- Requests side by side. -/
def authProgram : Program Hall Attempt Arrival Unit Instant where
  enter := state.attempt crates
  move := fun hall attempt _ => state.moveAttempt hall attempt
  drift := passTime

end AppState

/-! A request that nothing interrupts. -/

/-- What a door makes of the route of an accepted token. -/
def Door.enter (door : Door) (result : Except ApiError AuthRoute) :
    Except ApiError (Option AuthRoute) :=
  match result with
  | .error error => .error error
  | .ok route => door.passes route

/-- A request without its clock readings. -/
def AuthRequest.arrival (request : AuthRequest) : Arrival :=
  ⟨request.door, request.headers, request.peer⟩

@[simp] theorem Step.ok_andThen {α β : Type} (a : α) (cells : Cells)
    (next : α → Cells → Step β) : Step.andThen (.ok a, cells) next = next a cells := rfl

theorem Step.andThen_assoc {α β γ : Type} (step : Step α) (next : α → Cells → Step β)
    (last : β → Cells → Step γ) :
    (step.andThen next).andThen last =
      step.andThen fun a cells => (next a cells).andThen last := by
  obtain ⟨result, cells⟩ := step
  cases result with
  | error panic => rfl
  | ok a => rfl

namespace AppState

variable (state : AppState) (crates : Crates)

/-- The refreshes that follow an acceptance, in order. -/
def refreshAll (cells : Cells) : List Instant → Step Unit
  | [] => (.ok (), cells)
  | now :: rest =>
      (state.refreshLockoutMetrics cells now).andThen fun _ cells => refreshAll cells rest

/-- What an accepted request does. -/
def grant (cells : Cells) (ip : IpAddr) (readings : List Instant)
    (result : Except ApiError (Option AuthRoute)) :
    Step (Except ApiError (Option AuthRoute)) :=
  (state.recordSuccess cells ip).andThen fun _ cells =>
    (state.refreshAll cells readings).andThen fun _ cells => (.ok result, cells)

theorem accept_andThen {α : Type} (cells : Cells) (ip : IpAddr) (clock : Readings) (found : α)
    (next : Except ApiError α → Cells → Step (Except ApiError (Option AuthRoute)))
    (result : Except ApiError (Option AuthRoute))
    (hnext : ∀ cells, next (.ok found) cells = (.ok result, cells)) :
    (state.accept cells ip clock found).andThen next =
      state.grant cells ip [clock.snapshot] result := by
  unfold accept grant refreshAll
  rw [Step.andThen_assoc]
  congr 1
  funext _ cleared
  rw [Step.andThen_assoc, Step.andThen_assoc]
  congr 1
  funext _ refreshed
  exact hnext refreshed

theorem bridgeAuth_eq (cells : Cells) (headers : HeaderMap) (ip : IpAddr) (clock : Readings) :
    state.bridgeAuth crates cells headers ip clock =
      match presentedToken headers with
      | none => state.reject cells ip clock "Invalid authorization header"
      | some token =>
          match state.tokenRoutes.lookup (state.tokenDigest crates token) with
          | none => state.reject cells ip clock "Invalid token"
          | some route => state.accept cells ip clock route := by
  unfold bridgeAuth bearerToken
  cases presentedToken headers with
  | none =>
    dsimp only
    unfold reject
    rw [Step.andThen_assoc]
    rfl
  | some token => rfl

theorem authenticate_eq_enter (cells : Cells) (request : AuthRequest)
    (hdoor : request.door ≠ .metrics) :
    state.authenticate crates cells request =
      (state.bridgeAuth crates cells request.headers (state.requestIp request)
        request.clock).andThen fun result cells => (.ok (request.door.enter result), cells) := by
  obtain ⟨door, headers, peer, clock, scrape⟩ := request
  have hroute (allows : AuthRoute → Bool) (message : String)
      (hpasses : ∀ route, door.passes route =
        if allows route = false then .error (.forbidden message) else .ok (some route)) :
      (state.routeAuth crates cells headers (state.clientIp headers peer) clock allows
          message).andThen (fun result cells => (.ok (result.map some), cells)) =
        (state.bridgeAuth crates cells headers (state.clientIp headers peer) clock).andThen
          fun result cells => (.ok (door.enter result), cells) := by
    unfold routeAuth
    rw [Step.andThen_assoc]
    congr 1
    funext result cells'
    cases result with
    | error error => rfl
    | ok route =>
      change Step.andThen (if allows route = false then _ else _) _ = (.ok (door.passes route), _)
      rw [hpasses]
      split
      · rfl
      · rfl
  cases door with
  | bridge =>
    simp only [authenticate]
    congr 1
    funext result cells'
    cases result with
    | error error => rfl
    | ok route => rfl
  | command => exact hroute _ _ (fun _ => rfl)
  | realtime => exact hroute _ _ (fun _ => rfl)
  | metrics => exact absurd rfl hdoor

/-- Authentication at a door settles the credentials first. -/
theorem authenticate_eq_verdict (cells : Cells) (request : AuthRequest) :
    state.authenticate crates cells request =
      match state.verdict crates request.arrival with
      | .closed =>
          (.ok (.error (.unauthorized "Metrics authentication is not configured")), cells)
      | .rejected message =>
          state.reject cells (state.requestIp request) request.clock message
      | .granted result =>
          state.grant cells (state.requestIp request) request.refreshes result := by
  have hdoor : request.door ≠ .metrics → state.verdict crates request.arrival =
      match presentedToken request.headers with
      | none => .rejected "Invalid authorization header"
      | some token =>
          match state.tokenRoutes.lookup (state.tokenDigest crates token) with
          | none => .rejected "Invalid token"
          | some route => .granted (request.door.passes route) := by
    intro hne
    obtain ⟨door, headers, peer, clock, scrape⟩ := request
    cases door with
    | metrics => exact absurd rfl hne
    | _ => rfl
  by_cases hne : request.door = .metrics
  · obtain ⟨door, headers, peer, clock, scrape⟩ := request
    obtain rfl : door = .metrics := hne
    simp only [authenticate, metricsAuth, verdict, AuthRequest.arrival, bearerToken, requestIp]
    cases state.metricsToken with
    | none => rfl
    | some metricsToken =>
      dsimp only
      cases presentedToken headers with
      | none =>
        rw [Step.andThen_assoc]
        exact reject_andThen state cells _ _ _ _ (fun _ _ => rfl)
      | some token =>
        dsimp only
        by_cases hwrong : asBytes metricsToken ≠ asBytes token
        · rw [if_pos hwrong]
          simp only [Step.ok_andThen, if_pos hwrong]
          exact reject_andThen state cells _ _ _ _ (fun _ _ => rfl)
        · rw [if_neg hwrong]
          simp only [Step.ok_andThen, if_neg hwrong, accept, grant, AuthRequest.refreshes,
            if_true, refreshAll, Step.andThen_assoc]
  · rw [hdoor hne, authenticate_eq_enter state crates cells request hne, bridgeAuth_eq]
    cases presentedToken request.headers with
    | none => exact reject_andThen state cells _ _ _ _ (fun _ _ => rfl)
    | some token =>
      dsimp only
      cases state.tokenRoutes.lookup (state.tokenDigest crates token) with
      | none => exact reject_andThen state cells _ _ _ _ (fun _ _ => rfl)
      | some route =>
        have hrefreshes : request.refreshes = [request.clock.snapshot] := if_neg hne
        rw [hrefreshes]
        exact state.accept_andThen cells _ _ route _ _ (fun _ => rfl)

variable {state crates}

/-- A step of a request that goes on alone. -/
theorem alone_move {hall hall' : Hall} {attempt attempt' : Attempt}
    (h : state.moveAttempt hall attempt = some (hall', attempt')) :
    (state.authProgram crates).Alone hall attempt hall' attempt' :=
  .move () h .done

theorem alone_tick {hall : Hall} {attempt : Attempt} {later : Instant}
    (hle : hall.clock ≤ later) :
    (state.authProgram crates).Alone hall attempt { hall with clock := later } attempt :=
  .drift later (if_pos hle) .done

/-- The request after a refresh of the gauges. -/
def refreshedOnce (attempt : Attempt) : Attempt :=
  if 1 < attempt.refreshes then
    { attempt with refreshes := attempt.refreshes - 1, place := .refreshing }
  else attempt.goTo .answered

/-- The request leaves with what some work yields, and the work's cells. -/
def Leaves (state : AppState) (crates : Crates) (hall : Hall) (attempt : Attempt)
    (work : Step (Except ApiError (Option AuthRoute))) : Prop :=
  ∃ clock attempt', (state.authProgram crates).Alone hall attempt ⟨work.2, clock⟩ attempt' ∧
    attempt'.left = some work.1

theorem Leaves.after {hall mid : Hall} {attempt between : Attempt}
    {work : Step (Except ApiError (Option AuthRoute))}
    (hgoes : (state.authProgram crates).Alone hall attempt mid between)
    (h : Leaves state crates mid between work) : Leaves state crates hall attempt work := by
  obtain ⟨clock, attempt', hrest, hleft⟩ := h
  exact ⟨clock, attempt', hgoes.trans hrest, hleft⟩

/-- A call on the table is followed by what comes next, or by a panic. -/
theorem Leaves.call {β : Type} (hall : Hall) (attempt : Attempt) (outcome : Step β)
    (next : β → Attempt) (rest : β → Cells → Step (Except ApiError (Option AuthRoute)))
    (hmove : state.moveAttempt hall attempt = some (afterLock hall attempt outcome next))
    (hrest : ∀ result cells, outcome = (.ok result, cells) →
      Leaves state crates { hall with cells := cells } (next result) (rest result cells)) :
    Leaves state crates hall attempt (outcome.andThen rest) := by
  obtain ⟨result, cells⟩ := outcome
  cases result with
  | ok result => exact (hrest result cells rfl).after (alone_move hmove)
  | error panic => exact ⟨hall.clock, _, alone_move hmove, rfl⟩

/-- One refresh of the gauges: the clock, the table, then one gauge at a time. -/
theorem leaves_refresh (hall : Hall) (attempt : Attempt) (now : Instant)
    (rest : Cells → Step (Except ApiError (Option AuthRoute)))
    (hplace : attempt.place = .refreshing) (hle : hall.clock ≤ now)
    (hrest : ∀ cells, Leaves state crates ⟨cells, now⟩ (refreshedOnce attempt) (rest cells)) :
    Leaves state crates hall attempt
      ((state.refreshLockoutMetrics hall.cells now).andThen fun _ cells => rest cells) := by
  unfold refreshLockoutMetrics
  rw [Step.andThen_assoc]
  have hturn : state.moveAttempt ⟨hall.cells, now⟩ attempt =
      some (⟨hall.cells, now⟩, attempt.goTo (.surveying now)) := by
    rw [moveAttempt, hplace]
  refine Leaves.after (alone_tick hle) (Leaves.after (alone_move hturn) ?_)
  refine Leaves.call ⟨hall.cells, now⟩ (attempt.goTo (.surveying now)) _
    (fun counts => attempt.goTo (.showingTracked counts)) _ rfl ?_
  intro counts cells _
  have htracked : state.moveAttempt ⟨cells, now⟩ (attempt.goTo (.showingTracked counts)) =
      some (⟨{ cells with metrics := showTracked cells.metrics counts }, now⟩,
        attempt.goTo (.showingLocked counts)) := rfl
  have hlocked : state.moveAttempt ⟨{ cells with metrics := showTracked cells.metrics counts }, now⟩
      (attempt.goTo (.showingLocked counts)) =
        some (⟨{ cells with metrics := cells.metrics.setLockoutState counts }, now⟩,
          refreshedOnce attempt) := rfl
  exact Leaves.after (alone_move htracked) (Leaves.after (alone_move hlocked) (hrest _))

/-- The refreshes of a request, as many as it has still to make. -/
theorem leaves_refreshAll (readings : List Instant) (hall : Hall) (attempt : Attempt)
    (hplace : attempt.place = .refreshing) (hcount : attempt.refreshes = readings.length)
    (hordered : (hall.clock :: readings).IsChain (· ≤ ·)) (hsome : readings ≠ []) :
    Leaves state crates hall attempt
      ((state.refreshAll hall.cells readings).andThen fun _ cells =>
        (.ok attempt.answer, cells)) := by
  induction readings generalizing hall attempt with
  | nil => exact absurd rfl hsome
  | cons now rest ih =>
    obtain ⟨hle, hlater⟩ := List.isChain_cons_cons.mp hordered
    simp only [refreshAll, Step.andThen_assoc]
    refine leaves_refresh hall attempt now _ hplace hle ?_
    intro cells
    rw [List.length_cons] at hcount
    cases rest with
    | nil =>
      have hlast : refreshedOnce attempt = attempt.goTo .answered := by
        rw [refreshedOnce, if_neg (by simp [hcount])]
      rw [hlast]
      exact ⟨now, _, .done, rfl⟩
    | cons next rest =>
      have hagain : refreshedOnce attempt =
          { attempt with refreshes := attempt.refreshes - 1, place := .refreshing } := by
        rw [refreshedOnce, if_pos (by simp [hcount])]
      rw [hagain]
      exact ih ⟨cells, now⟩ _ rfl (by simp [hcount]) hlater (List.cons_ne_nil _ _)

theorem reject_eq (cells : Cells) (ip : IpAddr) (clock : Readings) (message : String) :
    state.reject (α := Option AuthRoute) cells ip clock message =
      (state.recordFailure { cells with metrics := cells.metrics.authFailed } ip
          clock.failure).andThen fun result cells =>
        (state.refreshAll { cells with metrics := countRejection cells.metrics result }
          [clock.snapshot]).andThen fun _ cells =>
            (.ok (.error (rejection message result)), cells) := by
  simp only [reject, unauthorized, refreshAll, Step.andThen_assoc, Step.ok_andThen]

theorem leaves_rejected (hall : Hall) (attempt : Attempt) (clock : Readings) (message : String)
    (hplace : attempt.place = .deciding) (hverdict : attempt.verdict = .rejected message)
    (hcount : attempt.refreshes = 1) (hfailure : hall.clock ≤ clock.failure)
    (hsnapshot : clock.failure ≤ clock.snapshot) :
    Leaves state crates hall attempt (state.reject hall.cells attempt.ip clock message) := by
  rw [reject_eq]
  have hdecide : state.moveAttempt hall attempt =
      some (hall.setMetrics hall.cells.metrics.authFailed, attempt.goTo .reading) := by
    rw [moveAttempt, hplace, hverdict]
  refine Leaves.after (alone_move hdecide) (Leaves.after (alone_tick hfailure) ?_)
  have hread : state.moveAttempt
      { hall.setMetrics hall.cells.metrics.authFailed with clock := clock.failure }
      (attempt.goTo .reading) =
        some ({ hall.setMetrics hall.cells.metrics.authFailed with clock := clock.failure },
          attempt.goTo (.recording clock.failure)) := rfl
  refine Leaves.after (alone_move hread) ?_
  refine Leaves.call _ _ _
    (fun result => { attempt with recorded := some result, place := .counting result }) _ rfl ?_
  intro result cells _
  let counted : Attempt := { attempt with recorded := some result, place := .refreshing }
  have hcounting : state.moveAttempt ⟨cells, clock.failure⟩
      { attempt with recorded := some result, place := .counting result } =
        some (⟨{ cells with metrics := countRejection cells.metrics result }, clock.failure⟩,
          counted) := rfl
  have hanswer : counted.answer = .error (rejection message result) := by
    simp only [counted, Attempt.answer, hverdict, Option.getD_some]
  refine Leaves.after (alone_move hcounting) ?_
  rw [← hanswer]
  exact leaves_refreshAll [clock.snapshot] _ counted rfl hcount (by simp [hsnapshot])
    (List.cons_ne_nil _ _)

theorem leaves_granted (hall : Hall) (attempt : Attempt) (readings : List Instant)
    (result : Except ApiError (Option AuthRoute)) (hplace : attempt.place = .deciding)
    (hverdict : attempt.verdict = .granted result)
    (hcount : attempt.refreshes = readings.length)
    (hordered : (hall.clock :: readings).IsChain (· ≤ ·)) (hsome : readings ≠ []) :
    Leaves state crates hall attempt (state.grant hall.cells attempt.ip readings result) := by
  have hdecide : state.moveAttempt hall attempt = some (hall, attempt.goTo .clearing) := by
    rw [moveAttempt, hplace, hverdict]
  have hanswer : attempt.answer = result := by rw [Attempt.answer, hverdict]
  refine Leaves.after (alone_move hdecide) ?_
  refine Leaves.call hall (attempt.goTo .clearing) _ (fun _ => attempt.goTo .refreshing) _ rfl ?_
  intro _ cells _
  rw [← hanswer]
  exact leaves_refreshAll readings { hall with cells := cells } (attempt.goTo .refreshing) rfl
    hcount hordered hsome

variable (state crates)

theorem attempt_leaves (hall : Hall) (request : AuthRequest)
    (hordered : [hall.clock, request.clock.failure, request.clock.snapshot,
      request.scrape].IsChain (· ≤ ·)) :
    Leaves state crates hall (state.attempt crates request.arrival)
      (state.authenticate crates hall.cells request) := by
  simp only [List.isChain_cons_cons, List.isChain_singleton, and_true] at hordered
  obtain ⟨hfailure, hsnapshot, hscrape⟩ := hordered
  have hrefreshes : (state.attempt crates request.arrival).refreshes =
      if request.door = .metrics ∧ state.verdict crates request.arrival matches .granted _
        then 2 else 1 := rfl
  rw [authenticate_eq_verdict]
  cases hverdict : state.verdict crates request.arrival with
  | closed =>
    have hdecide : state.moveAttempt hall (state.attempt crates request.arrival) =
        some (hall, (state.attempt crates request.arrival).goTo .answered) := by
      simp only [moveAttempt, attempt, hverdict]
    refine ⟨hall.clock, _, alone_move hdecide, ?_⟩
    simp only [Attempt.left, Attempt.goTo, Attempt.answer, attempt, hverdict]
  | rejected message =>
    refine leaves_rejected hall _ request.clock message rfl hverdict ?_ hfailure hsnapshot
    rw [hrefreshes, hverdict]
    simp
  | granted result =>
    refine leaves_granted hall _ request.refreshes result rfl hverdict ?_ ?_ ?_
    · rw [hrefreshes, hverdict, AuthRequest.refreshes]
      simp only [and_true]
      split <;> rfl
    · unfold AuthRequest.refreshes
      split
      · simp [le_trans hfailure hsnapshot, hscrape]
      · simp [le_trans hfailure hsnapshot]
    · unfold AuthRequest.refreshes
      split <;> exact List.cons_ne_nil _ _

/-- A request that no other interrupts leaves with what authentication at once
yields, and leaves the cells as it does. -/
theorem authenticate_uninterrupted (hall : Hall) (threads : List Attempt) (request : AuthRequest)
    (hordered : [hall.clock, request.clock.failure, request.clock.snapshot,
      request.scrape].IsChain (· ≤ ·)) :
    ∃ clock attempt, Reachable (state.authProgram crates).step ⟨hall, threads⟩
        ⟨⟨(state.authenticate crates hall.cells request).2, clock⟩, threads ++ [attempt]⟩ ∧
      attempt.left = some (state.authenticate crates hall.cells request).1 := by
  obtain ⟨clock, attempt, halone, hleft⟩ := attempt_leaves state crates hall request hordered
  obtain ⟨events, hrun⟩ := halone.run threads
  refine ⟨clock, attempt, ⟨.entered request.arrival :: events, ?_⟩, hleft⟩
  exact (run_cons_eq_some _ _ _ _ _).mpr ⟨_, rfl, hrun⟩

end AppState

end RedisBridge.App
