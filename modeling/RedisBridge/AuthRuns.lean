import RedisBridge.TargetIsolation

/-!
Requests that authenticate, one after the other. A request enters by one of the
doors that check credentials, and what it does to the lockout table and the
counters is one of four effects: the metrics door is closed, the credentials are
rejected, counting the rejection panics, or the credentials are accepted. Which
one it is depends on the authorization header and the configured tokens.
-/
namespace RedisBridge.App

open AssocTables ClientAddress Instants IpAddress Lockout Responses RustText Targets TokenType

/-- Where a request presents its credentials. -/
inductive Door
  | bridge
  | command
  | realtime
  | metrics
  deriving DecidableEq

/-- What authentication reads of a request: its headers, its peer and the clock.
The metrics route reads the clock once more, for its own refresh. -/
structure AuthRequest where
  door : Door
  headers : HeaderMap
  peer : IpAddr
  clock : Readings
  scrape : Instant

/-- How a request leaves authentication, with its route if it has one. -/
abbrev AuthOutcome := Except Panic (Except ApiError (Option AuthRoute))

namespace AppState

/-- The address under which a request is counted. -/
def requestIp (state : AppState) (request : AuthRequest) : IpAddr :=
  state.clientIp request.headers request.peer

/-- The authentication of a request, as its route makes it. -/
def authenticate (state : AppState) (crates : Crates) (cells : Cells) (request : AuthRequest) :
    Step (Except ApiError (Option AuthRoute)) :=
  let ip := state.requestIp request
  match request.door with
  | .bridge =>
      (state.bridgeAuth crates cells request.headers ip request.clock).andThen
        fun result cells => (.ok (result.map some), cells)
  | .command =>
      (state.commandAuth crates cells request.headers ip request.clock).andThen
        fun result cells => (.ok (result.map some), cells)
  | .realtime =>
      (state.realtimeAuth crates cells request.headers ip request.clock).andThen
        fun result cells => (.ok (result.map some), cells)
  | .metrics =>
      (state.metricsAuth cells request.headers ip request.clock).andThen fun result cells =>
        match result with
        | .error error => (.ok (.error error), cells)
        | .ok () =>
            (state.refreshLockoutMetrics cells request.scrape).andThen fun _ cells =>
              (.ok (.ok none), cells)

end AppState

/-- The configured credentials. -/
structure Credentials where
  metricsToken : Option String
  hashToken : Option String
  tokenRoutes : Table TokenHash AuthRoute

def AppState.credentials (state : AppState) : Credentials :=
  ⟨state.metricsToken, state.hashToken, state.tokenRoutes⟩

/-- The digest of a presented token under the configured key. -/
def Credentials.digest (credentials : Credentials) (crates : Crates) (token : String) :
    TokenHash :=
  match credentials.hashToken with
  | some key => TokenHash.hmacSha256 crates key token
  | none => TokenHash.sha256 crates token

/-- The route of the token in an authorization header. -/
def Credentials.route (credentials : Credentials) (crates : Crates)
    (authorization : Option (List UInt8)) : Option AuthRoute :=
  (AppState.presentedToken (fun _ => authorization)).bind
    (fun token => credentials.tokenRoutes.lookup (credentials.digest crates token))

/-- Whether the credentials accept an authorization header at a door. -/
def Credentials.accept (credentials : Credentials) (crates : Crates) (door : Door)
    (authorization : Option (List UInt8)) : Bool :=
  match door with
  | .metrics => (AppState.presentedToken (fun _ => authorization)).any (fun token =>
      credentials.metricsToken.any (fun metricsToken => asBytes metricsToken == asBytes token))
  | _ => (credentials.route crates authorization).isSome

/-- The metrics door is closed while no metrics token is configured. -/
def Credentials.closed (credentials : Credentials) (door : Door) : Bool :=
  door == .metrics && credentials.metricsToken.isNone

namespace AuthRequest

def authorization (request : AuthRequest) : Option (List UInt8) := request.headers "authorization"

/-- The snapshots that follow an acceptance. -/
def refreshes (request : AuthRequest) : List Instant :=
  if request.door = .metrics then [request.clock.snapshot, request.scrape]
  else [request.clock.snapshot]

end AuthRequest

/-- Credentials that were accepted open the route, or are refused by its
capabilities. -/
def Granted (outcome : AuthOutcome) : Prop :=
  (∃ route, outcome = .ok (.ok route)) ∨ ∃ message, outcome = .ok (.error (.forbidden message))

namespace AppState

variable (state : AppState) (crates : Crates)

/-- The table after the snapshots at some instants. -/
def refreshed (entries : Entries) (instants : List Instant) : Entries :=
  instants.foldl (fun entries now => (state.authLockout.snapshotAt entries now).2) entries

/-- What authenticating a request does to a table and the metrics. -/
inductive Effect (request : AuthRequest) (entries : Entries) (metrics : Metrics) :
    AuthOutcome → Cells → Prop
  | closed (hclosed : state.credentials.closed request.door = true) :
      Effect request entries metrics
        (.ok (.error (.unauthorized "Metrics authentication is not configured")))
        ⟨.available entries, metrics⟩
  | rejected (message : String) (result : AuthFailure) (recorded : Entries)
      (hopen : state.credentials.closed request.door = false)
      (hrejected : state.credentials.accept crates request.door request.authorization = false)
      (hrecord : state.authLockout.recordFailureAt entries (state.requestIp request)
        request.clock.failure = .ok (result, recorded)) :
      Effect request entries metrics (.ok (.error (rejection message result)))
        ⟨.available (state.authLockout.snapshotAt recorded request.clock.snapshot).2,
          (countRejection metrics.authFailed result).setLockoutState
            (state.authLockout.snapshotAt recorded request.clock.snapshot).1⟩
  | panicked (panic : Panic)
      (hopen : state.credentials.closed request.door = false)
      (hrejected : state.credentials.accept crates request.door request.authorization = false)
      (hrecord : state.authLockout.recordFailureAt entries (state.requestIp request)
        request.clock.failure = .error panic) :
      Effect request entries metrics (.error panic) ⟨.poisoned, metrics.authFailed⟩
  | granted (outcome : AuthOutcome) (counts : AuthSnapshot)
      (haccepted : state.credentials.accept crates request.door request.authorization = true)
      (houtcome : Granted outcome) :
      Effect request entries metrics outcome
        ⟨.available (state.refreshed (state.authLockout.recordSuccess entries
            (state.requestIp request)) request.refreshes),
          metrics.setLockoutState counts⟩

/-! Each door rejects by the one rejection, and accepts by the one acceptance. -/

theorem refreshLockoutMetrics_eq (entries : Entries) (metrics : Metrics) (now : Instant) :
    state.refreshLockoutMetrics ⟨.available entries, metrics⟩ now =
      (.ok (), ⟨.available (state.authLockout.snapshotAt entries now).2,
        metrics.setLockoutState (state.authLockout.snapshotAt entries now).1⟩) := rfl

theorem accept_eq {α : Type} (entries : Entries) (metrics : Metrics) (ip : IpAddr)
    (clock : Readings) (result : α) :
    state.accept ⟨.available entries, metrics⟩ ip clock result =
      (.ok (.ok result), ⟨.available (state.authLockout.snapshotAt
          (state.authLockout.recordSuccess entries ip) clock.snapshot).2,
        metrics.setLockoutState (state.authLockout.snapshotAt
          (state.authLockout.recordSuccess entries ip) clock.snapshot).1⟩) := rfl

theorem reject_recorded {α : Type} (entries recorded : Entries) (metrics : Metrics) (ip : IpAddr)
    (clock : Readings) (message : String) (result : AuthFailure)
    (hrecord : state.authLockout.recordFailureAt entries ip clock.failure =
      .ok (result, recorded)) :
    state.reject (α := α) ⟨.available entries, metrics⟩ ip clock message =
      (.ok (.error (rejection message result)),
        ⟨.available (state.authLockout.snapshotAt recorded clock.snapshot).2,
          (countRejection metrics.authFailed result).setLockoutState
            (state.authLockout.snapshotAt recorded clock.snapshot).1⟩) := by
  simp only [reject, unauthorized, recordFailure, AuthLockout.withLock, hrecord, setLockout,
    Step.andThen, refreshLockoutMetrics_eq]

theorem reject_panicked {α : Type} (entries : Entries) (metrics : Metrics) (ip : IpAddr)
    (clock : Readings) (message : String) (panic : Panic)
    (hrecord : state.authLockout.recordFailureAt entries ip clock.failure = .error panic) :
    state.reject (α := α) ⟨.available entries, metrics⟩ ip clock message =
      (.error panic, ⟨.poisoned, metrics.authFailed⟩) := by
  simp only [reject, unauthorized, recordFailure, AuthLockout.withLock, hrecord, setLockout,
    Step.andThen]

/-- A rejection passes through whatever passes errors through. -/
theorem reject_andThen {α β : Type} (cells : Cells) (ip : IpAddr) (clock : Readings)
    (message : String) (next : Except ApiError α → Cells → Step (Except ApiError β))
    (hnext : ∀ error cells', next (.error error) cells' = (.ok (.error error), cells')) :
    (state.reject cells ip clock message).andThen next =
      state.reject cells ip clock message := by
  unfold reject
  rcases state.unauthorized cells ip clock message with ⟨outcome, cells'⟩
  cases outcome with
  | error panic => rfl
  | ok error => exact hnext error cells'

theorem bridgeAuth_rejects (cells : Cells) (headers : HeaderMap) (ip : IpAddr) (clock : Readings)
    (h : state.credentials.route crates (headers "authorization") = none) :
    ∃ message, state.bridgeAuth crates cells headers ip clock =
      state.reject cells ip clock message := by
  change (presentedToken headers).bind _ = none at h
  unfold bridgeAuth bearerToken
  cases htoken : presentedToken headers with
  | none => exact ⟨_, reject_andThen state cells ip clock _ _ (fun _ _ => rfl)⟩
  | some token =>
    rw [htoken, Option.bind_some] at h
    refine ⟨"Invalid token", ?_⟩
    change state.tokenRoutes.lookup (state.tokenDigest crates token) = none at h
    simp only [Step.andThen, h]

theorem bridgeAuth_accepts (cells : Cells) (headers : HeaderMap) (ip : IpAddr) (clock : Readings)
    (route : AuthRoute)
    (h : state.credentials.route crates (headers "authorization") = some route) :
    state.bridgeAuth crates cells headers ip clock = state.accept cells ip clock route := by
  change (presentedToken headers).bind _ = some route at h
  obtain ⟨token, htoken, hlook⟩ := Option.bind_eq_some_iff.mp h
  change state.tokenRoutes.lookup (state.tokenDigest crates token) = some route at hlook
  simp only [bridgeAuth, bearerToken, htoken, Step.andThen, hlook]

theorem metricsAuth_rejects (cells : Cells) (headers : HeaderMap) (ip : IpAddr)
    (clock : Readings) (hopen : state.credentials.closed .metrics = false)
    (h : state.credentials.accept crates .metrics (headers "authorization") = false) :
    ∃ message, state.metricsAuth cells headers ip clock =
      state.reject cells ip clock message := by
  change (presentedToken headers).any _ = false at h
  change state.metricsToken.isNone = false at hopen
  obtain ⟨metricsToken, hmetrics⟩ := Option.isSome_iff_exists.mp (by simpa using hopen)
  unfold metricsAuth bearerToken
  rw [hmetrics]
  cases htoken : presentedToken headers with
  | none => exact ⟨_, reject_andThen state cells ip clock _ _ (fun _ _ => rfl)⟩
  | some token =>
    refine ⟨"Invalid token", ?_⟩
    rw [htoken, Option.any_some] at h
    simp only [credentials, hmetrics, Option.any_some, beq_eq_false_iff_ne] at h
    simp only [Step.andThen, if_pos h]

theorem metricsAuth_accepts (cells : Cells) (headers : HeaderMap) (ip : IpAddr)
    (clock : Readings)
    (h : state.credentials.accept crates .metrics (headers "authorization") = true) :
    state.metricsAuth cells headers ip clock = state.accept cells ip clock () := by
  change (presentedToken headers).any _ = true at h
  obtain ⟨token, htoken, h⟩ := (Option.any_eq_true _ _).mp h
  obtain ⟨metricsToken, hmetrics, h⟩ := (Option.any_eq_true _ _).mp h
  change state.metricsToken = some metricsToken at hmetrics
  simp only [metricsAuth, bearerToken, hmetrics, htoken, Step.andThen, beq_iff_eq.mp h, ne_eq,
    not_true_eq_false, if_false]

theorem routeAuth_rejects (cells : Cells) (headers : HeaderMap) (ip : IpAddr) (clock : Readings)
    (allows : AuthRoute → Bool) (refusal : String)
    (h : state.credentials.route crates (headers "authorization") = none) :
    ∃ message, state.routeAuth crates cells headers ip clock allows refusal =
      state.reject cells ip clock message := by
  obtain ⟨message, heq⟩ := bridgeAuth_rejects state crates cells headers ip clock h
  refine ⟨message, ?_⟩
  rw [routeAuth, heq]
  exact reject_andThen state cells ip clock message _ (fun _ _ => rfl)

/-- Credentials that are not accepted are rejected, once, at every door but a
closed one. -/
theorem authenticate_rejects (cells : Cells) (request : AuthRequest)
    (hopen : state.credentials.closed request.door = false)
    (h : state.credentials.accept crates request.door request.authorization = false) :
    ∃ message, state.authenticate crates cells request =
      state.reject cells (state.requestIp request) request.clock message := by
  have hroute : request.door ≠ .metrics →
      state.credentials.route crates request.authorization = none := by
    intro hne
    unfold Credentials.accept at h
    split at h
    · rename_i hdoor
      exact absurd hdoor hne
    · exact Option.not_isSome_iff_eq_none.mp (by simp [h])
  have hpass {α β : Type} (message : String) (f : α → β) :
      ((state.reject cells (state.requestIp request) request.clock message).andThen
        fun (result : Except ApiError α) cells => (.ok (result.map f), cells)) =
          state.reject cells (state.requestIp request) request.clock message :=
    reject_andThen state cells _ _ message _ (fun _ _ => rfl)
  unfold authenticate
  cases hdoor : request.door with
  | bridge =>
    obtain ⟨message, heq⟩ := bridgeAuth_rejects state crates cells request.headers
      (state.requestIp request) request.clock (hroute (by simp [hdoor]))
    refine ⟨message, ?_⟩
    dsimp only
    rw [heq]
    exact hpass message some
  | command =>
    obtain ⟨message, heq⟩ := routeAuth_rejects state crates cells request.headers
      (state.requestIp request) request.clock AuthRoute.allowsCommandRoute _
      (hroute (by simp [hdoor]))
    refine ⟨message, ?_⟩
    dsimp only
    rw [commandAuth, heq]
    exact hpass message some
  | realtime =>
    obtain ⟨message, heq⟩ := routeAuth_rejects state crates cells request.headers
      (state.requestIp request) request.clock AuthRoute.allowsRealtime _
      (hroute (by simp [hdoor]))
    refine ⟨message, ?_⟩
    dsimp only
    rw [realtimeAuth, heq]
    exact hpass message some
  | metrics =>
    rw [hdoor] at h hopen
    obtain ⟨message, heq⟩ := metricsAuth_rejects state crates cells request.headers
      (state.requestIp request) request.clock hopen h
    refine ⟨message, ?_⟩
    dsimp only
    rw [heq]
    exact reject_andThen state cells _ _ message _ (fun _ _ => rfl)

theorem routeAuth_accepts (entries : Entries) (metrics : Metrics) (headers : HeaderMap)
    (ip : IpAddr) (clock : Readings) (allows : AuthRoute → Bool) (refusal : String)
    (route : AuthRoute) (h : state.credentials.route crates (headers "authorization") = some route) :
    ∃ answer counts, Granted (.ok (answer.map some)) ∧
      state.routeAuth crates ⟨.available entries, metrics⟩ headers ip clock allows refusal =
        (.ok answer, ⟨.available (state.authLockout.snapshotAt
            (state.authLockout.recordSuccess entries ip) clock.snapshot).2,
          metrics.setLockoutState counts⟩) := by
  let counts := (state.authLockout.snapshotAt (state.authLockout.recordSuccess entries ip)
    clock.snapshot).1
  rw [routeAuth, bridgeAuth_accepts state crates _ headers ip clock route h, accept_eq]
  by_cases hallows : allows route = false
  · refine ⟨.error (.forbidden refusal), counts, Or.inr ⟨refusal, rfl⟩, ?_⟩
    simp only [Step.andThen, if_pos hallows, counts]
  · refine ⟨.ok route, counts, Or.inl ⟨some route, rfl⟩, ?_⟩
    simp only [Step.andThen, if_neg hallows, counts]

/-- Accepted credentials clear their address, at every door. -/
theorem authenticate_accepts (entries : Entries) (metrics : Metrics) (request : AuthRequest)
    (h : state.credentials.accept crates request.door request.authorization = true) :
    ∃ outcome counts, Granted outcome ∧
      state.authenticate crates ⟨.available entries, metrics⟩ request =
        (outcome, ⟨.available (state.refreshed (state.authLockout.recordSuccess entries
            (state.requestIp request)) request.refreshes), metrics.setLockoutState counts⟩) := by
  have hroute : request.door ≠ .metrics →
      ∃ route, state.credentials.route crates request.authorization = some route := by
    intro hne
    unfold Credentials.accept at h
    split at h
    · rename_i hdoor
      exact absurd hdoor hne
    · exact Option.isSome_iff_exists.mp h
  let cleared := state.authLockout.recordSuccess entries (state.requestIp request)
  have hrefreshes : request.door ≠ .metrics → request.refreshes = [request.clock.snapshot] :=
    fun hne => if_neg hne
  unfold authenticate
  cases hdoor : request.door with
  | bridge =>
    have hne : request.door ≠ .metrics := by simp [hdoor]
    obtain ⟨route, hroute⟩ := hroute hne
    refine ⟨_, (state.authLockout.snapshotAt cleared request.clock.snapshot).1,
      Or.inl ⟨some route, rfl⟩, ?_⟩
    dsimp only
    rw [bridgeAuth_accepts state crates _ _ _ _ route hroute, hrefreshes hne]
    rfl
  | command =>
    have hne : request.door ≠ .metrics := by simp [hdoor]
    obtain ⟨route, hroute⟩ := hroute hne
    obtain ⟨answer, counts, hgranted, heq⟩ := routeAuth_accepts state crates entries metrics
      request.headers (state.requestIp request) request.clock AuthRoute.allowsCommandRoute
      "Bearer token is not allowed to access command routes" route hroute
    refine ⟨_, counts, hgranted, ?_⟩
    dsimp only
    rw [commandAuth, heq, hrefreshes hne]
    rfl
  | realtime =>
    have hne : request.door ≠ .metrics := by simp [hdoor]
    obtain ⟨route, hroute⟩ := hroute hne
    obtain ⟨answer, counts, hgranted, heq⟩ := routeAuth_accepts state crates entries metrics
      request.headers (state.requestIp request) request.clock AuthRoute.allowsRealtime
      "Bearer token is not allowed to access realtime routes" route hroute
    refine ⟨_, counts, hgranted, ?_⟩
    dsimp only
    rw [realtimeAuth, heq, hrefreshes hne]
    rfl
  | metrics =>
    have hrefresh : request.refreshes = [request.clock.snapshot, request.scrape] := if_pos hdoor
    rw [hdoor] at h
    refine ⟨_, (state.authLockout.snapshotAt (state.authLockout.snapshotAt cleared
      request.clock.snapshot).2 request.scrape).1, Or.inl ⟨none, rfl⟩, ?_⟩
    dsimp only
    rw [metricsAuth_accepts state crates _ _ _ _ h, accept_eq, hrefresh]
    rfl

/-- Every request has one of the four effects. -/
theorem authenticate_effect (entries : Entries) (metrics : Metrics) (request : AuthRequest) :
    state.Effect crates request entries metrics
      (state.authenticate crates ⟨.available entries, metrics⟩ request).1
      (state.authenticate crates ⟨.available entries, metrics⟩ request).2 := by
  by_cases hclosed : state.credentials.closed request.door = true
  · have hdoor : request.door = .metrics ∧ state.metricsToken = none := by
      simpa [Credentials.closed, credentials] using hclosed
    have heq : state.authenticate crates ⟨.available entries, metrics⟩ request =
        (.ok (.error (.unauthorized "Metrics authentication is not configured")),
          ⟨.available entries, metrics⟩) := by
      simp only [authenticate, hdoor.1, metricsAuth, hdoor.2, Step.andThen]
    rw [heq]
    exact .closed hclosed
  · have hopen : state.credentials.closed request.door = false := Bool.eq_false_iff.mpr hclosed
    by_cases haccept : state.credentials.accept crates request.door request.authorization = true
    · obtain ⟨outcome, counts, houtcome, heq⟩ :=
        authenticate_accepts state crates entries metrics request haccept
      rw [heq]
      exact .granted outcome counts haccept houtcome
    · have hrejected := Bool.eq_false_iff.mpr haccept
      obtain ⟨message, heq⟩ :=
        authenticate_rejects state crates ⟨.available entries, metrics⟩ request hopen hrejected
      rw [heq]
      cases hrecord : state.authLockout.recordFailureAt entries (state.requestIp request)
          request.clock.failure with
      | error panic =>
        rw [reject_panicked state entries metrics _ _ message panic hrecord]
        exact .panicked panic hopen hrejected hrecord
      | ok recorded =>
        rw [reject_recorded state entries recorded.2 metrics _ _ message recorded.1 hrecord]
        exact .rejected message recorded.1 recorded.2 hopen hrejected hrecord

end AppState

/-! A poisoned mutex stays poisoned, whatever is asked of it. -/

theorem Step.andThen_poisoned {α β : Type} (step : Step α) (next : α → Cells → Step β)
    (hstep : step.2.lockout = .poisoned)
    (hnext : ∀ a cells, cells.lockout = .poisoned → (next a cells).2.lockout = .poisoned) :
    (step.andThen next).2.lockout = .poisoned := by
  obtain ⟨result, cells⟩ := step
  cases result with
  | error panic => exact hstep
  | ok a => exact hnext a cells hstep

namespace AppState

variable (state : AppState) (crates : Crates)

theorem withLock_poisoned {α : Type} (lockout : AuthLockout)
    (work : Entries → Except Panic (α × Entries)) :
    (lockout.withLock .poisoned work).2 = .poisoned := by
  unfold AuthLockout.withLock
  split_ifs <;> rfl

theorem refreshLockoutMetrics_poisoned (cells : Cells) (now : Instant)
    (h : cells.lockout = .poisoned) :
    (state.refreshLockoutMetrics cells now).2.lockout = .poisoned := by
  refine Step.andThen_poisoned _ _ ?_ (fun _ _ hcells => hcells)
  rw [snapshot, h]
  exact withLock_poisoned _ _

theorem reject_poisoned {α : Type} (cells : Cells) (ip : IpAddr) (clock : Readings)
    (message : String) (h : cells.lockout = .poisoned) :
    (state.reject (α := α) cells ip clock message).2.lockout = .poisoned := by
  refine Step.andThen_poisoned _ _ ?_ (fun _ _ hcells => hcells)
  refine Step.andThen_poisoned _ _ ?_ ?_
  · rw [recordFailure, h]
    exact withLock_poisoned _ _
  · intro result cells' hcells'
    exact Step.andThen_poisoned _ _ (refreshLockoutMetrics_poisoned state _ _ hcells')
      (fun _ _ hcells => hcells)

theorem accept_poisoned {α : Type} (cells : Cells) (ip : IpAddr) (clock : Readings) (result : α)
    (h : cells.lockout = .poisoned) :
    (state.accept cells ip clock result).2.lockout = .poisoned := by
  refine Step.andThen_poisoned _ _ ?_ ?_
  · rw [recordSuccess, h]
    exact withLock_poisoned _ _
  · intro _ cells' hcells'
    exact Step.andThen_poisoned _ _ (refreshLockoutMetrics_poisoned state _ _ hcells')
      (fun _ _ hcells => hcells)

theorem bearerToken_poisoned (cells : Cells) (headers : HeaderMap) (ip : IpAddr)
    (clock : Readings) (h : cells.lockout = .poisoned) :
    (state.bearerToken cells headers ip clock).2.lockout = .poisoned := by
  unfold bearerToken
  split
  · exact h
  · exact reject_poisoned state cells ip clock _ h

theorem bridgeAuth_poisoned (cells : Cells) (headers : HeaderMap) (ip : IpAddr)
    (clock : Readings) (h : cells.lockout = .poisoned) :
    (state.bridgeAuth crates cells headers ip clock).2.lockout = .poisoned := by
  refine Step.andThen_poisoned _ _ (bearerToken_poisoned state cells headers ip clock h) ?_
  intro token cells' hcells'
  cases token with
  | error error => exact hcells'
  | ok token =>
    dsimp only
    split
    · exact reject_poisoned state cells' ip clock _ hcells'
    · exact accept_poisoned state cells' ip clock _ hcells'

theorem routeAuth_poisoned (cells : Cells) (headers : HeaderMap) (ip : IpAddr)
    (clock : Readings) (allows : AuthRoute → Bool) (refusal : String)
    (h : cells.lockout = .poisoned) :
    (state.routeAuth crates cells headers ip clock allows refusal).2.lockout = .poisoned := by
  refine Step.andThen_poisoned _ _ (bridgeAuth_poisoned state crates cells headers ip clock h) ?_
  intro result cells' hcells'
  cases result with
  | error error => exact hcells'
  | ok route =>
    dsimp only
    split_ifs
    · exact hcells'
    · exact hcells'

theorem metricsAuth_poisoned (cells : Cells) (headers : HeaderMap) (ip : IpAddr)
    (clock : Readings) (h : cells.lockout = .poisoned) :
    (state.metricsAuth cells headers ip clock).2.lockout = .poisoned := by
  unfold metricsAuth
  split
  · exact h
  · refine Step.andThen_poisoned _ _ (bearerToken_poisoned state cells headers ip clock h) ?_
    intro token cells' hcells'
    cases token with
    | error error => exact hcells'
    | ok token =>
      dsimp only
      split_ifs
      · exact reject_poisoned state cells' ip clock _ hcells'
      · exact accept_poisoned state cells' ip clock _ hcells'

theorem authenticate_poisoned (cells : Cells) (request : AuthRequest)
    (h : cells.lockout = .poisoned) :
    (state.authenticate crates cells request).2.lockout = .poisoned := by
  unfold authenticate
  cases request.door with
  | bridge =>
    exact Step.andThen_poisoned _ _ (bridgeAuth_poisoned state crates cells _ _ _ h)
      (fun _ _ hcells => hcells)
  | command =>
    exact Step.andThen_poisoned _ _ (routeAuth_poisoned state crates cells _ _ _ _ _ h)
      (fun _ _ hcells => hcells)
  | realtime =>
    exact Step.andThen_poisoned _ _ (routeAuth_poisoned state crates cells _ _ _ _ _ h)
      (fun _ _ hcells => hcells)
  | metrics =>
    refine Step.andThen_poisoned _ _ (metricsAuth_poisoned state cells _ _ _ h) ?_
    intro result cells' hcells'
    cases result with
    | error error => exact hcells'
    | ok u =>
      exact Step.andThen_poisoned _ _ (refreshLockoutMetrics_poisoned state _ _ hcells')
        (fun _ _ hcells => hcells)

end AppState

/-- One request of a run: what it met, how it left and what it left behind. -/
structure AuthEvent where
  request : AuthRequest
  before : Cells
  outcome : AuthOutcome
  after : Cells

namespace AppState

variable (state : AppState) (crates : Crates)

/-- The requests in order. A panic ends its own request only. -/
def authRun (cells : Cells) : List AuthRequest → List AuthEvent × Cells
  | [] => ([], cells)
  | request :: rest =>
      let step := state.authenticate crates cells request
      let later := authRun step.2 rest
      (⟨request, cells, step.1, step.2⟩ :: later.1, later.2)

theorem authRun_append (cells : Cells) (xs ys : List AuthRequest) :
    state.authRun crates cells (xs ++ ys) =
      ((state.authRun crates cells xs).1 ++
          (state.authRun crates (state.authRun crates cells xs).2 ys).1,
        (state.authRun crates (state.authRun crates cells xs).2 ys).2) := by
  induction xs generalizing cells with
  | nil => rfl
  | cons request rest ih =>
    simp only [List.cons_append, authRun, ih]

/-- An event of a run is a step of the code. -/
theorem event_authenticate (requests : List AuthRequest) (cells : Cells) (event : AuthEvent)
    (h : event ∈ (state.authRun crates cells requests).1) :
    event.request ∈ requests ∧
      state.authenticate crates event.before event.request = (event.outcome, event.after) := by
  induction requests generalizing cells with
  | nil => cases h
  | cons request rest ih =>
    rcases List.mem_cons.mp h with rfl | hlater
    · exact ⟨List.mem_cons_self, rfl⟩
    · obtain ⟨hmem, hstep⟩ := ih _ hlater
      exact ⟨List.mem_cons_of_mem _ hmem, hstep⟩

/-- What every allowed request preserves holds throughout a run. -/
theorem authRun_invariant (inv : Cells → Prop) (allow : AuthRequest → Prop)
    (hstep : ∀ cells request, allow request → inv cells →
      inv (state.authenticate crates cells request).2)
    (requests : List AuthRequest) (cells : Cells) (hcells : inv cells)
    (hall : ∀ request ∈ requests, allow request) :
    ∀ event ∈ (state.authRun crates cells requests).1, inv event.before := by
  induction requests generalizing cells with
  | nil =>
    intro event hevent
    cases hevent
  | cons request rest ih =>
    obtain ⟨hfirst, hrest⟩ := List.forall_mem_cons.mp hall
    intro event hevent
    rcases List.mem_cons.mp hevent with rfl | hlater
    · exact hcells
    · exact ih _ (hstep cells request hfirst hcells) hrest event hlater

/-- What every allowed request preserves holds at the end of a run. -/
theorem authRun_end (inv : Cells → Prop) (allow : AuthRequest → Prop)
    (hstep : ∀ cells request, allow request → inv cells →
      inv (state.authenticate crates cells request).2)
    (requests : List AuthRequest) (cells : Cells) (hcells : inv cells)
    (hall : ∀ request ∈ requests, allow request) :
    inv (state.authRun crates cells requests).2 := by
  induction requests generalizing cells with
  | nil => exact hcells
  | cons request rest ih =>
    obtain ⟨hfirst, hrest⟩ := List.forall_mem_cons.mp hall
    exact ih _ (hstep cells request hfirst hcells) hrest

theorem authRun_poisoned (requests : List AuthRequest) (cells : Cells)
    (h : cells.lockout = .poisoned) :
    (state.authRun crates cells requests).2.lockout = .poisoned :=
  authRun_end state crates (fun cells => cells.lockout = .poisoned) (fun _ => True)
    (fun cells request _ hcells => authenticate_poisoned state crates cells request hcells)
    requests cells h (fun _ _ => trivial)

/-- A counter that each event raises by its hits ends with all hits of the run. -/
theorem authRun_count (count : Metrics → ℕ) (hit : AuthEvent → Bool)
    (requests : List AuthRequest) (cells : Cells)
    (h : ∀ event ∈ (state.authRun crates cells requests).1,
      count event.after.metrics =
        count event.before.metrics + (if hit event = true then 1 else 0)) :
    count (state.authRun crates cells requests).2.metrics =
      count cells.metrics + (state.authRun crates cells requests).1.countP hit := by
  induction requests generalizing cells with
  | nil => rfl
  | cons request rest ih =>
    obtain ⟨hfirst, hrest⟩ := List.forall_mem_cons.mp h
    simp only [authRun, List.countP_cons]
    rw [ih _ hrest]
    dsimp only at hfirst
    omega

/-- What follows an event of a run is a run from what the event left. -/
theorem authRun_after (requests : List AuthRequest) (cells : Cells) (event : AuthEvent)
    (early late : List AuthEvent)
    (h : (state.authRun crates cells requests).1 = early ++ event :: late) :
    ∃ rest, late = (state.authRun crates event.after rest).1 := by
  induction early generalizing requests cells with
  | nil =>
    cases requests with
    | nil => cases h
    | cons request rest =>
      cases h
      exact ⟨rest, rfl⟩
  | cons first more ih =>
    cases requests with
    | nil => cases h
    | cons request rest =>
      simp only [authRun, List.cons_append, List.cons.injEq] at h
      exact ih rest _ h.2

theorem event_effect (requests : List AuthRequest) (cells : Cells) (event : AuthEvent)
    (entries : Entries) (h : event ∈ (state.authRun crates cells requests).1)
    (hbefore : event.before.lockout = .available entries) :
    state.Effect crates event.request entries event.before.metrics event.outcome event.after := by
  obtain ⟨_, hstep⟩ := event_authenticate state crates requests cells event h
  obtain ⟨request, ⟨cell, metrics⟩, outcome, after⟩ := event
  dsimp only at hbefore hstep ⊢
  subst hbefore
  have heffect := authenticate_effect state crates entries metrics request
  rw [hstep] at heffect
  exact heffect

end AppState

end RedisBridge.App
