import RedisBridge.AppState

/-!
Authentication of a request. The presented token is looked up by its digest; a
rejection is counted against the client address and answered by what the
lockout makes of it, an acceptance clears the address. Nothing of the request
but its headers is read.
-/
namespace RedisBridge.App

open AssocTables ClientAddress Instants IpAddress Lockout Responses RustText Targets TokenType

/-- The clock readings of one request: at its failure, and at the snapshot of
the lockout that follows. -/
structure Readings where
  failure : Instant
  snapshot : Instant

namespace AppState

def setLockout (cells : Cells) (cell : Guarded) : Cells := { cells with lockout := cell }

def recordFailure (state : AppState) (cells : Cells) (ip : IpAddr) (now : Instant) :
    Step AuthFailure :=
  let outcome := state.authLockout.withLock cells.lockout
    (fun entries => state.authLockout.recordFailureAt entries ip now)
  (outcome.1, setLockout cells outcome.2)

def recordSuccess (state : AppState) (cells : Cells) (ip : IpAddr) : Step Unit :=
  let outcome := state.authLockout.withLock cells.lockout
    (fun entries => .ok ((), state.authLockout.recordSuccess entries ip))
  (outcome.1, setLockout cells outcome.2)

def snapshot (state : AppState) (cells : Cells) (now : Instant) : Step AuthSnapshot :=
  let outcome := state.authLockout.withLock cells.lockout
    (fun entries => .ok (state.authLockout.snapshotAt entries now))
  (outcome.1, setLockout cells outcome.2)

def refreshLockoutMetrics (state : AppState) (cells : Cells) (now : Instant) : Step Unit :=
  (state.snapshot cells now).andThen fun counts cells =>
    (.ok (), { cells with metrics := cells.metrics.setLockoutState counts })

/-- The counter of a rejection. -/
def countRejection (metrics : Metrics) : AuthFailure → Metrics
  | .locked => metrics.lockoutCreated
  | .alreadyLocked => metrics.lockedRequest
  | .entryLimitReached => metrics.lockoutEntryLimit
  | .disabled | .tracked => metrics

/-- The answer to a rejection. -/
def rejection (message : String) : AuthFailure → ApiError
  | .locked | .alreadyLocked => .tooManyRequests "Too many failed authentication attempts"
  | .entryLimitReached | .disabled | .tracked => .unauthorized message

def unauthorized (state : AppState) (cells : Cells) (ip : IpAddr) (clock : Readings)
    (message : String) : Step ApiError :=
  (state.recordFailure { cells with metrics := cells.metrics.authFailed } ip
      clock.failure).andThen fun result cells =>
    (state.refreshLockoutMetrics { cells with metrics := countRejection cells.metrics result }
        clock.snapshot).andThen fun _ cells =>
      (.ok (rejection message result), cells)

/-- A rejected request, for what would have been yielded. -/
def reject {α : Type} (state : AppState) (cells : Cells) (ip : IpAddr) (clock : Readings)
    (message : String) : Step (Except ApiError α) :=
  (state.unauthorized cells ip clock message).andThen fun error cells => (.ok (.error error), cells)

/-- The token that the authorization header presents. -/
def presentedToken (headers : HeaderMap) : Option String := do
  let authHeader ← (headers "authorization").bind toStr
  let (scheme, rest) ← splitOnce isWhitespace authHeader
  let token := trim rest
  if eqIgnoreAsciiCase scheme "Bearer" = false ∨ token = "" then none else some token

/-- The bearer token, or the rejection of the header. -/
def bearerToken (state : AppState) (cells : Cells) (headers : HeaderMap) (ip : IpAddr)
    (clock : Readings) : Step (Except ApiError String) :=
  match presentedToken headers with
  | some token => (.ok (.ok token), cells)
  | none => state.reject cells ip clock "Invalid authorization header"

/-- An accepted request clears its client address. -/
def accept {α : Type} (state : AppState) (cells : Cells) (ip : IpAddr) (clock : Readings)
    (result : α) : Step (Except ApiError α) :=
  (state.recordSuccess cells ip).andThen fun _ cells =>
    (state.refreshLockoutMetrics cells clock.snapshot).andThen fun _ cells =>
      (.ok (.ok result), cells)

/-- The digest under which a presented token is looked up. -/
def tokenDigest (state : AppState) (crates : Crates) (token : String) : TokenHash :=
  match state.hashToken with
  | some key => TokenHash.hmacSha256 crates key token
  | none => TokenHash.sha256 crates token

def metricsAuth (state : AppState) (cells : Cells) (headers : HeaderMap) (ip : IpAddr)
    (clock : Readings) : Step (Except ApiError Unit) :=
  match state.metricsToken with
  | none => (.ok (.error (.unauthorized "Metrics authentication is not configured")), cells)
  | some metricsToken =>
      (state.bearerToken cells headers ip clock).andThen fun token cells =>
        match token with
        | .error error => (.ok (.error error), cells)
        | .ok token =>
            if asBytes metricsToken ≠ asBytes token then
              state.reject cells ip clock "Invalid token"
            else state.accept cells ip clock ()

def bridgeAuth (state : AppState) (crates : Crates) (cells : Cells) (headers : HeaderMap)
    (ip : IpAddr) (clock : Readings) : Step (Except ApiError AuthRoute) :=
  (state.bearerToken cells headers ip clock).andThen fun token cells =>
    match token with
    | .error error => (.ok (.error error), cells)
    | .ok token =>
        match state.tokenRoutes.lookup (state.tokenDigest crates token) with
        | none => state.reject cells ip clock "Invalid token"
        | some route => state.accept cells ip clock route

/-- Bridge authentication for the routes that a capability opens. -/
def routeAuth (state : AppState) (crates : Crates) (cells : Cells) (headers : HeaderMap)
    (ip : IpAddr) (clock : Readings) (allows : AuthRoute → Bool) (message : String) :
    Step (Except ApiError AuthRoute) :=
  (state.bridgeAuth crates cells headers ip clock).andThen fun result cells =>
    match result with
    | .error error => (.ok (.error error), cells)
    | .ok route =>
        if allows route = false then (.ok (.error (.forbidden message)), cells)
        else (.ok (.ok route), cells)

def commandAuth (state : AppState) (crates : Crates) (cells : Cells) (headers : HeaderMap)
    (ip : IpAddr) (clock : Readings) : Step (Except ApiError AuthRoute) :=
  state.routeAuth crates cells headers ip clock AuthRoute.allowsCommandRoute
    "Bearer token is not allowed to access command routes"

def realtimeAuth (state : AppState) (crates : Crates) (cells : Cells) (headers : HeaderMap)
    (ip : IpAddr) (clock : Readings) : Step (Except ApiError AuthRoute) :=
  state.routeAuth crates cells headers ip clock AuthRoute.allowsRealtime
    "Bearer token is not allowed to access realtime routes"

/-- A rejected request yields nothing but an error. -/
theorem reject_ne {α : Type} (state : AppState) (cells cells' : Cells) (ip : IpAddr)
    (clock : Readings) (message : String) (result : α) :
    state.reject cells ip clock message ≠ (.ok (.ok result), cells') := by
  intro h
  rw [reject, Step.andThen_eq_ok] at h
  obtain ⟨_, _, _, h⟩ := h
  simp at h

theorem accept_eq_ok {α : Type} (state : AppState) (cells cells' : Cells) (ip : IpAddr)
    (clock : Readings) (found result : α)
    (h : state.accept cells ip clock found = (.ok (.ok result), cells')) : found = result := by
  simp only [accept, Step.andThen_eq_ok] at h
  obtain ⟨_, _, _, _, _, _, h⟩ := h
  simpa using congrArg Prod.fst h

/-- Accepting a request with a usable lockout yields what was accepted. -/
theorem accept_fst {α : Type} (state : AppState) (cells : Cells) (entries : Entries)
    (ip : IpAddr) (clock : Readings) (result : α) (hcell : cells.lockout = .available entries) :
    (state.accept cells ip clock result).1 = .ok (.ok result) := by
  simp only [accept, recordSuccess, refreshLockoutMetrics, snapshot, AuthLockout.withLock,
    setLockout, hcell, Step.andThen]

theorem bearerToken_eq_ok (state : AppState) (cells cells' : Cells) (headers : HeaderMap)
    (ip : IpAddr) (clock : Readings) (token : String)
    (h : state.bearerToken cells headers ip clock = (.ok (.ok token), cells')) :
    presentedToken headers = some token := by
  unfold bearerToken at h
  split at h
  · rename_i found hfound
    simp only [Prod.mk.injEq, Except.ok.injEq] at h
    rw [hfound, h.1]
  · exact absurd h (reject_ne state cells cells' ip clock _ token)

/-- Accepted credentials are a presented token whose digest is routed. -/
theorem bridgeAuth_eq_ok (state : AppState) (crates : Crates) (cells cells' : Cells)
    (headers : HeaderMap) (ip : IpAddr) (clock : Readings) (route : AuthRoute)
    (h : state.bridgeAuth crates cells headers ip clock = (.ok (.ok route), cells')) :
    ∃ token, presentedToken headers = some token ∧
      state.tokenRoutes.lookup (state.tokenDigest crates token) = some route := by
  rw [bridgeAuth, Step.andThen_eq_ok] at h
  obtain ⟨bearer, early, hbearer, hlookup⟩ := h
  cases bearer with
  | error error => simp at hlookup
  | ok token =>
    dsimp only at hlookup
    refine ⟨token, bearerToken_eq_ok state cells early headers ip clock token hbearer, ?_⟩
    split at hlookup
    · exact absurd hlookup (reject_ne state early cells' ip clock _ route)
    · rename_i found hfound
      rw [hfound, accept_eq_ok state early cells' ip clock found route hlookup]

/-- With a usable lockout, a presented token whose digest is routed is accepted. -/
theorem bridgeAuth_of_lookup (state : AppState) (crates : Crates) (cells : Cells)
    (entries : Entries) (headers : HeaderMap) (ip : IpAddr) (clock : Readings) (token : String)
    (route : AuthRoute) (hcell : cells.lockout = .available entries)
    (htoken : presentedToken headers = some token)
    (hlook : state.tokenRoutes.lookup (state.tokenDigest crates token) = some route) :
    (state.bridgeAuth crates cells headers ip clock).1 = .ok (.ok route) := by
  unfold bridgeAuth bearerToken
  rw [htoken]
  dsimp only [Step.andThen]
  rw [hlook]
  exact accept_fst state cells entries ip clock route hcell

/-- What a route accepts, bridge authentication has accepted. -/
theorem routeAuth_eq_ok (state : AppState) (crates : Crates) (cells cells' : Cells)
    (headers : HeaderMap) (ip : IpAddr) (clock : Readings) (allows : AuthRoute → Bool)
    (message : String) (route : AuthRoute)
    (h : state.routeAuth crates cells headers ip clock allows message =
      (.ok (.ok route), cells')) :
    state.bridgeAuth crates cells headers ip clock = (.ok (.ok route), cells') ∧
      allows route = true := by
  rw [routeAuth, Step.andThen_eq_ok] at h
  obtain ⟨result, mid, hbridge, h⟩ := h
  cases result with
  | error error => simp at h
  | ok found =>
    dsimp only at h
    split at h
    · simp at h
    · rename_i hallows
      cases h
      exact ⟨hbridge, Bool.eq_true_of_not_eq_false hallows⟩

end AppState

end RedisBridge.App
