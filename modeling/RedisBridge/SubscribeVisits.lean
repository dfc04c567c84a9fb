import RedisBridge.RealtimeSessions
import RedisBridge.VisitAccounts

/-!
Requests at the realtime route, side by side from their arrival to the end of
their streams. A request authenticates, has its body and its channel checked,
and then goes on as a session: it takes a permit, sets up its Redis subscription
and streams. Where one of these fails it is denied for one reason, and what it
holds is given back.
-/
namespace RedisBridge.App

open ClientAddress Instants IpAddress Lockout Responses RustText Security SharedThreads
open Targets TokenType TransitionRuns

/-- A request as it arrives at the realtime route; a body that was rejected is
absent. -/
structure Listener where
  headers : HeaderMap
  peer : IpAddr
  channel : String
  body : Option (List CommandArg)

/-- The checks between authentication and the permit, with the reason of a denial. -/
def Listener.check (security : SecurityPolicy) (listener : Listener) :
    Except (String × ApiError) Unit :=
  match listener.body with
  | none => .error ("invalid_json", .badRequest "Invalid JSON body")
  | some body =>
      if body ≠ [] then
        .error ("invalid_body", .badRequest "Subscription body must be an empty command array")
      else
        match validateChannel listener.channel security.maxArgBytes with
        | .error error => .error ("channel", error)
        | .ok () => .ok ()

/-- Where a request is in its route. While it attends to its session, the session
says how far it has come. -/
inductive SubscriberStage
  | authenticating
  | screening (route : AuthRoute)
  | attending
  | denying (reason : String) (error : ApiError)
  | answered (response : Response)
  | departed
  | panicked (panic : Panic)

/-- A request with its session, once it has one, and the reason under which its
denial was counted. -/
structure Subscriber where
  listener : Listener
  attempt : Attempt
  session : Option Session
  denied : Option String
  stage : SubscriberStage

inductive SubscriberAct
  | step
  | attend (act : SessionAct)

/-- What the requests share. -/
structure Lobby where
  hall : Hall
  hub : Hub

namespace Subscriber

def goTo (subscriber : Subscriber) (stage : SubscriberStage) : Subscriber :=
  { subscriber with stage := stage }

/-- The request as far as an attempt to authenticate has come. -/
def trying (subscriber : Subscriber) (attempt : Attempt) : Subscriber :=
  { subscriber with attempt := attempt, stage := .authenticating }

/-- Where the request goes on from an act of its session. -/
def afterAct (act : SessionAct) (session : Session) : SubscriberStage :=
  match act with
  | .acquireRealtime =>
      match session.stage with
      | .refused => .denying "capacity" (.tooManyRequests "Realtime connection capacity exhausted")
      | _ => .attending
  | .settle .failed => .denying "backend" (.unavailable "Redis backend unavailable")
  | .settle .timedOut => .denying "timeout" (.timeout "Redis subscription setup timed out")
  | .drop => .departed
  | _ => .attending

end Subscriber

namespace AppState

variable (state : AppState) (crates : Crates)

def Listener.arrival (listener : Listener) : Arrival :=
  ⟨.realtime, listener.headers, listener.peer⟩

def subscriber (listener : Listener) : Subscriber where
  listener := listener
  attempt := state.attempt crates (Listener.arrival listener)
  session := none
  denied := none
  stage := .authenticating

/-- The session that a checked request opens on the target of its route. -/
def opening (listener : Listener) (route : AuthRoute) : Opening :=
  ⟨state.targetId route.target, listener.channel⟩

/-- A step of authentication, or what follows once it is over. -/
def authenticateSubscriber (lobby : Lobby) (subscriber : Subscriber) :
    Option (Lobby × Subscriber) :=
  match subscriber.attempt.left with
  | none =>
      match state.moveAttempt lobby.hall subscriber.attempt with
      | none => none
      | some (hall, attempt) =>
          some ({ lobby with hall := hall }, { subscriber with attempt := attempt })
  | some (.error panic) => some (lobby, subscriber.goTo (.panicked panic))
  | some (.ok (.error error)) => some (lobby, subscriber.goTo (.denying "auth" error))
  | some (.ok (.ok none)) => none
  | some (.ok (.ok (some route))) => some (lobby, subscriber.goTo (.screening route))

def screenSubscriber (subscriber : Subscriber) (route : AuthRoute) : Subscriber :=
  match subscriber.listener.check state.security with
  | .error (reason, error) => subscriber.goTo (.denying reason error)
  | .ok () =>
      { subscriber with
        session := some (realtimeProgram.enter (state.opening subscriber.listener route))
        stage := .attending }

def denySubscriber (lobby : Lobby) (subscriber : Subscriber) (reason : String)
    (error : ApiError) : Lobby × Subscriber :=
  ({ lobby with
      hall := lobby.hall.setMetrics
        (lobby.hall.cells.metrics.requestDenied "subscribe" reason) },
    { subscriber with denied := some reason, stage := .answered error.intoResponse })

/-- An act of the session; `next` is where the request goes on from it. -/
def attendSession (lobby : Lobby) (subscriber : Subscriber) (act : SessionAct)
    (next : Session → SubscriberStage) : Option (Lobby × Subscriber) :=
  match subscriber.session with
  | none => none
  | some session =>
      match session.move lobby.hub act with
      | none => none
      | some (hub, session') =>
          some ({ lobby with hub := hub },
            { subscriber with session := some session', stage := next session' })

/-- What a session that is closing still holds is given back once its request has
been answered, or its client has gone away. -/
def moveSubscriber (lobby : Lobby) (subscriber : Subscriber) (act : SubscriberAct) :
    Option (Lobby × Subscriber) :=
  match act with
  | .step =>
      match subscriber.stage with
      | .authenticating => state.authenticateSubscriber lobby subscriber
      | .screening route => some (lobby, state.screenSubscriber subscriber route)
      | .denying reason error => some (denySubscriber lobby subscriber reason error)
      | _ => none
  | .attend act =>
      match subscriber.stage with
      | .attending => attendSession lobby subscriber act (Subscriber.afterAct act)
      | .answered response => attendSession lobby subscriber act fun _ => .answered response
      | .departed => attendSession lobby subscriber act fun _ => .departed
      | _ => none

def passLobbyTime (lobby : Lobby) (later : Instant) : Option Lobby :=
  (passTime lobby.hall later).map fun hall => { lobby with hall := hall }

/-- Requests at the realtime route, side by side. -/
def subscriberProgram : Program Lobby Subscriber Listener SubscriberAct Instant where
  enter := state.subscriber crates
  move := state.moveSubscriber
  drift := passLobbyTime

/-- Everything one step of a request can do. -/
inductive SubscriberMoves (lobby : Lobby) (subscriber : Subscriber) :
    SubscriberAct → Lobby → Subscriber → Prop
  | authenticates (attempt : Attempt) (hall : Hall) (hstage : subscriber.stage = .authenticating)
      (hmove : state.moveAttempt lobby.hall subscriber.attempt = some (hall, attempt)) :
      SubscriberMoves lobby subscriber .step { lobby with hall := hall }
        { subscriber with attempt := attempt }
  | panics (panic : Panic) (hstage : subscriber.stage = .authenticating)
      (hleft : subscriber.attempt.left = some (.error panic)) :
      SubscriberMoves lobby subscriber .step lobby (subscriber.goTo (.panicked panic))
  | refuses (error : ApiError) (hstage : subscriber.stage = .authenticating)
      (hleft : subscriber.attempt.left = some (.ok (.error error))) :
      SubscriberMoves lobby subscriber .step lobby (subscriber.goTo (.denying "auth" error))
  | passes (route : AuthRoute) (hstage : subscriber.stage = .authenticating)
      (hleft : subscriber.attempt.left = some (.ok (.ok (some route)))) :
      SubscriberMoves lobby subscriber .step lobby (subscriber.goTo (.screening route))
  | rejects (route : AuthRoute) (reason : String) (error : ApiError)
      (hstage : subscriber.stage = .screening route)
      (hcheck : subscriber.listener.check state.security = .error (reason, error)) :
      SubscriberMoves lobby subscriber .step lobby (subscriber.goTo (.denying reason error))
  | begins (route : AuthRoute) (hstage : subscriber.stage = .screening route)
      (hcheck : subscriber.listener.check state.security = .ok ()) :
      SubscriberMoves lobby subscriber .step lobby
        { subscriber with
          session := some (realtimeProgram.enter (state.opening subscriber.listener route))
          stage := .attending }
  | denies (reason : String) (error : ApiError)
      (hstage : subscriber.stage = .denying reason error) :
      SubscriberMoves lobby subscriber .step
        { lobby with
          hall := lobby.hall.setMetrics
            (lobby.hall.cells.metrics.requestDenied "subscribe" reason) }
        { subscriber with denied := some reason, stage := .answered error.intoResponse }
  | attends (act : SessionAct) (session session' : Session) (hub : Hub)
      (hstage : subscriber.stage = .attending) (hsession : subscriber.session = some session)
      (hmove : session.move lobby.hub act = some (hub, session')) :
      SubscriberMoves lobby subscriber (.attend act) { lobby with hub := hub }
        { subscriber with
          session := some session'
          stage := Subscriber.afterAct act session' }
  | clears (act : SessionAct) (session session' : Session) (hub : Hub)
      (hstage : (∃ response, subscriber.stage = .answered response) ∨
        subscriber.stage = .departed)
      (hsession : subscriber.session = some session)
      (hmove : session.move lobby.hub act = some (hub, session')) :
      SubscriberMoves lobby subscriber (.attend act) { lobby with hub := hub }
        { subscriber with session := some session' }

theorem authenticateSubscriber_moves (lobby lobby' : Lobby) (subscriber subscriber' : Subscriber)
    (hstage : subscriber.stage = .authenticating)
    (h : state.authenticateSubscriber lobby subscriber = some (lobby', subscriber')) :
    SubscriberMoves state lobby subscriber .step lobby' subscriber' := by
  unfold authenticateSubscriber at h
  split at h
  · split at h
    · cases h
    · rename_i hall attempt hmove
      cases h
      exact .authenticates attempt hall hstage hmove
  · rename_i panic hleft
    cases h
    exact .panics panic hstage hleft
  · rename_i error hleft
    cases h
    exact .refuses error hstage hleft
  · cases h
  · rename_i route hleft
    cases h
    exact .passes route hstage hleft

theorem attendSession_eq_some (lobby lobby' : Lobby) (subscriber subscriber' : Subscriber)
    (act : SessionAct) (next : Session → SubscriberStage)
    (h : attendSession lobby subscriber act next = some (lobby', subscriber')) :
    ∃ session session' hub, subscriber.session = some session ∧
      session.move lobby.hub act = some (hub, session') ∧
      lobby' = { lobby with hub := hub } ∧
      subscriber' = { subscriber with session := some session', stage := next session' } := by
  unfold attendSession at h
  split at h
  · cases h
  · rename_i session hsession
    split at h
    · cases h
    · rename_i hub session' hmove
      cases h
      exact ⟨session, session', hub, hsession, hmove, rfl, rfl⟩

theorem moveSubscriber_moves (lobby lobby' : Lobby) (subscriber subscriber' : Subscriber)
    (act : SubscriberAct)
    (h : state.moveSubscriber lobby subscriber act = some (lobby', subscriber')) :
    SubscriberMoves state lobby subscriber act lobby' subscriber' := by
  cases act with
  | step =>
    simp only [moveSubscriber] at h
    split at h
    · rename_i hstage
      exact authenticateSubscriber_moves state lobby lobby' subscriber subscriber' hstage h
    · rename_i route hstage
      cases h
      unfold screenSubscriber
      split
      · rename_i reason error hcheck
        exact .rejects route reason error hstage hcheck
      · rename_i hcheck
        exact .begins route hstage hcheck
    · rename_i reason error hstage
      cases h
      exact .denies reason error hstage
    · cases h
  | attend act =>
    simp only [moveSubscriber] at h
    split at h
    · rename_i hstage
      obtain ⟨session, session', hub, hsession, hmove, rfl, rfl⟩ :=
        attendSession_eq_some lobby lobby' subscriber subscriber' act _ h
      exact .attends act session session' hub hstage hsession hmove
    · rename_i response hstage
      obtain ⟨session, session', hub, hsession, hmove, rfl, rfl⟩ :=
        attendSession_eq_some lobby lobby' subscriber subscriber' act _ h
      rw [← hstage]
      exact .clears act session session' hub (Or.inl ⟨response, hstage⟩) hsession hmove
    · rename_i hstage
      obtain ⟨session, session', hub, hsession, hmove, rfl, rfl⟩ :=
        attendSession_eq_some lobby lobby' subscriber subscriber' act _ h
      rw [← hstage]
      exact .clears act session session' hub (Or.inr hstage) hsession hmove
    · cases h

/-! What holds of a request by where it is. -/

/-- The route that the request was granted. -/
def Admits (listener : Listener) (route : AuthRoute) : Prop :=
  state.verdict crates (Listener.arrival listener) = .granted (.ok (some route))

/-- The session is the one that the request was admitted and checked for. -/
structure Serves (listener : Listener) (session : Session) : Prop where
  fit : session.Fit
  checked : listener.check state.security = .ok ()
  admitted : ∃ route, state.Admits crates listener route ∧
    session.opening = state.opening listener route

/-- What there is of a session when its request is denied for a reason. -/
def Excused (session : Option Session) (reason : String) : Prop :=
  (reason ∈ ["auth", "invalid_json", "invalid_body", "channel"] ∧ session = none) ∨
  ∃ own, session = some own ∧ own.accepted = false ∧
    (reason = "capacity" ∧ own.stage = .refused ∨
      reason ∈ ["backend", "timeout"] ∧ own.stage = .closing)

def SubscriberFit (subscriber : Subscriber) : Prop :=
  (∀ session ∈ subscriber.session, state.Serves crates subscriber.listener session) ∧
  match subscriber.stage with
  | .authenticating =>
      subscriber.attempt.verdict = state.verdict crates (Listener.arrival subscriber.listener) ∧
        subscriber.session = none ∧ subscriber.denied = none
  | .screening route =>
      state.Admits crates subscriber.listener route ∧ subscriber.session = none ∧
        subscriber.denied = none
  | .attending =>
      subscriber.denied = none ∧ ∃ session, subscriber.session = some session ∧
        session.stage ≠ .refused ∧ session.stage ≠ .closing
  | .denying reason _ => subscriber.denied = none ∧ Excused subscriber.session reason
  | .answered _ =>
      ∃ reason, subscriber.denied = some reason ∧ Excused subscriber.session reason
  | .departed =>
      subscriber.denied = none ∧ ∃ session, subscriber.session = some session ∧
        session.stage = .closing
  | .panicked _ => subscriber.session = none ∧ subscriber.denied = none

end AppState

end RedisBridge.App
