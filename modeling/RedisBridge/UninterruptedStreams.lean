import RedisBridge.SubscribeAccounts
import RedisBridge.UninterruptedVisits

/-!
The step-by-step model of the realtime route against the route as one function.
A request that nothing interrupts comes to the panic, the response or the stream
that the function yields, with its counters and its lockout table; it keeps a
permit and a guard exactly if it has its stream.
-/
namespace RedisBridge.App

open BridgeConfig ClientAddress Instants IpAddress Lockout Responses RustText Security
open SharedThreads Targets TokenType TransitionRuns

/-- A request without its clock readings. -/
def SubscribeRequest.listener (request : SubscribeRequest) : Listener :=
  ⟨request.headers, request.peer, request.channel, request.body⟩

/-- The hub once a session has its stream. -/
def Hub.opened (hub : Hub) (target : String) : Hub :=
  ({ hub with permits := hub.permits - 1 }.countTotal target).moveInflight target 1

/-- What is left of a request by the outcome of its route. -/
def Opens (hub hub' : Hub) (subscriber : Subscriber) :
    Except Panic (Except Response Subscription) → Prop
  | .error panic => subscriber.stage = .panicked panic ∧ hub' = hub
  | .ok (.error response) =>
      subscriber.stage = .answered response ∧ hub' = hub ∧
        ∀ session ∈ subscriber.session, session.permit = false ∧ session.guarded = false
  | .ok (.ok subscription) =>
      ∃ session, subscriber.stage = .attending ∧ subscriber.session = some session ∧
        session.stage = .streaming subscription ∧
        session.sent = [session.opening.confirmation] ∧
        hub' = hub.opened session.opening.target

namespace AppState

variable (state : AppState) (crates : Crates)

/-- The request can come to this alone, from a hub to what is left of it. -/
def Comes (hub : Hub) (lobby : Lobby) (subscriber : Subscriber)
    (work : Step (Except Response Subscription)) : Prop :=
  ∃ clock hub' subscriber', (state.subscriberProgram crates).Alone lobby subscriber
      ⟨⟨work.2, clock⟩, hub'⟩ subscriber' ∧ Opens hub hub' subscriber' work.1

variable {state crates} {hub : Hub} {lobby : Lobby} {subscriber : Subscriber}

theorem Comes.step {mid : Lobby} {between : Subscriber} {act : SubscriberAct}
    {work : Step (Except Response Subscription)}
    (hmove : state.moveSubscriber lobby subscriber act = some (mid, between))
    (h : Comes state crates hub mid between work) :
    Comes state crates hub lobby subscriber work := by
  obtain ⟨clock, hub', subscriber', halone, hopens⟩ := h
  exact ⟨clock, hub', subscriber', .move act hmove halone, hopens⟩

variable (state crates)

/-- The step that counts a denial, and what the route yields for it. -/
def deniedWork (cells : Cells) (reason : String) (error : ApiError) :
    Step (Except Response Subscription) :=
  (.ok (.error error.intoResponse),
    { cells with metrics := cells.metrics.requestDenied "subscribe" reason })

/-- A request that is denied before it has a permit. -/
theorem comes_denied (lobby : Lobby) (subscriber : Subscriber) (reason : String)
    (error : ApiError) (hstage : subscriber.stage = .denying reason error)
    (hfree : ∀ session ∈ subscriber.session, session.permit = false ∧ session.guarded = false) :
    Comes state crates lobby.hub lobby subscriber (deniedWork lobby.hall.cells reason error) := by
  have hmove : state.moveSubscriber lobby subscriber .step =
      some (denySubscriber lobby subscriber reason error) := by
    simp only [moveSubscriber, hstage]
  exact Comes.step hmove ⟨lobby.hall.clock, lobby.hub, _, .done, rfl, rfl, hfree⟩

/-- A request that is denied while its session holds the permit gives it back. -/
theorem comes_freed (lobby : Lobby) (subscriber : Subscriber) (reason : String)
    (error : ApiError) (session : Session) (hstage : subscriber.stage = .denying reason error)
    (hsession : subscriber.session = some session)
    (hclosing : session.stage = .closing) (hheld : session.permit = true)
    (hguard : session.guarded = false) (hroom : 0 < hub.permits)
    (hhub : lobby.hub = { hub with permits := hub.permits - 1 }) :
    Comes state crates hub lobby subscriber (deniedWork lobby.hall.cells reason error) := by
  have hmove : state.moveSubscriber lobby subscriber .step =
      some (denySubscriber lobby subscriber reason error) := by
    simp only [moveSubscriber, hstage]
  have hback : ({ lobby.hub with permits := lobby.hub.permits + 1 } : Hub) = hub := by
    rw [hhub]
    cases hub
    simp only [Hub.mk.injEq, and_true]
    exact Nat.sub_add_cancel hroom
  have hdrop : state.moveSubscriber (denySubscriber lobby subscriber reason error).1
      (denySubscriber lobby subscriber reason error).2 (.attend .dropPermit) =
        some (⟨(denySubscriber lobby subscriber reason error).1.hall, hub⟩,
          { subscriber with
            session := some { session with permit := false }
            denied := some reason
            stage := .answered error.intoResponse }) := by
    simp only [moveSubscriber, denySubscriber, attendSession, hsession, Session.move, hclosing,
      hheld, hback]
  refine Comes.step hmove (Comes.step hdrop ⟨lobby.hall.clock, hub, _, .done, rfl, rfl, ?_⟩)
  intro own hown
  cases hown
  exact ⟨rfl, hguard⟩

/-- What the route yields once a request is admitted and checked. -/
def settledWork (cells : Cells) (channel : String) (permitted : Bool) (setup : Setup) :
    Step (Except Response Subscription) :=
  if permitted = false then
    deniedWork cells "capacity" (.tooManyRequests "Realtime connection capacity exhausted")
  else
    match setup with
    | .failed => deniedWork cells "backend" (.unavailable "Redis backend unavailable")
    | .timedOut => deniedWork cells "timeout" (.timeout "Redis subscription setup timed out")
    | .subscribed => (.ok (.ok ⟨channel, true, Duration.fromMillis 250⟩), cells)

theorem subscribe_eq (cells : Cells) (request : SubscribeRequest) (permitted : Bool)
    (setup : Setup) :
    state.subscribe crates cells request permitted setup =
      (state.realtimeAuth crates cells request.headers
        (state.clientIp request.headers request.peer) request.clock).andThen fun result cells =>
          match result with
          | .error error => deniedWork cells "auth" error
          | .ok _ =>
              match request.listener.check state.security with
              | .error (reason, error) => deniedWork cells reason error
              | .ok () => settledWork cells request.channel permitted setup := by
  refine congrArg (Step.andThen _) (funext fun result => funext fun mid => ?_)
  cases result with
  | error error => rfl
  | ok route =>
    simp only [Listener.check, SubscribeRequest.listener]
    cases request.body with
    | none => rfl
    | some body =>
      by_cases hempty : body ≠ []
      · simp only [if_pos hempty]
        rfl
      · simp only [if_neg hempty]
        cases validateChannel request.channel state.security.maxArgBytes <;> rfl

/-- A session of its own, from its permit to its stream. -/
theorem comes_attending (listener : Listener) (attempt : Attempt) (opening : Opening)
    (setup : Setup) :
    Comes state crates lobby.hub lobby
      ⟨listener, attempt, some (realtimeProgram.enter opening), none, .attending⟩
      (settledWork lobby.hall.cells opening.channel (decide (0 < lobby.hub.permits)) setup) := by
  unfold settledWork
  let attending (session : Session) (stage : SubscriberStage) : Subscriber :=
    ⟨listener, attempt, some session, none, stage⟩
  by_cases hfull : lobby.hub.permits = 0
  · have hnone : decide (0 < lobby.hub.permits) = false := by rw [hfull]; rfl
    have hrefused : state.moveSubscriber lobby
        (attending (realtimeProgram.enter opening) .attending) (.attend .acquireRealtime) =
          some (lobby, attending ((realtimeProgram.enter opening).goTo .refused)
            (.denying "capacity" (.tooManyRequests "Realtime connection capacity exhausted"))) := by
      simp only [moveSubscriber, attending, attendSession, realtimeProgram, Session.move, hfull,
        if_true, Session.goTo, Subscriber.afterAct]
    rw [if_pos hnone]
    refine Comes.step hrefused (comes_denied state crates lobby _ "capacity" _ rfl ?_)
    intro session hsession
    cases hsession
    exact ⟨rfl, rfl⟩
  · have hroom : 0 < lobby.hub.permits := Nat.pos_of_ne_zero hfull
    have hsome : ¬decide (0 < lobby.hub.permits) = false := by simp [hroom]
    let taken : Lobby := ⟨lobby.hall, { lobby.hub with permits := lobby.hub.permits - 1 }⟩
    let settling : Session := ⟨opening, .settingUp, true, false, false, []⟩
    have htaken : state.moveSubscriber lobby
        (attending (realtimeProgram.enter opening) .attending) (.attend .acquireRealtime) =
          some (taken, attending settling .attending) := by
      simp only [moveSubscriber, attending, attendSession, realtimeProgram, Session.move,
        if_neg hfull, Subscriber.afterAct, taken, settling]
    rw [if_neg hsome]
    refine Comes.step htaken ?_
    cases setup with
    | failed =>
      have hfailed : state.moveSubscriber taken (attending settling .attending)
          (.attend (.settle .failed)) = some (taken, attending (settling.goTo .closing)
            (.denying "backend" (.unavailable "Redis backend unavailable"))) := rfl
      exact Comes.step hfailed (comes_freed state crates taken _ "backend" _
        (settling.goTo .closing) rfl rfl rfl rfl rfl hroom rfl)
    | timedOut =>
      have htimed : state.moveSubscriber taken (attending settling .attending)
          (.attend (.settle .timedOut)) = some (taken, attending (settling.goTo .closing)
            (.denying "timeout" (.timeout "Redis subscription setup timed out"))) := rfl
      exact Comes.step htimed (comes_freed state crates taken _ "timeout" _ (settling.goTo .closing)
        rfl rfl rfl rfl rfl hroom rfl)
    | subscribed =>
      let counted : Lobby := ⟨lobby.hall, taken.hub.countTotal opening.target⟩
      let opened : Lobby := ⟨lobby.hall, lobby.hub.opened opening.target⟩
      have hconfirmed : state.moveSubscriber taken (attending settling .attending)
          (.attend (.settle .subscribed)) =
            some (taken, attending (settling.goTo .confirmed) .attending) := rfl
      have hcounted : state.moveSubscriber taken (attending (settling.goTo .confirmed) .attending)
          (.attend .countTotal) =
            some (counted, attending ⟨opening, .counted, true, true, false, []⟩ .attending) := rfl
      have hopened : state.moveSubscriber counted
          (attending ⟨opening, .counted, true, true, false, []⟩ .attending)
          (.attend .countInflight) =
            some (opened, attending ⟨opening, .opened, true, true, true, []⟩ .attending) := rfl
      have hstarted : state.moveSubscriber opened
          (attending ⟨opening, .opened, true, true, true, []⟩ .attending) (.attend .confirm) =
            some (opened, attending ⟨opening, .streaming opening.subscription, true, true, true,
              [opening.confirmation]⟩ .attending) := rfl
      exact Comes.step hconfirmed (Comes.step hcounted (Comes.step hopened (Comes.step hstarted
        ⟨lobby.hall.clock, opened.hub, _, .done, _, rfl, rfl, rfl, rfl, rfl⟩)))

/-- A step of authentication is a step of the request. -/
theorem alone_trying (listener : Listener) (hub : Hub) {hall hall' : Hall}
    {attempt attempt' : Attempt}
    (h : (state.authProgram crates).Alone hall attempt hall' attempt') :
    (state.subscriberProgram crates).Alone ⟨hall, hub⟩
      ((state.subscriber crates listener).trying attempt) ⟨hall', hub⟩
      ((state.subscriber crates listener).trying attempt') := by
  refine Program.Alone.lift (fun hall => (⟨hall, hub⟩ : Lobby))
    (state.subscriber crates listener).trying ?_ ?_ h
  · intro hall attempt act hall' attempt' (hmove : state.moveAttempt hall attempt = _)
    have hleft : attempt.left = none := by
      cases hplace : attempt.place with
      | answered | panicked =>
        rw [moveAttempt, hplace] at hmove
        cases hmove
      | _ => rw [Attempt.left, hplace]
    refine ⟨.step, ?_⟩
    simp only [subscriberProgram, moveSubscriber, authenticateSubscriber, Subscriber.trying, hleft,
      hmove]
  · intro hall later hall' hpass
    refine ⟨later, ?_⟩
    simp only [subscriberProgram, passLobbyTime]
    rw [show passTime hall later = some hall' from hpass]
    rfl

/-- A request that arrives comes to what the route yields for it. -/
theorem comes_subscriber (lobby : Lobby) (request : SubscribeRequest) (setup : Setup)
    (hordered : [lobby.hall.clock, request.clock.failure, request.clock.snapshot].IsChain
      (· ≤ ·)) :
    Comes state crates lobby.hub lobby (state.subscriber crates request.listener)
      (state.subscribe crates lobby.hall.cells request (decide (0 < lobby.hub.permits)) setup) := by
  let authRequest : AuthRequest :=
    ⟨.realtime, request.headers, request.peer, request.clock, request.clock.snapshot⟩
  have hchain : [lobby.hall.clock, authRequest.clock.failure, authRequest.clock.snapshot,
      authRequest.scrape].IsChain (· ≤ ·) := by
    simp only [List.isChain_cons_cons, List.isChain_singleton, and_true] at hordered ⊢
    exact ⟨hordered.1, hordered.2, le_refl _⟩
  obtain ⟨clock, attempt, halone, hattempt⟩ :=
    attempt_leaves state crates lobby.hall authRequest hchain
  have hauth : state.authenticate crates lobby.hall.cells authRequest =
      (state.realtimeAuth crates lobby.hall.cells request.headers
        (state.clientIp request.headers request.peer) request.clock).andThen
          fun result cells => (.ok (result.map some), cells) := rfl
  let arrived := (state.subscriber crates request.listener).trying attempt
  rw [subscribe_eq]
  rw [hauth] at hattempt halone
  cases hstep : state.realtimeAuth crates lobby.hall.cells request.headers
      (state.clientIp request.headers request.peer) request.clock with
  | mk outcome cells =>
    have hcells : (Step.andThen (outcome, cells) fun result cells =>
        ((.ok (result.map some), cells) : AuthOutcome × Cells)).2 = cells := by
      cases outcome <;> rfl
    rw [hstep] at hattempt halone
    rw [hcells] at halone
    let mid : Lobby := ⟨⟨cells, clock⟩, lobby.hub⟩
    have hfirst (work : Step (Except Response Subscription))
        (hrest : Comes state crates lobby.hub mid arrived work) :
        Comes state crates lobby.hub lobby (state.subscriber crates request.listener) work := by
      obtain ⟨last, hub', subscriber', hlater, hopens⟩ := hrest
      exact ⟨last, hub', subscriber',
        (alone_trying state crates request.listener lobby.hub halone).trans hlater, hopens⟩
    cases outcome with
    | error panic =>
      have hmove : state.moveSubscriber mid arrived .step =
          some (mid, arrived.goTo (.panicked panic)) := by
        simp only [moveSubscriber, arrived, Subscriber.trying, authenticateSubscriber, hattempt,
          Step.andThen]
      exact hfirst _ (Comes.step hmove ⟨clock, lobby.hub, _, .done, rfl, rfl⟩)
    | ok result =>
      cases result with
      | error error =>
        have hmove : state.moveSubscriber mid arrived .step =
            some (mid, arrived.goTo (.denying "auth" error)) := by
          simp only [moveSubscriber, arrived, Subscriber.trying, authenticateSubscriber, hattempt,
            Step.andThen, Except.map]
        refine hfirst _ (Comes.step hmove (comes_denied state crates mid _ "auth" error rfl ?_))
        exact fun session hsession => absurd hsession (Option.not_mem_none session)
      | ok route =>
        have hmove : state.moveSubscriber mid arrived .step =
            some (mid, arrived.goTo (.screening route)) := by
          simp only [moveSubscriber, arrived, Subscriber.trying, authenticateSubscriber, hattempt,
            Step.andThen, Except.map]
        refine hfirst _ (Comes.step hmove ?_)
        cases hcheck : request.listener.check state.security with
        | error denial =>
          obtain ⟨reason, error⟩ := denial
          have hrejects : state.moveSubscriber mid (arrived.goTo (.screening route)) .step =
              some (mid, arrived.goTo (.denying reason error)) := by
            simp only [moveSubscriber, arrived, Subscriber.trying, Subscriber.goTo, subscriber,
              screenSubscriber, hcheck]
          simp only [Step.ok_andThen]
          refine Comes.step hrejects (comes_denied state crates mid _ reason error rfl ?_)
          exact fun session hsession => absurd hsession (Option.not_mem_none session)
        | ok checked =>
          have hbegins : state.moveSubscriber mid (arrived.goTo (.screening route)) .step =
              some (mid, ⟨request.listener, attempt,
                some (realtimeProgram.enter (state.opening request.listener route)), none,
                .attending⟩) := by
            simp only [moveSubscriber, arrived, Subscriber.trying, Subscriber.goTo, subscriber,
              screenSubscriber, hcheck]
          simp only [Step.ok_andThen]
          exact Comes.step hbegins (comes_attending state crates request.listener attempt
            (state.opening request.listener route) setup)

/-- At the realtime route, a request that nothing interrupts comes, step by step,
to what the route yields at once: its panic, its response or its stream, its
counters and its lockout table; and it keeps a permit exactly with its stream. -/
theorem subscribe_uninterrupted (lobby : Lobby) (threads : List Subscriber)
    (request : SubscribeRequest) (setup : Setup)
    (hordered : [lobby.hall.clock, request.clock.failure, request.clock.snapshot].IsChain
      (· ≤ ·)) :
    ∃ events clock hub subscriber, run (state.subscriberProgram crates).step ⟨lobby, threads⟩
        (.entered request.listener :: events) =
          some ⟨⟨⟨(state.subscribe crates lobby.hall.cells request
            (decide (0 < lobby.hub.permits)) setup).2, clock⟩, hub⟩, threads ++ [subscriber]⟩ ∧
      Opens lobby.hub hub subscriber (state.subscribe crates lobby.hall.cells request
        (decide (0 < lobby.hub.permits)) setup).1 := by
  obtain ⟨clock, hub, subscriber, halone, hopens⟩ :=
    comes_subscriber state crates lobby request setup hordered
  obtain ⟨events, hrun⟩ := halone.run threads
  exact ⟨events, clock, hub, subscriber, (run_cons_eq_some _ _ _ _ _).mpr ⟨_, rfl, hrun⟩, hopens⟩

/-- A request with a token that may subscribe gets its stream where one seat is free. -/
theorem subscribe_uninterrupted_one : ∃ state, new (fun _ => .ok ()) newsTarget = .ok state ∧
    ∃ events clock hub subscriber session subscription,
      run (state.subscriberProgram abcCrates).step (quietLobby 1 (.ofSecs 0))
        (.entered chanListener :: events) = some ⟨⟨⟨freshCells, clock⟩, hub⟩, [subscriber]⟩ ∧
      subscriber.session = some session ∧ session.stage = .streaming subscription ∧
      hub = (quietHub 1).shared.opened session.opening.target := by
  obtain ⟨state, hnew, subscription, hwork⟩ :
      ∃ state, new (fun _ => .ok ()) newsTarget = .ok state ∧
      ∃ subscription, state.subscribe abcCrates freshCells
        ⟨.v4 1, bearerAbc, "chan", some [], ⟨.ofSecs 0, .ofSecs 0⟩⟩ true .subscribed =
          (.ok (.ok subscription), freshCells) := ⟨_, rfl, _, rfl⟩
  obtain ⟨events, clock, hub, subscriber, hrun, hopens⟩ :=
    subscribe_uninterrupted state abcCrates (quietLobby 1 (.ofSecs 0)).shared []
      ⟨.v4 1, bearerAbc, "chan", some [], ⟨.ofSecs 0, .ofSecs 0⟩⟩ .subscribed (by decide)
  have hsame : state.subscribe abcCrates (quietLobby 1 (.ofSecs 0)).shared.hall.cells
      ⟨.v4 1, bearerAbc, "chan", some [], ⟨.ofSecs 0, .ofSecs 0⟩⟩
      (decide (0 < (quietLobby 1 (.ofSecs 0)).shared.hub.permits)) .subscribed =
        (.ok (.ok subscription), freshCells) := hwork
  rw [hsame] at hrun hopens
  obtain ⟨session, _, hsession, hstage, _, hhub⟩ := hopens
  exact ⟨state, hnew, events, clock, hub, subscriber, session, subscription, hrun, hsession, hstage,
    hhub⟩

end AppState

end RedisBridge.App
