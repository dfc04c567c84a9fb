import RedisBridge.SubscribeVisits
import RedisBridge.VisitConfinement

/-!
What the realtime route keeps in every interleaving. A request is in one account
at most: it was denied for one reason, its client left, or its stream was opened;
the permits, the total and the gauge of the streams are those of the sessions;
and a stream is one of the channel that was asked for, on the target of the token
that was presented.
-/
namespace RedisBridge.App

open BridgeConfig ClientAddress EnvVars Instants IpAddress Lockout Responses RustText Security
open SharedThreads Targets TokenType TransitionRuns

namespace Session

theorem Moves.opening {hub hub' : Hub} {session session' : Session} {act : SessionAct}
    (h : Moves hub session act hub' session') : session'.opening = session.opening := by
  cases h <;> rfl

/-- A session that is closing stays so, and is accepted no more than it was. -/
theorem Moves.closing {hub hub' : Hub} {session session' : Session} {act : SessionAct}
    (h : Moves hub session act hub' session') (hover : session.stage = .closing) :
    session'.stage = .closing ∧ session'.accepted = session.accepted := by
  cases h with
  | dropsPermit hstage hheld => exact ⟨hover, rfl⟩
  | dropsGuard hstage hheld => exact ⟨hover, rfl⟩
  | closes act hact hstage => exact ⟨rfl, rfl⟩
  | acquires hstage hroom => simp [hover] at hstage
  | refuses hstage hfull => simp [hover] at hstage
  | confirms hstage => simp [hover] at hstage
  | counts hstage => simp [hover] at hstage
  | opens hstage => simp [hover] at hstage
  | starts hstage => simp [hover] at hstage
  | turns subscription next happening event hstage hturn => simp [hover] at hstage

/-- A refused session does not go on. -/
theorem Moves.not_refused {hub hub' : Hub} {session session' : Session} {act : SessionAct}
    (h : Moves hub session act hub' session') : session.stage ≠ .refused := by
  intro hover
  cases h with
  | closes act hact hstage => simp [hover] at hstage
  | turns subscription next happening event hstage hturn => simp [hover] at hstage
  | acquires hstage | refuses hstage | confirms hstage | counts hstage | opens hstage
  | starts hstage | dropsPermit hstage | dropsGuard hstage => simp [hover] at hstage

end Session

namespace AppState

variable (state : AppState) (crates : Crates)

/-- Where an act of a session in progress leads. -/
def Follows (session : Session) : SubscriberStage → Prop
  | .attending => session.stage ≠ .refused ∧ session.stage ≠ .closing
  | .denying reason _ => Excused (some session) reason
  | .departed => session.stage = .closing
  | _ => False

theorem afterAct_follows (hub hub' : Hub) (session session' : Session) (act : SessionAct)
    (hfit : session.Fit) (hover : session.stage ≠ .closing)
    (h : session.move hub act = some (hub', session')) :
    Follows session' (Subscriber.afterAct act session') := by
  unfold Session.Fit at hfit
  cases act with
  | acquireRealtime =>
    simp only [Session.move] at h
    split at h
    · rename_i hstage
      rw [hstage] at hfit
      split at h
      · cases h
        exact Or.inr ⟨_, rfl, hfit.2.1, Or.inl ⟨rfl, rfl⟩⟩
      · cases h
        exact ⟨Stage.noConfusion, Stage.noConfusion⟩
    · cases h
  | settle setup =>
    simp only [Session.move] at h
    split at h
    · cases h
      exact ⟨Stage.noConfusion, Stage.noConfusion⟩
    · rename_i hstage
      rw [hstage] at hfit
      cases h
      exact Or.inr ⟨_, rfl, hfit.2.1, Or.inr ⟨List.mem_cons_self, rfl⟩⟩
    · rename_i hstage
      rw [hstage] at hfit
      cases h
      exact Or.inr ⟨_, rfl, hfit.2.1, Or.inr ⟨List.mem_cons_of_mem _ List.mem_cons_self, rfl⟩⟩
    · cases h
  | drop =>
    simp only [Session.move] at h
    split at h
    · cases h
      rfl
    · cases h
      rfl
    · cases h
      rfl
    · cases h
  | countTotal | countInflight | confirm =>
    simp only [Session.move] at h
    split at h
    · cases h
      exact ⟨Stage.noConfusion, Stage.noConfusion⟩
    · cases h
  | happen happening =>
    simp only [Session.move] at h
    split at h
    · split at h
      · cases h
      · cases h
        exact ⟨Stage.noConfusion, Stage.noConfusion⟩
    · cases h
  | dropPermit | dropGuard =>
    simp only [Session.move] at h
    split at h
    · rename_i hstage _
      exact absurd hstage hover
    · cases h

theorem Excused.kept {hub hub' : Hub} {session session' : Session} {act : SessionAct}
    {reason : String} (hmoves : Session.Moves hub session act hub' session')
    (h : Excused (some session) reason) : Excused (some session') reason := by
  rcases h with ⟨_, hnone⟩ | ⟨own, hown, haccepted, hends⟩
  · cases hnone
  · cases hown
    rcases hends with ⟨_, hrefused⟩ | ⟨hreason, hclosing⟩
    · exact absurd hrefused hmoves.not_refused
    · obtain ⟨hstays, hsame⟩ := hmoves.closing hclosing
      exact Or.inr ⟨session', rfl, hsame.trans haccepted, Or.inr ⟨hreason, hstays⟩⟩

theorem subscriber_fit (listener : Listener) :
    state.SubscriberFit crates (state.subscriber crates listener) :=
  ⟨fun session hsession => absurd hsession (Option.not_mem_none session), rfl, rfl, rfl⟩

theorem check_reason (security : SecurityPolicy) (listener : Listener) (reason : String)
    (error : ApiError) (h : listener.check security = .error (reason, error)) :
    reason ∈ ["auth", "invalid_json", "invalid_body", "channel"] := by
  unfold Listener.check at h
  split at h
  · cases h
    simp
  · split at h
    · cases h
      simp
    · split at h
      · cases h
        simp
      · cases h

/-- Every step leaves a request as it should be. -/
theorem SubscriberMoves.fit {lobby lobby' : Lobby} {subscriber subscriber' : Subscriber}
    {act : SubscriberAct} (hfit : state.SubscriberFit crates subscriber)
    (h : SubscriberMoves state lobby subscriber act lobby' subscriber') :
    state.SubscriberFit crates subscriber' := by
  unfold SubscriberFit at hfit
  obtain ⟨hserves, hfit⟩ := hfit
  have hserved (session session' : Session) (hub : Hub) (own : SessionAct)
      (hsession : subscriber.session = some session)
      (hmove : session.move lobby.hub own = some (hub, session')) :
      state.Serves crates subscriber.listener session' := by
    have hmoves := Session.move_moves lobby.hub hub session session' own hmove
    obtain ⟨hown, hchecked, route, hadmits, hopening⟩ := hserves session hsession
    exact ⟨hmoves.fit hown, hchecked, route, hadmits, hmoves.opening.trans hopening⟩
  cases h with
  | authenticates attempt hall hstage hmove =>
    rw [hstage] at hfit
    refine ⟨hserves, ?_⟩
    dsimp only
    rw [hstage]
    exact ⟨(moveAttempt_moves state _ _ _ _ hmove).verdict.trans hfit.1, hfit.2⟩
  | panics panic hstage hleft =>
    rw [hstage] at hfit
    exact ⟨hserves, hfit.2⟩
  | refuses error hstage hleft =>
    rw [hstage] at hfit
    exact ⟨hserves, hfit.2.2, Or.inl ⟨List.mem_cons_self, hfit.2.1⟩⟩
  | passes route hstage hleft =>
    rw [hstage] at hfit
    exact ⟨hserves, hfit.1.symm.trans (answered_of_left subscriber.attempt route hleft), hfit.2⟩
  | rejects route reason error hstage hcheck =>
    rw [hstage] at hfit
    exact ⟨hserves, hfit.2.2,
      Or.inl ⟨check_reason state.security subscriber.listener reason error hcheck, hfit.2.1⟩⟩
  | begins route hstage hcheck =>
    rw [hstage] at hfit
    refine ⟨?_, hfit.2.2, _, rfl, Stage.noConfusion, Stage.noConfusion⟩
    intro session hsession
    cases hsession
    exact ⟨⟨rfl, rfl, rfl⟩, hcheck, route, hfit.1, rfl⟩
  | denies reason error hstage =>
    rw [hstage] at hfit
    exact ⟨hserves, reason, rfl, hfit.2⟩
  | attends own session session' hub hstage hsession hmove =>
    rw [hstage] at hfit
    obtain ⟨hdenied, session₀, hsession₀, _, hover⟩ := hfit
    rw [hsession] at hsession₀
    cases hsession₀
    have hfollows := afterAct_follows lobby.hub hub session session' own
      (hserves session hsession).fit hover hmove
    refine ⟨?_, ?_⟩
    · intro other hother
      cases hother
      exact hserved session session' hub own hsession hmove
    · dsimp only
      cases hafter : Subscriber.afterAct own session' with
      | attending =>
        rw [hafter] at hfollows
        exact ⟨hdenied, session', rfl, hfollows⟩
      | denying reason error =>
        rw [hafter] at hfollows
        exact ⟨hdenied, hfollows⟩
      | departed =>
        rw [hafter] at hfollows
        exact ⟨hdenied, session', rfl, hfollows⟩
      | authenticating | screening | answered | panicked =>
        rw [hafter] at hfollows
        exact hfollows.elim
  | clears own session session' hub hstage hsession hmove =>
    have hmoves := Session.move_moves lobby.hub hub session session' own hmove
    refine ⟨?_, ?_⟩
    · intro other hother
      cases hother
      exact hserved session session' hub own hsession hmove
    · rcases hstage with ⟨response, hstage⟩ | hstage
      · rw [hstage, hsession] at hfit
        obtain ⟨reason, hdenied, hexcused⟩ := hfit
        dsimp only
        rw [hstage]
        exact ⟨reason, hdenied, hexcused.kept hmoves⟩
      · rw [hstage] at hfit
        obtain ⟨hdenied, session₀, hsession₀, hclosing⟩ := hfit
        rw [hsession] at hsession₀
        cases hsession₀
        dsimp only
        rw [hstage]
        exact ⟨hdenied, session', rfl, (hmoves.closing hclosing).1⟩

/-! Totals. -/

/-- Whatever the sessions keep in step with the hub, the requests do. -/
theorem hub_tallies (total : Hub → ℤ) (counted : Session → Bool)
    (hsessions : realtimeProgram.Tallies Session.Fit total counted) :
    (state.subscriberProgram crates).Tallies (state.SubscriberFit crates)
      (fun lobby => total lobby.hub) (fun subscriber => subscriber.session.any counted) := by
  refine ⟨fun listener => ⟨subscriber_fit state crates listener, rfl⟩, ?_, ?_⟩
  · intro lobby subscriber act lobby' subscriber' hfit h
    have hmoves := moveSubscriber_moves state lobby lobby' subscriber subscriber' act h
    refine ⟨hmoves.fit state crates hfit, ?_⟩
    have hmoved (session session' : Session) (hub : Hub) (own : SessionAct)
        (hsession : subscriber.session = some session)
        (hmove : session.move lobby.hub own = some (hub, session')) :
        total hub + (subscriber.session.any counted).toNat =
          total lobby.hub + ((some session').any counted).toNat := by
      rw [hsession]
      exact (hsessions.moves lobby.hub session own hub session'
        (hfit.1 session hsession).fit hmove).2
    cases hmoves with
    | begins route hstage hcheck =>
      unfold SubscriberFit at hfit
      rw [hstage] at hfit
      rw [hfit.2.2.1]
      dsimp only
      rw [Option.any_some, (hsessions.enters _).2]
      rfl
    | attends own session session' hub hstage hsession hmove =>
      exact hmoved session session' hub own hsession hmove
    | clears own session session' hub hstage hsession hmove =>
      exact hmoved session session' hub own hsession hmove
    | _ => rfl
  · intro lobby later lobby' h
    obtain ⟨hall, _, rfl⟩ := Option.map_eq_some_iff.mp h
    rfl

theorem SubscriberMoves.served {lobby lobby' : Lobby} {subscriber subscriber' : Subscriber}
    {act : SubscriberAct} (hfit : state.SubscriberFit crates subscriber)
    (h : SubscriberMoves state lobby subscriber act lobby' subscriber') :
    (lobby'.hall.cells.metrics.served = lobby.hall.cells.metrics.served ∧
      subscriber'.denied = subscriber.denied) ∨
    ∃ reason, subscriber.denied = none ∧ subscriber'.denied = some reason ∧
      lobby'.hall.cells.metrics.served = { lobby.hall.cells.metrics.served with
        requestDenied := Metrics.bump lobby.hall.cells.metrics.served.requestDenied "subscribe"
          reason } := by
  cases h with
  | authenticates attempt hall hstage hmove =>
    exact Or.inl ⟨(moveAttempt_moves state _ _ _ _ hmove).served, rfl⟩
  | denies reason error hstage =>
    unfold SubscriberFit at hfit
    rw [hstage] at hfit
    exact Or.inr ⟨reason, hfit.2.1, rfl, rfl⟩
  | _ => exact Or.inl ⟨rfl, rfl⟩

/-- A counter that the denials of the route move, or none of its steps. -/
theorem served_tallies (measure : Served → ℤ) (counted : Option String → Bool)
    (hnone : counted none = false)
    (hdenies : ∀ served : Served, ∀ reason,
      measure { served with
        requestDenied := Metrics.bump served.requestDenied "subscribe" reason } =
        measure served + (counted (some reason)).toNat) :
    (state.subscriberProgram crates).Tallies (state.SubscriberFit crates)
      (fun lobby => measure lobby.hall.cells.metrics.served)
      (fun subscriber => counted subscriber.denied) := by
  refine ⟨fun listener => ⟨subscriber_fit state crates listener, hnone⟩, ?_, ?_⟩
  · intro lobby subscriber act lobby' subscriber' hfit h
    have hmoves := moveSubscriber_moves state lobby lobby' subscriber subscriber' act h
    refine ⟨hmoves.fit state crates hfit, ?_⟩
    rcases hmoves.served state crates hfit with ⟨hserved, hdenied⟩ |
      ⟨reason, hbefore, hafter, hserved⟩
    · rw [hserved, hdenied]
    · rw [hserved, hbefore, hafter, hnone, hdenies]
      exact Int.add_zero _
  · intro lobby later lobby' h
    obtain ⟨hall, hpass, rfl⟩ := Option.map_eq_some_iff.mp h
    rw [((passTime_eq_some _ _ _).mp hpass).2]

/-! How a request ends up. -/

end AppState

namespace Subscriber

/-- The request was counted as denied under a label and a reason. -/
def deniedFor (label reason : String) (subscriber : Subscriber) : Bool :=
  "subscribe" == label && subscriber.denied == some reason

/-- Its stream was opened. -/
def accepted (subscriber : Subscriber) : Bool := subscriber.session.any Session.accepted

/-- Its client left before its stream was opened. -/
def parted (subscriber : Subscriber) : Bool :=
  match subscriber.stage with
  | .departed => !subscriber.accepted
  | _ => false

def hasPanicked (subscriber : Subscriber) : Bool :=
  match subscriber.stage with
  | .panicked _ => true
  | _ => false

/-- The request is over, or has its stream. -/
def isSettled (subscriber : Subscriber) : Bool :=
  match subscriber.stage with
  | .answered _ | .departed | .panicked _ => true
  | .attending => subscriber.accepted
  | _ => false

/-- The reasons for which the realtime route denies a request. -/
def reasons : List String :=
  ["auth", "invalid_json", "invalid_body", "channel", "capacity", "backend", "timeout"]

end Subscriber

namespace AppState

variable (state : AppState) (crates : Crates)

theorem excused_reason (session : Option Session) (reason : String)
    (h : Excused session reason) :
    reason ∈ Subscriber.reasons ∧ session.any Session.accepted = false := by
  unfold Subscriber.reasons
  rcases h with ⟨hreason, rfl⟩ | ⟨own, rfl, haccepted, ⟨rfl, _⟩ | ⟨hreason, _⟩⟩
  · exact ⟨List.mem_append_left ["capacity", "backend", "timeout"] hreason, rfl⟩
  · exact ⟨by simp, haccepted⟩
  · exact ⟨List.mem_append_right ["auth", "invalid_json", "invalid_body", "channel", "capacity"]
      hreason, haccepted⟩

/-- How often a request was denied for one of the reasons. -/
theorem denied_once (subscriber : Subscriber)
    (hreason : ∀ reason ∈ subscriber.denied, reason ∈ Subscriber.reasons) :
    ((Subscriber.reasons.map (Subscriber.deniedFor "subscribe")).map
      fun part => (part subscriber).toNat).sum = subscriber.denied.isSome.toNat := by
  simp only [List.map_map, Function.comp_def, Subscriber.deniedFor]
  cases hdenied : subscriber.denied with
  | none => rfl
  | some reason =>
    have hmem := hreason reason hdenied
    simp only [Subscriber.reasons, List.mem_cons, List.not_mem_nil, or_false] at hmem
    rcases hmem with rfl | rfl | rfl | rfl | rfl | rfl | rfl <;> decide

/-- A request that is settled panicked, was left by its client, has its stream, or
was denied for one reason. -/
theorem settled_once (subscriber : Subscriber) (hfit : state.SubscriberFit crates subscriber)
    (hsettled : subscriber.isSettled = true) :
    true.toNat = (([Subscriber.hasPanicked, Subscriber.parted, Subscriber.accepted] ++
      Subscriber.reasons.map (Subscriber.deniedFor "subscribe")).map
        fun part => (part subscriber).toNat).sum := by
  obtain ⟨_, hfit⟩ := hfit
  unfold Subscriber.isSettled at hsettled
  have hsum (hreason : ∀ reason ∈ subscriber.denied, reason ∈ Subscriber.reasons) :
      (([Subscriber.hasPanicked, Subscriber.parted, Subscriber.accepted] ++
        Subscriber.reasons.map (Subscriber.deniedFor "subscribe")).map
          fun part => (part subscriber).toNat).sum =
        subscriber.hasPanicked.toNat + (subscriber.parted.toNat + (subscriber.accepted.toNat +
          subscriber.denied.isSome.toNat)) := by
    rw [List.map_append, List.sum_append, denied_once subscriber hreason]
    simp only [List.map_cons, List.map_nil, List.sum_cons, List.sum_nil, Nat.add_zero,
      Nat.add_assoc]
  have hnone (hdenied : subscriber.denied = none) :
      ∀ reason ∈ subscriber.denied, reason ∈ Subscriber.reasons := by
    rw [hdenied]
    exact fun reason hmem => absurd hmem (Option.not_mem_none reason)
  cases hstage : subscriber.stage with
  | answered response =>
    rw [hstage] at hfit
    obtain ⟨reason, hdenied, hexcused⟩ := hfit
    obtain ⟨hreason, haccepted⟩ := excused_reason subscriber.session reason hexcused
    have hall : ∀ own ∈ subscriber.denied, own ∈ Subscriber.reasons := by
      rw [hdenied]
      intro own hown
      cases hown
      exact hreason
    rw [hsum hall]
    simp [Subscriber.hasPanicked, Subscriber.parted, Subscriber.accepted, hstage, haccepted,
      hdenied]
  | departed =>
    rw [hstage] at hfit
    rw [hsum (hnone hfit.1)]
    simp only [Subscriber.hasPanicked, Subscriber.parted, hstage, hfit.1]
    cases subscriber.accepted <;> rfl
  | panicked panic =>
    rw [hstage] at hfit
    rw [hsum (hnone hfit.2)]
    simp [Subscriber.hasPanicked, Subscriber.parted, Subscriber.accepted, hstage, hfit.1, hfit.2]
  | attending =>
    rw [hstage] at hfit hsettled
    have haccepted : subscriber.accepted = true := hsettled
    rw [hsum (hnone hfit.1), haccepted]
    simp [Subscriber.hasPanicked, Subscriber.parted, hstage, hfit.1]
  | authenticating | screening | denying =>
    rw [hstage] at hsettled
    cases hsettled

/-! What a stream is of. -/

/-- The acts of the session among those of its request. -/
def sessionActs (acts : List SubscriberAct) : List SessionAct :=
  acts.filterMap fun
    | .attend act => some act
    | .step => none

/-- The session is what its own acts make of it. -/
def Attended (acts : List SubscriberAct) (subscriber : Subscriber) : Prop :=
  match subscriber.session with
  | none => sessionActs acts = []
  | some session => session.Streams (sessionActs acts)

theorem SubscriberMoves.attended {lobby lobby' : Lobby} {subscriber subscriber' : Subscriber}
    {act : SubscriberAct} (acts : List SubscriberAct) (hfit : state.SubscriberFit crates subscriber)
    (hown : Attended acts subscriber)
    (h : SubscriberMoves state lobby subscriber act lobby' subscriber') :
    Attended (acts ++ [act]) subscriber' := by
  have hstep : sessionActs (acts ++ [.step]) = sessionActs acts := by simp [sessionActs]
  have hattend (own : SessionAct) : sessionActs (acts ++ [.attend own]) =
      sessionActs acts ++ [own] := by simp [sessionActs]
  have hmoved (session session' : Session) (hub : Hub) (own : SessionAct)
      (hsession : subscriber.session = some session)
      (hmove : session.move lobby.hub own = some (hub, session')) :
      session'.Streams (sessionActs (acts ++ [.attend own])) := by
    unfold Attended at hown
    rw [hsession] at hown
    rw [hattend]
    exact (Session.move_moves lobby.hub hub session session' own hmove).streams _ hown
  cases h with
  | begins route hstage hcheck =>
    unfold SubscriberFit at hfit
    rw [hstage] at hfit
    unfold Attended at hown ⊢
    rw [hfit.2.2.1] at hown
    dsimp only
    rw [hstep, hown]
    exact ⟨rfl, rfl⟩
  | attends own session session' hub hstage hsession hmove =>
    exact hmoved session session' hub own hsession hmove
  | clears own session session' hub hstage hsession hmove =>
    exact hmoved session session' hub own hsession hmove
  | authenticates | panics | refuses | passes | rejects | denies =>
    unfold Attended at hown ⊢
    rw [hstep]
    exact hown

def quietLobby (limit : ℕ) (clock : Instant) : Threads Lobby Subscriber :=
  ⟨⟨⟨freshCells, clock⟩, (quietHub limit).shared⟩, []⟩

theorem attended_of_run (limit : ℕ) (clock : Instant)
    (events : List (Event Listener SubscriberAct Instant)) (s : Threads Lobby Subscriber)
    (h : run (state.subscriberProgram crates).step (quietLobby limit clock) events = some s)
    (i : ℕ) (subscriber : Subscriber) (hsubscriber : s.threads[i]? = some subscriber) :
    state.SubscriberFit crates subscriber ∧ Attended (ownActs i events) subscriber := by
  apply Program.own_history
    (fun acts subscriber => state.SubscriberFit crates subscriber ∧ Attended acts subscriber) _ _
    events (quietLobby limit clock).shared s h i subscriber hsubscriber
  · intro listener
    exact ⟨subscriber_fit state crates listener, rfl⟩
  · intro acts lobby subscriber act lobby' subscriber' hinv hmove
    have hmoves := moveSubscriber_moves state lobby lobby' subscriber subscriber' act hmove
    exact ⟨hmoves.fit state crates hinv.1, hmoves.attended state crates acts hinv.1 hinv.2⟩

theorem check_eq_ok (security : SecurityPolicy) (listener : Listener)
    (h : listener.check security = .ok ()) :
    listener.body = some [] ∧ validateChannel listener.channel security.maxArgBytes = .ok () := by
  unfold Listener.check at h
  split at h
  · cases h
  · rename_i body hbody
    split at h
    · cases h
    · rename_i hempty
      split at h
      · cases h
      · rename_i hchannel
        exact ⟨hbody.trans (congrArg some (not_not.mp hempty)), hchannel⟩

/-- The credentials of a route that was granted at the realtime route. -/
theorem admitted_token (listener : Listener) (route : AuthRoute)
    (h : state.Admits crates listener route) :
    route.allowsRealtime = true ∧ ∃ token, presentedToken listener.headers = some token ∧
      state.tokenRoutes.lookup (state.tokenDigest crates token) = some route := by
  simp only [Admits, verdict, Listener.arrival] at h
  split at h
  · cases h
  · rename_i token htoken
    split at h
    · cases h
    · rename_i found hfound
      simp only [Door.passes, Verdict.granted.injEq] at h
      split at h
      · cases h
      · rename_i hallows
        cases h
        exact ⟨Bool.eq_true_of_not_eq_false hallows, token, htoken, hfound⟩

/-- In every interleaving of requests at the realtime route of a bridge that
started, a session is one of the channel that its request named, which passed the
check, on the target of the enabled token that it presented, which may subscribe;
and what its stream has sent is its confirmation and one event for each message
that its own Redis connection received. -/
theorem streams_confined (openClient : String → Except String Unit) (bridge : Bridge)
    (hnew : new openClient bridge = .ok state) (limit : ℕ) (clock : Instant)
    (events : List (Event Listener SubscriberAct Instant)) (s : Threads Lobby Subscriber)
    (h : run (state.subscriberProgram crates).step (quietLobby limit clock) events = some s)
    (i : ℕ) (subscriber : Subscriber) (hsubscriber : s.threads[i]? = some subscriber)
    (session : Session) (hsession : subscriber.session = some session) :
    (∃ token target listed, presentedToken subscriber.listener.headers = some token ∧
      target ∈ bridge.targets ∧ listed ∈ target.tokens ∧ listed.enabled = true ∧
      listed.hash = state.tokenDigest crates token ∧ listed.tokenType.allowsRealtime = true ∧
      session.opening = ⟨target.rrbId, subscriber.listener.channel⟩) ∧
    subscriber.listener.body = some [] ∧ subscriber.listener.channel ≠ "" ∧
    (asBytes subscriber.listener.channel).length ≤ state.security.maxArgBytes.val ∧
    (∀ c ∈ subscriber.listener.channel.toList, isDelimiter c = false) ∧
    ∀ subscription, session.stage = .streaming subscription →
      session.sent = session.opening.confirmation ::
        (received (happenings (sessionActs (ownActs i events)))).map Subscription.messageText := by
  obtain ⟨hfit, hattended⟩ := attended_of_run state crates limit clock events s h i subscriber
    hsubscriber
  obtain ⟨_, hchecked, route, hadmits, hopening⟩ := hfit.1 session hsession
  obtain ⟨hrealtime, token, htoken, hlook⟩ :=
    admitted_token state crates subscriber.listener route hadmits
  obtain ⟨htargets, _, hrouted⟩ := new_routed openClient bridge state hnew
  obtain ⟨target, listed, hlisted, hmem, henabled, hhash, htype⟩ :=
    (mem_routePairs bridge.targets _ route).mp ((hrouted.2 _ route).mp hlook)
  obtain ⟨hbody, hchannel⟩ := check_eq_ok state.security subscriber.listener hchecked
  obtain ⟨hempty, hsize, hdelimiters⟩ := (validateChannel_eq_ok _ _).mp hchannel
  refine ⟨⟨token, target, listed, htoken, List.mem_of_getElem? hlisted, hmem, henabled, hhash,
    ?_, ?_⟩, hbody, hempty, hsize, hdelimiters, ?_⟩
  · rw [htype]
    exact hrealtime
  · rw [hopening, opening, targetId, htargets, hlisted]
    rfl
  · intro subscription hstage
    unfold Attended at hattended
    rw [hsession] at hattended
    dsimp only at hattended
    unfold Session.Streams at hattended
    rw [hstage] at hattended
    obtain ⟨texts, hturns, hsent⟩ := hattended
    rw [hsent, Subscription.turns_events _ _ _ texts hturns]

/-- One target, with one token that may subscribe only. -/
def newsTarget : Bridge :=
  { twoTargets with
    targets := [⟨"news", "redis://news", 100, 4,
      [⟨"feed", none, TokenHash.sha256 abcCrates "abc", true, ⟨false, false, true⟩⟩]⟩] }

def chanListener : Listener := ⟨bearerAbc, .v4 1, "chan", some []⟩

/-- One request up to the first message of its stream. -/
def oneStream : List (Event Listener SubscriberAct Instant) :=
  [.entered chanListener] ++ List.replicate 8 (.moved 0 .step) ++
    [.acquireRealtime, .settle .subscribed, .countTotal, .countInflight, .confirm,
      .happen (.message "chan" [0x68, 0x69])].map fun act => .moved 0 (.attend act)

set_option maxRecDepth 4000 in
/-- The stream of the token `abc` is one of the target of that token. -/
theorem streams_confined_one : ∃ state s subscriber session,
    new (fun _ => .ok ()) newsTarget = .ok state ∧
    run (state.subscriberProgram abcCrates).step (quietLobby 1 (.ofSecs 0)) oneStream = some s ∧
    s.threads[0]? = some subscriber ∧ subscriber.session = some session ∧
    session.sent = ["subscribe,chan,1", "message,chan,hi"] ∧
    ∃ target ∈ newsTarget.targets, session.opening = ⟨target.rrbId, "chan"⟩ := by
  obtain ⟨state, s, subscriber, session, subscription, hnew, hrun, hsubscriber, hsession, hstage,
      hopening, hlistener⟩ : ∃ state s subscriber session subscription,
      new (fun _ => .ok ()) newsTarget = .ok state ∧
      run (state.subscriberProgram abcCrates).step (quietLobby 1 (.ofSecs 0)) oneStream = some s ∧
      s.threads[0]? = some subscriber ∧ subscriber.session = some session ∧
      session.stage = .streaming subscription ∧ session.opening = ⟨"news", "chan"⟩ ∧
      subscriber.listener = chanListener :=
    ⟨_, _, _, _, _, rfl, rfl, rfl, rfl, rfl, rfl, rfl⟩
  obtain ⟨⟨_, target, _, _, htarget, _, _, _, _, hnamed⟩, _, _, _, _, hsent⟩ :=
    streams_confined state abcCrates (fun _ => .ok ()) newsTarget hnew 1 (.ofSecs 0) oneStream s
      hrun 0 subscriber hsubscriber session hsession
  refine ⟨state, s, subscriber, session, hnew, hrun, hsubscriber, hsession, ?_, target, htarget, ?_⟩
  · rw [hsent subscription hstage, hopening]
    rfl
  · rw [hnamed, hlistener]
    rfl

end AppState

end RedisBridge.App
