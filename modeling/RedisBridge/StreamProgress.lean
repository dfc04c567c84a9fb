import RedisBridge.SubscribeAccounts
import RedisBridge.VisitProgress

/-!
What a client at the realtime route may rely on. Its request comes to its stream,
or to its answer, in a bounded number of its own acts, whatever the others do,
and until then it can go on, if need be by the timeout of the setup. A stream can
be dropped at any time, and what a request holds that is over can be given back.
-/
namespace RedisBridge.App

open BridgeConfig ClientAddress Instants IpAddress Lockout Responses RustText Security SharedThreads
open Targets TokenType TransitionRuns

/-! What a request has still to do. -/

/-- Every act but a turn of the open stream. -/
def SubscriberAct.isOwn : SubscriberAct → Bool
  | .attend (.happen _) => false
  | _ => true

namespace Session

/-- How many acts a session has left at most, without the turns of its stream. -/
def actsLeft (session : Session) : ℕ :=
  match session.stage with
  | .arriving => 8
  | .refused => 0
  | .settingUp => 7
  | .confirmed => 6
  | .counted => 5
  | .opened => 4
  | .streaming _ => 3
  | .closing => session.permit.toNat + session.guarded.toNat

theorem Moves.actsLeft {hub hub' : Hub} {session session' : Session} {act : SessionAct}
    (h : Moves hub session act hub' session') :
    session'.actsLeft + (SubscriberAct.attend act).isOwn.toNat ≤ session.actsLeft := by
  unfold Session.actsLeft
  cases h with
  | closes act hact hstage =>
    have hpermit := session.permit.toNat_le
    have hguarded := session.guarded.toNat_le
    have hown := (SubscriberAct.attend act).isOwn.toNat_le
    rcases hstage with hstage | hstage | ⟨subscription, hstage⟩
    · rw [hstage]
      dsimp only [goTo]
      omega
    · rw [hstage]
      dsimp only [goTo]
      omega
    · rw [hstage]
      dsimp only [goTo]
      omega
  | dropsPermit hstage hheld =>
    rw [hstage, hheld]
    dsimp only [SubscriberAct.isOwn]
    rw [Nat.add_right_comm]
    exact le_refl _
  | dropsGuard hstage hheld =>
    rw [hstage, hheld]
    exact le_refl _
  | acquires hstage hroom | refuses hstage hfull | confirms hstage | counts hstage
  | opens hstage | starts hstage | turns subscription next happening event hstage hturn =>
    rw [hstage]
    exact Nat.le_of_ble_eq_true rfl

def isStreaming (session : Session) : Bool :=
  match session.stage with
  | .streaming _ => true
  | _ => false

end Session

namespace Subscriber

/-- How many acts a request has left at most, without the turns of its stream. -/
def actsLeft (subscriber : Subscriber) : ℕ :=
  let held := subscriber.session.elim 0 Session.actsLeft
  match subscriber.stage with
  | .authenticating => 11 + AppState.stepsLeft subscriber.attempt
  | .screening _ => 10
  | .attending | .denying _ _ => 1 + held
  | .answered _ | .departed => held
  | .panicked _ => 0

/-- The request has its stream, or is over. -/
def isThrough (subscriber : Subscriber) : Bool :=
  match subscriber.stage with
  | .answered _ | .departed | .panicked _ => true
  | .attending => subscriber.session.any Session.isStreaming
  | _ => false

theorem actsLeft_pos (subscriber : Subscriber) (h : subscriber.isThrough = false) :
    0 < subscriber.actsLeft := by
  unfold isThrough at h
  unfold actsLeft
  cases hstage : subscriber.stage with
  | answered response | departed | panicked panic =>
    rw [hstage] at h
    cases h
  | authenticating => exact Nat.add_pos_left (Nat.succ_pos 10) _
  | screening route => exact Nat.succ_pos 9
  | attending | denying reason error => exact Nat.add_pos_left Nat.one_pos _

theorem afterAct_actsLeft (subscriber : Subscriber) (act : SessionAct) (session : Session) :
    ({ subscriber with
      session := some session, stage := afterAct act session } : Subscriber).actsLeft ≤
        1 + session.actsLeft := by
  have hcases : (afterAct act session = .attending ∨ afterAct act session = .departed) ∨
      ∃ reason error, afterAct act session = .denying reason error := by
    cases act with
    | acquireRealtime =>
      unfold afterAct
      dsimp only
      split
      · exact Or.inr ⟨_, _, rfl⟩
      · exact Or.inl (Or.inl rfl)
    | settle setup =>
      cases setup with
      | subscribed => exact Or.inl (Or.inl rfl)
      | failed | timedOut => exact Or.inr ⟨_, _, rfl⟩
    | drop => exact Or.inl (Or.inr rfl)
    | _ => exact Or.inl (Or.inl rfl)
  unfold actsLeft
  rcases hcases with (hafter | hafter) | ⟨reason, error, hafter⟩
  · rw [hafter]
    exact le_refl _
  · rw [hafter]
    exact Nat.le_add_left _ _
  · rw [hafter]
    exact le_refl _

end Subscriber

namespace AppState

variable (state : AppState) (crates : Crates)

theorem SubscriberMoves.actsLeft {lobby lobby' : Lobby} {subscriber subscriber' : Subscriber}
    {act : SubscriberAct} (hfit : state.SubscriberFit crates subscriber)
    (h : SubscriberMoves state lobby subscriber act lobby' subscriber') :
    subscriber'.actsLeft + act.isOwn.toNat ≤ subscriber.actsLeft := by
  obtain ⟨_, hfit⟩ := hfit
  cases h with
  | authenticates attempt hall hstage hmove =>
    have hless := (moveAttempt_moves state _ _ _ _ hmove).stepsLeft
    unfold Subscriber.actsLeft
    dsimp only
    rw [hstage]
    exact Nat.add_lt_add_left hless 11
  | panics panic hstage hleft =>
    unfold Subscriber.actsLeft
    rw [hstage]
    exact Nat.le_add_right_of_le (Nat.le_of_ble_eq_true rfl)
  | refuses error hstage hleft =>
    rw [hstage] at hfit
    unfold Subscriber.actsLeft
    rw [hstage]
    dsimp only [Subscriber.goTo]
    rw [hfit.2.1]
    exact Nat.le_add_right_of_le (Nat.le_of_ble_eq_true rfl)
  | passes route hstage hleft =>
    unfold Subscriber.actsLeft
    rw [hstage]
    exact Nat.le_add_right _ _
  | rejects route reason error hstage hcheck =>
    rw [hstage] at hfit
    unfold Subscriber.actsLeft
    rw [hstage]
    dsimp only [Subscriber.goTo]
    rw [hfit.2.1]
    exact Nat.le_of_ble_eq_true rfl
  | begins route hstage hcheck =>
    unfold Subscriber.actsLeft
    rw [hstage]
    exact le_refl _
  | denies reason error hstage =>
    unfold Subscriber.actsLeft
    rw [hstage]
    exact (Nat.add_comm _ _).le
  | attends own session session' hub hstage hsession hmove =>
    have hless := (Session.move_moves _ _ _ _ _ hmove).actsLeft
    have hafter := subscriber.afterAct_actsLeft own session'
    have hbefore : subscriber.actsLeft = 1 + session.actsLeft := by
      unfold Subscriber.actsLeft
      rw [hstage, hsession]
      rfl
    omega
  | clears own session session' hub hstage hsession hmove =>
    have hless := (Session.move_moves _ _ _ _ _ hmove).actsLeft
    unfold Subscriber.actsLeft
    dsimp only
    rcases hstage with ⟨response, hstage⟩ | hstage
    · rw [hstage, hsession]
      exact hless
    · rw [hstage, hsession]
      exact hless

theorem subscriber_actsLeft (listener : Listener) :
    (state.subscriber crates listener).actsLeft ≤ 21 :=
  Nat.add_le_add_left (stepsLeft_attempt state crates (Listener.arrival listener)) 11

/-! A request that is not through can go on. -/

/-- What the route does by itself; a setup ends by its timeout at the latest. -/
def routeActs : List SubscriberAct :=
  [.step, .attend .acquireRealtime, .attend (.settle .timedOut), .attend .countTotal,
    .attend .countInflight, .attend .confirm]

theorem authenticateSubscriber_isSome (lobby : Lobby) (subscriber : Subscriber)
    (hverdict : subscriber.attempt.verdict =
      state.verdict crates (Listener.arrival subscriber.listener)) :
    (state.authenticateSubscriber lobby subscriber).isSome = true := by
  unfold authenticateSubscriber
  split
  · rename_i hleft
    have hmove := moveAttempt_isSome state lobby.hall subscriber.attempt hleft
    split
    · rename_i hnone
      rw [hnone] at hmove
      cases hmove
    · rfl
  · rfl
  · rfl
  · rename_i hleft
    exact absurd (hverdict ▸ answered_none subscriber.attempt hleft)
      (granted_ne_none state crates (Listener.arrival subscriber.listener) Door.noConfusion)
  · rfl

/-- A session in progress has an act of the route left until it streams. -/
theorem session_goes (hub : Hub) (session : Session) (hrefused : session.stage ≠ .refused)
    (hclosing : session.stage ≠ .closing) (hstreaming : session.isStreaming = false) :
    ∃ act, .attend act ∈ routeActs ∧ (session.move hub act).isSome = true := by
  unfold Session.isStreaming at hstreaming
  cases hstage : session.stage with
  | arriving =>
    refine ⟨.acquireRealtime, by simp [routeActs], ?_⟩
    simp only [Session.move, hstage]
    split <;> rfl
  | settingUp =>
    exact ⟨.settle .timedOut, by simp [routeActs], by simp [Session.move, hstage]⟩
  | confirmed => exact ⟨.countTotal, by simp [routeActs], by simp [Session.move, hstage]⟩
  | counted => exact ⟨.countInflight, by simp [routeActs], by simp [Session.move, hstage]⟩
  | opened => exact ⟨.confirm, by simp [routeActs], by simp [Session.move, hstage]⟩
  | refused => exact absurd hstage hrefused
  | closing => exact absurd hstage hclosing
  | streaming subscription =>
    rw [hstage] at hstreaming
    cases hstreaming

theorem attendSession_isSome (lobby : Lobby) (subscriber : Subscriber) (session : Session)
    (act : SessionAct) (next : Session → SubscriberStage)
    (hsession : subscriber.session = some session)
    (hmove : (session.move lobby.hub act).isSome = true) :
    (attendSession lobby subscriber act next).isSome = true := by
  obtain ⟨⟨hub, session'⟩, hsome⟩ := Option.isSome_iff_exists.mp hmove
  simp only [attendSession, hsession, hsome, Option.isSome_some]

theorem moveSubscriber_goes (lobby : Lobby) (subscriber : Subscriber)
    (hfit : state.SubscriberFit crates subscriber) (hthrough : subscriber.isThrough = false) :
    ∃ act ∈ routeActs, (state.moveSubscriber lobby subscriber act).isSome = true := by
  obtain ⟨_, hfit⟩ := hfit
  unfold Subscriber.isThrough at hthrough
  cases hstage : subscriber.stage with
  | authenticating =>
    rw [hstage] at hfit
    refine ⟨.step, List.mem_cons_self, ?_⟩
    simp only [moveSubscriber, hstage]
    exact authenticateSubscriber_isSome state crates lobby subscriber hfit.1
  | screening route =>
    refine ⟨.step, List.mem_cons_self, ?_⟩
    simp only [moveSubscriber, hstage, Option.isSome_some]
  | denying reason error =>
    refine ⟨.step, List.mem_cons_self, ?_⟩
    simp only [moveSubscriber, hstage, Option.isSome_some]
  | attending =>
    rw [hstage] at hfit hthrough
    obtain ⟨_, session, hsession, hrefused, hclosing⟩ := hfit
    rw [hsession] at hthrough
    obtain ⟨act, hact, hmove⟩ := session_goes lobby.hub session hrefused hclosing hthrough
    refine ⟨.attend act, hact, ?_⟩
    simp only [moveSubscriber, hstage]
    exact attendSession_isSome lobby subscriber session act _ hsession hmove
  | answered response | departed | panicked panic =>
    rw [hstage] at hthrough
    cases hthrough

/-- What a request holds that is over can be given back. -/
theorem moveSubscriber_gives (lobby : Lobby) (subscriber : Subscriber) (session : Session)
    (hfit : state.SubscriberFit crates subscriber) (hsession : subscriber.session = some session)
    (hover : (∃ response, subscriber.stage = .answered response) ∨ subscriber.stage = .departed) :
    (session.permit = true →
      (state.moveSubscriber lobby subscriber (.attend .dropPermit)).isSome = true) ∧
    (session.guarded = true →
      (state.moveSubscriber lobby subscriber (.attend .dropGuard)).isSome = true) := by
  obtain ⟨hserves, hfit⟩ := hfit
  have hown := (hserves session hsession).fit
  unfold Session.Fit at hown
  have hclosing (hheld : session.permit = true ∨ session.guarded = true) :
      session.stage = .closing := by
    rcases hover with ⟨response, hstage⟩ | hstage
    · rw [hstage, hsession] at hfit
      obtain ⟨_, _, ⟨_, hnone⟩ | ⟨own, hsame, _, ⟨_, hrefused⟩ | ⟨_, hends⟩⟩⟩ := hfit
      · cases hnone
      · cases hsame
        rw [hrefused] at hown
        simp [hown.1, hown.2.2] at hheld
      · cases hsame
        exact hends
    · rw [hstage] at hfit
      obtain ⟨_, own, hsame, hends⟩ := hfit
      rw [hsession] at hsame
      cases hsame
      exact hends
  have hattends (act : SessionAct) (hmove : (session.move lobby.hub act).isSome = true) :
      (state.moveSubscriber lobby subscriber (.attend act)).isSome = true := by
    rcases hover with ⟨response, hstage⟩ | hstage
    · simp only [moveSubscriber, hstage]
      exact attendSession_isSome lobby subscriber session act _ hsession hmove
    · simp only [moveSubscriber, hstage]
      exact attendSession_isSome lobby subscriber session act _ hsession hmove
  constructor
  · intro hpermit
    apply hattends
    simp only [Session.move, hclosing (Or.inl hpermit), hpermit, Option.isSome_some]
  · intro hguarded
    apply hattends
    simp only [Session.move, hclosing (Or.inr hguarded), hguarded, Option.isSome_some]

/-- An open stream can be dropped. -/
theorem moveSubscriber_drops (lobby : Lobby) (subscriber : Subscriber) (session : Session)
    (hstage : subscriber.stage = .attending) (hsession : subscriber.session = some session)
    (hstreaming : session.isStreaming = true) :
    (state.moveSubscriber lobby subscriber (.attend .drop)).isSome = true := by
  simp only [moveSubscriber, hstage]
  apply attendSession_isSome lobby subscriber session _ _ hsession
  unfold Session.isStreaming at hstreaming
  split at hstreaming
  · rename_i subscription hown
    simp only [Session.move, hown, Option.isSome_some]
  · cases hstreaming

theorem subscriber_steps (s : Threads Lobby Subscriber) (i : ℕ) (subscriber : Subscriber)
    (act : SubscriberAct) (hsubscriber : s.threads[i]? = some subscriber)
    (h : (state.moveSubscriber s.shared subscriber act).isSome = true) :
    ∃ s', (state.subscriberProgram crates).step s (.moved i act) = some s' := by
  obtain ⟨⟨lobby, subscriber'⟩, hmove⟩ := Option.isSome_iff_exists.mp h
  refine ⟨⟨lobby, s.threads.set i subscriber'⟩, ?_⟩
  simp only [Program.step, hsubscriber, subscriberProgram, hmove]

/-- However requests interleave, each comes to its stream or is over after at most
twenty-one acts of its own beside the turns of the stream, and can go on until
then; an open stream can be dropped, and a request that is over can give back
what it holds. -/
theorem streams_progress (limit : ℕ) (clock : Instant)
    (events : List (Event Listener SubscriberAct Instant)) (s : Threads Lobby Subscriber)
    (h : run (state.subscriberProgram crates).step (quietLobby limit clock) events = some s)
    (i : ℕ) (subscriber : Subscriber) (hsubscriber : s.threads[i]? = some subscriber) :
    (ownActs i events).countP SubscriberAct.isOwn ≤ 21 ∧
    (21 ≤ (ownActs i events).countP SubscriberAct.isOwn → subscriber.isThrough = true) ∧
    (subscriber.isThrough = false → ∃ act ∈ routeActs, ∃ s',
      (state.subscriberProgram crates).step s (.moved i act) = some s') ∧
    ∀ session, subscriber.session = some session →
      (subscriber.stage = .attending → session.isStreaming = true → ∃ s',
        (state.subscriberProgram crates).step s (.moved i (.attend .drop)) = some s') ∧
      ((∃ response, subscriber.stage = .answered response) ∨ subscriber.stage = .departed →
        (session.permit = true → ∃ s',
          (state.subscriberProgram crates).step s (.moved i (.attend .dropPermit)) = some s') ∧
        (session.guarded = true → ∃ s',
          (state.subscriberProgram crates).step s (.moved i (.attend .dropGuard)) = some s')) := by
  obtain ⟨hfit, hacts⟩ : state.SubscriberFit crates subscriber ∧
      (ownActs i events).countP SubscriberAct.isOwn + subscriber.actsLeft ≤ 21 := by
    apply Program.own_history (fun acts subscriber => state.SubscriberFit crates subscriber ∧
      acts.countP SubscriberAct.isOwn + subscriber.actsLeft ≤ 21) _ _ events
      (quietLobby limit clock).shared s h i subscriber hsubscriber
    · intro listener
      exact ⟨subscriber_fit state crates listener,
        le_of_eq_of_le (Nat.zero_add _) (subscriber_actsLeft state crates listener)⟩
    · intro acts lobby own act lobby' own' hown hmove
      have hmoves := moveSubscriber_moves state lobby lobby' own own' act hmove
      have hless := hmoves.actsLeft state crates hown.1
      refine ⟨hmoves.fit state crates hown.1, ?_⟩
      rw [List.countP_append, Program.countP_one]
      omega
  have hsteps (act : SubscriberAct) :=
    subscriber_steps state crates s i subscriber act hsubscriber
  refine ⟨by omega, ?_, ?_, ?_⟩
  · intro hlong
    by_contra hnot
    have hpos := subscriber.actsLeft_pos (Bool.eq_false_iff.mpr hnot)
    omega
  · intro hnot
    obtain ⟨act, hact, hmove⟩ := moveSubscriber_goes state crates s.shared subscriber hfit hnot
    exact ⟨act, hact, hsteps act hmove⟩
  · intro session hsession
    refine ⟨fun hstage hstreaming => hsteps _
      (moveSubscriber_drops state s.shared subscriber session hstage hsession hstreaming), ?_⟩
    intro hover
    obtain ⟨hpermit, hguard⟩ :=
      moveSubscriber_gives state crates s.shared subscriber session hfit hsession hover
    exact ⟨fun hheld => hsteps _ (hpermit hheld), fun hheld => hsteps _ (hguard hheld)⟩

set_option maxRecDepth 4000 in
/-- After the first message of its stream a request can drop it. -/
theorem streams_progress_one : ∃ state s s' subscriber,
    new (fun _ => .ok ()) newsTarget = .ok state ∧
    run (state.subscriberProgram abcCrates).step (quietLobby 1 (.ofSecs 0)) oneStream = some s ∧
    s.threads[0]? = some subscriber ∧ subscriber.isThrough = true ∧
    (ownActs 0 oneStream).countP SubscriberAct.isOwn ≤ 21 ∧
    (state.subscriberProgram abcCrates).step s (.moved 0 (.attend .drop)) = some s' := by
  obtain ⟨state, s, subscriber, session, hnew, hrun, hsubscriber, hsession, hstage, hstreaming,
      hthrough⟩ : ∃ state s subscriber session, new (fun _ => .ok ()) newsTarget = .ok state ∧
      run (state.subscriberProgram abcCrates).step (quietLobby 1 (.ofSecs 0)) oneStream = some s ∧
      s.threads[0]? = some subscriber ∧ subscriber.session = some session ∧
      subscriber.stage = .attending ∧ session.isStreaming = true ∧
      subscriber.isThrough = true :=
    ⟨_, _, _, _, rfl, rfl, rfl, rfl, rfl, rfl, rfl⟩
  obtain ⟨hacts, _, _, hholds⟩ :=
    streams_progress state abcCrates 1 (.ofSecs 0) oneStream s hrun 0 subscriber hsubscriber
  obtain ⟨s', hdrops⟩ := (hholds session hsession).1 hstage hstreaming
  exact ⟨state, s, s', subscriber, hnew, hrun, hsubscriber, hthrough, hacts, hdrops⟩

end AppState

end RedisBridge.App
