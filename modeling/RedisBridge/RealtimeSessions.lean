import RedisBridge.RealtimeFraming
import RedisBridge.SharedThreads
import RedisBridge.SupervisorRuns

/-!
Subscriptions side by side. A subscription takes one of a fixed number of
permits without waiting, and is counted once Redis has confirmed it; it gives
back its permit and leaves the gauge when its stream is dropped, in either order
and at any moment at which it waits. Permits and gauge agree with the
subscriptions in every state, so nothing is lost when one ends early, and what
one of them sends depends on nothing but its own Redis connection.
-/
namespace RedisBridge.App

open ClientAddress Instants Responses RustText SharedThreads Targets TransitionRuns

/-- A subscription that has passed the checks of its route. -/
structure Opening where
  target : String
  channel : String

/-- The stream that an opening starts with. -/
def Opening.subscription (opening : Opening) : Subscription :=
  ⟨opening.channel, true, Duration.fromMillis 250⟩

/-- The event that confirms it. -/
def Opening.confirmation (opening : Opening) : String :=
  "subscribe," ++ (opening.channel ++ "," ++ "1")

/-- How far a subscription has come. -/
inductive Stage
  | arriving
  | refused
  | settingUp
  | confirmed
  | counted
  | opened
  | streaming (subscription : Subscription)
  | closing

/-- A subscription: whether it holds its permit, whether it was counted as
accepted, whether it holds its connection guard, and what it has sent. -/
structure Session where
  opening : Opening
  stage : Stage
  permit : Bool
  accepted : Bool
  guarded : Bool
  sent : List String

/-- What the subscriptions share: the free permits of `realtime_limit`, and the
metrics of `realtime_connection`. -/
structure Hub where
  permits : ℕ
  realtimeTotal : String → ℕ
  realtimeInflight : String → ℤ

/-- What one subscription does, or what happens to it. -/
inductive SessionAct
  | acquireRealtime
  | settle (setup : Setup)
  | countTotal
  | countInflight
  | confirm
  | happen (happening : Happening)
  | drop
  | dropPermit
  | dropGuard

namespace Hub

def countTotal (hub : Hub) (target : String) : Hub :=
  { hub with realtimeTotal := fun label =>
      if label = target then hub.realtimeTotal label + 1 else hub.realtimeTotal label }

/-- The gauge of a target moves by `change`. -/
def moveInflight (hub : Hub) (target : String) (change : ℤ) : Hub :=
  { hub with realtimeInflight := fun label =>
      if label = target then hub.realtimeInflight label + change
      else hub.realtimeInflight label }

end Hub

namespace Session

def goTo (session : Session) (stage : Stage) : Session := { session with stage := stage }

/-- One step of a subscription. Its future, or later its stream, may be dropped
wherever it waits. -/
def move (hub : Hub) (session : Session) : SessionAct → Option (Hub × Session)
  | .acquireRealtime =>
      match session.stage with
      | .arriving =>
          if hub.permits = 0 then some (hub, session.goTo .refused)
          else some ({ hub with permits := hub.permits - 1 },
            { session with stage := .settingUp, permit := true })
      | _ => none
  | .settle setup =>
      match session.stage, setup with
      | .settingUp, .subscribed => some (hub, session.goTo .confirmed)
      | .settingUp, .failed => some (hub, session.goTo .closing)
      | .settingUp, .timedOut => some (hub, session.goTo .closing)
      | _, _ => none
  | .countTotal =>
      match session.stage with
      | .confirmed => some (hub.countTotal session.opening.target,
          { session with stage := .counted, accepted := true })
      | _ => none
  | .countInflight =>
      match session.stage with
      | .counted => some (hub.moveInflight session.opening.target 1,
          { session with stage := .opened, guarded := true })
      | _ => none
  | .confirm =>
      match session.stage with
      | .opened => some (hub, { session with
          stage := .streaming session.opening.subscription
          sent := [session.opening.confirmation] })
      | _ => none
  | .happen happening =>
      match session.stage with
      | .streaming subscription =>
          match subscription.turn happening with
          | none => none
          | some (event, next) => some (hub, { session with
              stage := .streaming next
              sent := session.sent ++ event.toList })
      | _ => none
  | .drop =>
      match session.stage with
      | .settingUp => some (hub, session.goTo .closing)
      | .opened => some (hub, session.goTo .closing)
      | .streaming _ => some (hub, session.goTo .closing)
      | _ => none
  | .dropPermit =>
      match session.stage, session.permit with
      | .closing, true =>
          some ({ hub with permits := hub.permits + 1 }, { session with permit := false })
      | _, _ => none
  | .dropGuard =>
      match session.stage, session.guarded with
      | .closing, true => some (hub.moveInflight session.opening.target (-1),
          { session with guarded := false })
      | _, _ => none

end Session

/-- Subscriptions side by side; nothing else changes the hub. -/
def realtimeProgram : Program Hub Session Opening SessionAct Empty where
  enter := fun opening => ⟨opening, .arriving, false, false, false, []⟩
  move := Session.move
  drift := fun _ change => change.elim

def quietHub (limit : ℕ) : Threads Hub Session := ⟨⟨limit, fun _ => 0, fun _ => 0⟩, []⟩

namespace Session

/-- Everything one step of a subscription can do. -/
inductive Moves (hub : Hub) (session : Session) : SessionAct → Hub → Session → Prop
  | acquires (hstage : session.stage = .arriving) (hroom : hub.permits ≠ 0) :
      Moves hub session .acquireRealtime { hub with permits := hub.permits - 1 }
        { session with stage := .settingUp, permit := true }
  | refuses (hstage : session.stage = .arriving) (hfull : hub.permits = 0) :
      Moves hub session .acquireRealtime hub (session.goTo .refused)
  | confirms (hstage : session.stage = .settingUp) :
      Moves hub session (.settle .subscribed) hub (session.goTo .confirmed)
  | counts (hstage : session.stage = .confirmed) :
      Moves hub session .countTotal (hub.countTotal session.opening.target)
        { session with stage := .counted, accepted := true }
  | opens (hstage : session.stage = .counted) :
      Moves hub session .countInflight (hub.moveInflight session.opening.target 1)
        { session with stage := .opened, guarded := true }
  | starts (hstage : session.stage = .opened) :
      Moves hub session .confirm hub { session with
        stage := .streaming session.opening.subscription
        sent := [session.opening.confirmation] }
  | turns (subscription next : Subscription) (happening : Happening) (event : Option String)
      (hstage : session.stage = .streaming subscription)
      (hturn : subscription.turn happening = some (event, next)) :
      Moves hub session (.happen happening) hub
        { session with stage := .streaming next, sent := session.sent ++ event.toList }
  | closes (act : SessionAct) (hact : ∀ happening, act ≠ .happen happening)
      (hstage : session.stage = .settingUp ∨ session.stage = .opened ∨
        ∃ subscription, session.stage = .streaming subscription) :
      Moves hub session act hub (session.goTo .closing)
  | dropsPermit (hstage : session.stage = .closing) (hheld : session.permit = true) :
      Moves hub session .dropPermit { hub with permits := hub.permits + 1 }
        { session with permit := false }
  | dropsGuard (hstage : session.stage = .closing) (hheld : session.guarded = true) :
      Moves hub session .dropGuard (hub.moveInflight session.opening.target (-1))
        { session with guarded := false }

theorem move_moves (hub hub' : Hub) (session session' : Session) (act : SessionAct)
    (h : session.move hub act = some (hub', session')) :
    Moves hub session act hub' session' := by
  cases act with
  | acquireRealtime =>
    simp only [move] at h
    split at h
    · rename_i hstage
      split at h
      · rename_i hfull
        cases h
        exact Moves.refuses hstage hfull
      · rename_i hroom
        cases h
        exact Moves.acquires hstage hroom
    · cases h
  | settle setup =>
    simp only [move] at h
    split at h
    · rename_i hstage
      cases h
      exact Moves.confirms hstage
    · rename_i hstage
      cases h
      exact Moves.closes _ (fun _ heq => by cases heq) (Or.inl hstage)
    · rename_i hstage
      cases h
      exact Moves.closes _ (fun _ heq => by cases heq) (Or.inl hstage)
    · cases h
  | countTotal =>
    simp only [move] at h
    split at h
    · rename_i hstage
      cases h
      exact Moves.counts hstage
    · cases h
  | countInflight =>
    simp only [move] at h
    split at h
    · rename_i hstage
      cases h
      exact Moves.opens hstage
    · cases h
  | confirm =>
    simp only [move] at h
    split at h
    · rename_i hstage
      cases h
      exact Moves.starts hstage
    · cases h
  | happen happening =>
    simp only [move] at h
    split at h
    · rename_i subscription hstage
      split at h
      · cases h
      · rename_i event next hturn
        cases h
        exact Moves.turns subscription next happening event hstage hturn
    · cases h
  | drop =>
    simp only [move] at h
    split at h
    · rename_i hstage
      cases h
      exact Moves.closes _ (fun _ heq => by cases heq) (Or.inl hstage)
    · rename_i hstage
      cases h
      exact Moves.closes _ (fun _ heq => by cases heq) (Or.inr (Or.inl hstage))
    · rename_i subscription hstage
      cases h
      exact Moves.closes _ (fun _ heq => by cases heq) (Or.inr (Or.inr ⟨subscription, hstage⟩))
    · cases h
  | dropPermit =>
    simp only [move] at h
    split at h
    · rename_i hstage hheld
      cases h
      exact Moves.dropsPermit hstage hheld
    · cases h
  | dropGuard =>
    simp only [move] at h
    split at h
    · rename_i hstage hheld
      cases h
      exact Moves.dropsGuard hstage hheld
    · cases h

/-- What a subscription holds agrees with how far it has come. -/
def Fit (session : Session) : Prop :=
  match session.stage with
  | .arriving | .refused =>
      session.permit = false ∧ session.accepted = false ∧ session.guarded = false
  | .settingUp | .confirmed =>
      session.permit = true ∧ session.accepted = false ∧ session.guarded = false
  | .counted => session.permit = true ∧ session.accepted = true ∧ session.guarded = false
  | .opened | .streaming _ =>
      session.permit = true ∧ session.accepted = true ∧ session.guarded = true
  | .closing => session.guarded = true → session.accepted = true

theorem Moves.fit {hub hub' : Hub} {session session' : Session} {act : SessionAct}
    (hfit : session.Fit) (h : Moves hub session act hub' session') : session'.Fit := by
  unfold Fit at hfit
  cases h with
  | closes act hact hstage =>
    rcases hstage with hstage | hstage | ⟨subscription, hstage⟩
    · rw [hstage] at hfit
      intro (hguarded : session.guarded = true)
      rw [hfit.2.2] at hguarded
      cases hguarded
    · rw [hstage] at hfit
      exact fun _ => hfit.2.1
    · rw [hstage] at hfit
      exact fun _ => hfit.2.1
  | acquires hstage hroom =>
    rw [hstage] at hfit
    exact ⟨rfl, hfit.2⟩
  | refuses hstage hfull =>
    rw [hstage] at hfit
    exact hfit
  | confirms hstage =>
    rw [hstage] at hfit
    exact hfit
  | counts hstage =>
    rw [hstage] at hfit
    exact ⟨hfit.1, rfl, hfit.2.2⟩
  | opens hstage =>
    rw [hstage] at hfit
    exact ⟨hfit.1, hfit.2.1, rfl⟩
  | starts hstage =>
    rw [hstage] at hfit
    exact hfit
  | turns subscription next happening event hstage hturn =>
    rw [hstage] at hfit
    exact hfit
  | dropsPermit hstage hheld =>
    rw [hstage] at hfit
    unfold Fit
    rw [hstage]
    exact hfit
  | dropsGuard hstage hheld =>
    unfold Fit
    rw [hstage]
    intro hguarded
    cases hguarded

def acceptedAt (target : String) (session : Session) : Bool :=
  session.accepted && session.opening.target == target

def guardedAt (target : String) (session : Session) : Bool :=
  session.guarded && session.opening.target == target

/-- The response has its stream. -/
def isOpen (session : Session) : Bool :=
  match session.stage with
  | .opened => true
  | .streaming _ => true
  | _ => false

/-- Nothing of the subscription is left. -/
def isGone (session : Session) : Bool :=
  match session.stage with
  | .refused => true
  | .closing => !session.permit && !session.guarded
  | _ => false

theorem Moves.permits {hub hub' : Hub} {session session' : Session} {act : SessionAct}
    (hfit : session.Fit) (h : Moves hub session act hub' session') :
    hub'.permits + session'.permit.toNat = hub.permits + session.permit.toNat := by
  unfold Fit at hfit
  cases h with
  | acquires hstage hroom =>
    rw [hstage] at hfit
    rw [hfit.1]
    exact Nat.sub_add_cancel (Nat.one_le_iff_ne_zero.mpr hroom)
  | dropsPermit hstage hheld =>
    rw [hheld]
    rfl
  | _ => rfl

theorem Moves.total {hub hub' : Hub} {session session' : Session} {act : SessionAct}
    (hfit : session.Fit) (h : Moves hub session act hub' session') (target : String) :
    hub'.realtimeTotal target + (session.acceptedAt target).toNat =
      hub.realtimeTotal target + (session'.acceptedAt target).toNat := by
  unfold Fit at hfit
  cases h with
  | counts hstage =>
    rw [hstage] at hfit
    simp only [acceptedAt, hfit.2.1, Hub.countTotal, Bool.false_and, Bool.true_and]
    by_cases htarget : target = session.opening.target
    · simp [htarget]
    · simp [htarget, Ne.symm htarget]
  | _ => rfl

theorem Moves.inflight {hub hub' : Hub} {session session' : Session} {act : SessionAct}
    (hfit : session.Fit) (h : Moves hub session act hub' session') (target : String) :
    hub'.realtimeInflight target + (session.guardedAt target).toNat =
      hub.realtimeInflight target + (session'.guardedAt target).toNat := by
  unfold Fit at hfit
  cases h with
  | opens hstage =>
    rw [hstage] at hfit
    simp only [guardedAt, hfit.2.2, Hub.moveInflight, Bool.false_and, Bool.true_and]
    by_cases htarget : target = session.opening.target
    · simp [htarget]
    · simp [htarget, Ne.symm htarget]
  | dropsGuard hstage hheld =>
    simp only [guardedAt, hheld, Hub.moveInflight, Bool.false_and, Bool.true_and]
    by_cases htarget : target = session.opening.target
    · simp [htarget]
    · simp [htarget, Ne.symm htarget]
  | _ => rfl

/-- An open stream holds its permit. -/
theorem Fit.permit_of_isOpen (session : Session) (hfit : session.Fit)
    (hopen : session.isOpen = true) : session.permit = true := by
  unfold Fit at hfit
  unfold isOpen at hopen
  split at hopen
  · rename_i hstage
    rw [hstage] at hfit
    exact hfit.1
  · rename_i subscription hstage
    rw [hstage] at hfit
    exact hfit.1
  · cases hopen

theorem Fit.gone (session : Session) (hfit : session.Fit) (hgone : session.isGone = true) :
    session.permit = false ∧ session.guarded = false := by
  unfold Fit at hfit
  unfold isGone at hgone
  split at hgone
  · rename_i hstage
    rw [hstage] at hfit
    exact ⟨hfit.1, hfit.2.2⟩
  · simpa using hgone
  · cases hgone

end Session

theorem permits_tallies (limit : ℕ) :
    realtimeProgram.Tallies Session.Fit (fun hub => limit - hub.permits) Session.permit := by
  refine ⟨fun opening => ⟨⟨rfl, rfl, rfl⟩, rfl⟩, ?_, fun hub change => change.elim⟩
  intro hub session act hub' session' hfit h
  have hmoves := Session.move_moves hub hub' session session' act h
  have hpermits := hmoves.permits hfit
  exact ⟨hmoves.fit hfit, by omega⟩

theorem total_tallies (target : String) :
    realtimeProgram.Tallies Session.Fit (fun hub => hub.realtimeTotal target)
      (Session.acceptedAt target) := by
  refine ⟨fun opening => ⟨⟨rfl, rfl, rfl⟩, rfl⟩, ?_, fun hub change => change.elim⟩
  intro hub session act hub' session' hfit h
  have hmoves := Session.move_moves hub hub' session session' act h
  exact ⟨hmoves.fit hfit, by exact_mod_cast hmoves.total hfit target⟩

theorem inflight_tallies (target : String) :
    realtimeProgram.Tallies Session.Fit (fun hub => hub.realtimeInflight target)
      (Session.guardedAt target) := by
  refine ⟨fun opening => ⟨⟨rfl, rfl, rfl⟩, rfl⟩, ?_, fun hub change => change.elim⟩
  intro hub session act hub' session' hfit h
  have hmoves := Session.move_moves hub hub' session session' act h
  exact ⟨hmoves.fit hfit, hmoves.inflight hfit target⟩

/-- In every interleaving the free permits and the permits held make up the
limit, the total of a target counts what was accepted there and its gauge what
is still guarded, no more streams are open than the limit allows, a new
subscription is refused exactly when as many permits are held, and nothing stays
behind once all are gone. -/
theorem realtime_accounts (limit : ℕ) (events : List (Event Opening SessionAct Empty))
    (s : Threads Hub Session)
    (h : run realtimeProgram.step (quietHub limit) events = some s) :
    s.shared.permits + s.threads.countP Session.permit = limit ∧
    (∀ target, s.shared.realtimeTotal target = s.threads.countP (Session.acceptedAt target) ∧
      s.shared.realtimeInflight target = s.threads.countP (Session.guardedAt target)) ∧
    s.threads.countP Session.isOpen ≤ limit ∧
    (∀ i session, s.threads[i]? = some session → session.stage = .arriving →
      ∃ hub session', realtimeProgram.step s (.moved i .acquireRealtime) =
          some ⟨hub, s.threads.set i session'⟩ ∧
        (session'.stage = .refused ↔ s.threads.countP Session.permit = limit)) ∧
    ((∀ session ∈ s.threads, session.isGone = true) →
      s.shared.permits = limit ∧ ∀ target, s.shared.realtimeInflight target = 0) := by
  have hnone : ∀ session ∈ (quietHub limit).threads, session.Fit :=
    fun session hmem => absurd hmem List.not_mem_nil
  obtain ⟨hfit, hpermits⟩ := (permits_tallies limit).run events _ s
    ⟨hnone, Int.sub_self (limit : ℤ)⟩ h
  have hheld : s.shared.permits + s.threads.countP Session.permit = limit := by
    dsimp only at hpermits
    omega
  have hinflight (target : String) :
      s.shared.realtimeInflight target = s.threads.countP (Session.guardedAt target) :=
    ((inflight_tallies target).run events _ s ⟨hnone, rfl⟩ h).2
  refine ⟨hheld, ?_, ?_, ?_, ?_⟩
  · intro target
    exact ⟨((total_tallies target).run_nat events _ s hnone rfl h).2, hinflight target⟩
  · have hopen : s.threads.countP Session.isOpen ≤ s.threads.countP Session.permit :=
      List.countP_mono_left fun session hmem hopen =>
        Session.Fit.permit_of_isOpen session (hfit session hmem) hopen
    omega
  · intro i session hsession hstage
    by_cases hfull : s.shared.permits = 0
    · refine ⟨s.shared, session.goTo .refused, ?_, ?_⟩
      · simp only [Program.step, hsession, realtimeProgram, Session.move, hstage, if_pos hfull]
      · exact ⟨fun _ => by omega, fun _ => rfl⟩
    · refine ⟨{ s.shared with permits := s.shared.permits - 1 },
        { session with stage := .settingUp, permit := true }, ?_, ?_⟩
      · simp only [Program.step, hsession, realtimeProgram, Session.move, hstage, if_neg hfull]
      · constructor
        · intro heq
          cases heq
        · intro hall
          omega
  · intro hgone
    have hzero (counted : Session → Bool)
        (hcounted : ∀ session ∈ s.threads, counted session = false) :
        s.threads.countP counted = 0 :=
      List.countP_eq_zero.mpr fun session hmem => by simp [hcounted session hmem]
    have hends (session : Session) (hmem : session ∈ s.threads) :=
      Session.Fit.gone session (hfit session hmem) (hgone session hmem)
    constructor
    · have hfree := hzero Session.permit fun session hmem => (hends session hmem).1
      omega
    · intro target
      rw [hinflight, hzero (Session.guardedAt target)
        fun session hmem => by simp [Session.guardedAt, (hends session hmem).2]]
      rfl

/-! What one subscription sends. -/

/-- What happens to the stream of a subscription. -/
def happenings (acts : List SessionAct) : List Happening :=
  acts.filterMap fun
    | .happen happening => some happening
    | _ => none

/-- For each failed attempt to reconnect, which one in a row it is since the last
that succeeded, after `failed` in a row. -/
def streaks (failed : ℕ) : List Happening → List ℕ
  | [] => []
  | .reconnectFailed :: rest => (failed + 1) :: streaks (failed + 1) rest
  | .reconnected :: rest => streaks 0 rest
  | _ :: rest => streaks failed rest

namespace Subscription

theorem turns_concat (past : List Happening) (happening : Happening)
    (subscription mid next : Subscription) (events : List String) (event : Option String)
    (hpast : subscription.turns past = some (events, mid))
    (hturn : mid.turn happening = some (event, next)) :
    subscription.turns (past ++ [happening]) = some (events ++ event.toList, next) := by
  induction past generalizing subscription events with
  | nil =>
    cases hpast
    simp only [List.nil_append, turns, hturn, List.append_nil]
  | cons first rest ih =>
    rw [turns] at hpast
    split at hpast
    · cases hpast
    · rename_i firstEvent second hfirst
      split at hpast
      · cases hpast
      · rename_i more last hrest
        cases hpast
        simp only [List.cons_append, turns, hfirst, ih second more hrest, List.append_assoc]

/-- By induction on what happens, for the backoff that `failed` failed attempts in
a row leave: each one sleeps twice as long as the one before, up to five seconds. -/
theorem sleeps_streaks (happenings : List Happening) (subscription last : Subscription)
    (events : List String) (failed : ℕ)
    (hbackoff : subscription.backoff.nanos = Shards.delay failed)
    (h : subscription.turns happenings = some (events, last)) :
    (subscription.sleeps happenings).map Duration.nanos =
      (streaks failed happenings).map (fun streak => Shards.delay (streak - 1)) := by
  induction happenings generalizing subscription events failed with
  | nil => rfl
  | cons happening rest ih =>
    rw [turns] at h
    split at h
    · cases h
    · rename_i event next hturn
      split at h
      · cases h
      · rename_i more last' hrest
        cases h
        rw [sleeps, hturn]
        dsimp only
        cases happening with
        | message channel payload =>
          simp only [turn] at hturn
          split_ifs at hturn
          cases hturn
          exact ih subscription more failed hbackoff hrest
        | disconnected =>
          simp only [turn] at hturn
          split_ifs at hturn
          cases hturn
          exact ih _ more failed hbackoff hrest
        | reconnected =>
          simp only [turn] at hturn
          split_ifs at hturn
          cases hturn
          exact ih _ more 0 Shards.initialBackoff_nanos hrest
        | reconnectFailed =>
          simp only [turn] at hturn
          split_ifs at hturn with hconnected
          cases hturn
          have hlater := ih _ more (failed + 1)
            (Shards.doubled_delay subscription.backoff failed hbackoff) hrest
          simp only [slept, if_neg hconnected, streaks, Option.toList_some, List.map_append,
            List.map_cons, List.map_nil, hbackoff, hlater, Nat.add_sub_cancel]
          rfl

end Subscription

/-- A subscription against its own acts: what it has sent is what its own stream
makes of what happened to it. -/
def Session.Streams (acts : List SessionAct) (session : Session) : Prop :=
  match session.stage with
  | .streaming subscription =>
      ∃ texts, session.opening.subscription.turns (happenings acts) = some (texts, subscription) ∧
        session.sent = session.opening.confirmation :: texts
  | .closing =>
      (happenings acts = [] ∧ session.sent = []) ∨
        session.opening.subscription.stream (happenings acts) = some session.sent
  | _ => happenings acts = [] ∧ session.sent = []

theorem happenings_concat (acts : List SessionAct) (act : SessionAct)
    (h : ∀ happening, act ≠ .happen happening) : happenings (acts ++ [act]) = happenings acts := by
  unfold happenings
  rw [List.filterMap_append]
  cases act with
  | happen happening => exact absurd rfl (h happening)
  | _ => exact List.append_nil _

theorem Session.Moves.streams {hub hub' : Hub} {session session' : Session} {act : SessionAct}
    (acts : List SessionAct) (hown : session.Streams acts)
    (h : Moves hub session act hub' session') : session'.Streams (acts ++ [act]) := by
  unfold Streams at hown
  cases h with
  | turns subscription next happening event hstage hturn =>
    rw [hstage] at hown
    obtain ⟨texts, hturns, hsent⟩ := hown
    have hacts : happenings (acts ++ [.happen happening]) = happenings acts ++ [happening] :=
      List.filterMap_append
    unfold Streams
    dsimp only
    rw [hacts]
    refine ⟨texts ++ event.toList, ?_, ?_⟩
    · exact Subscription.turns_concat _ happening _ subscription next texts event hturns hturn
    · rw [hsent]
      rfl
  | closes act hact hstage =>
    have hacts := happenings_concat acts act hact
    unfold Streams
    dsimp only [goTo]
    rw [hacts]
    rcases hstage with hstage | hstage | ⟨subscription, hstage⟩
    · rw [hstage] at hown
      exact Or.inl hown
    · rw [hstage] at hown
      exact Or.inl hown
    · rw [hstage] at hown
      obtain ⟨texts, hturns, hsent⟩ := hown
      refine Or.inr ?_
      rw [Subscription.stream, hturns, hsent]
      rfl
  | starts hstage =>
    rw [hstage] at hown
    have hacts : happenings (acts ++ [.confirm]) = [] :=
      (happenings_concat acts _ (fun _ heq => by cases heq)).trans hown.1
    unfold Streams
    dsimp only
    rw [hacts]
    exact ⟨[], rfl, rfl⟩
  | dropsPermit hstage hheld =>
    have hacts := happenings_concat acts .dropPermit (fun _ heq => by cases heq)
    rw [hstage] at hown
    unfold Streams
    dsimp only
    rw [hstage, hacts]
    exact hown
  | dropsGuard hstage hheld =>
    have hacts := happenings_concat acts .dropGuard (fun _ heq => by cases heq)
    rw [hstage] at hown
    unfold Streams
    dsimp only
    rw [hstage, hacts]
    exact hown
  | acquires hstage hroom =>
    rw [hstage] at hown
    exact ⟨(happenings_concat acts _ (fun _ heq => by cases heq)).trans hown.1, hown.2⟩
  | refuses hstage hfull =>
    rw [hstage] at hown
    exact ⟨(happenings_concat acts _ (fun _ heq => by cases heq)).trans hown.1, hown.2⟩
  | confirms hstage =>
    rw [hstage] at hown
    exact ⟨(happenings_concat acts _ (fun _ heq => by cases heq)).trans hown.1, hown.2⟩
  | counts hstage =>
    rw [hstage] at hown
    exact ⟨(happenings_concat acts _ (fun _ heq => by cases heq)).trans hown.1, hown.2⟩
  | opens hstage =>
    rw [hstage] at hown
    exact ⟨(happenings_concat acts _ (fun _ heq => by cases heq)).trans hown.1, hown.2⟩

/-- In every interleaving of any number of subscriptions, what one has sent is
its confirmation and one event for each message that its own Redis connection
received, and after each failed attempt to reconnect it has slept a quarter of a
second, doubled for each other one that failed since the last success, up to
five seconds. -/
theorem streams_apart (limit : ℕ) (events : List (Event Opening SessionAct Empty))
    (s : Threads Hub Session) (h : run realtimeProgram.step (quietHub limit) events = some s)
    (i : ℕ) (session : Session) (subscription : Subscription)
    (hsession : s.threads[i]? = some session) (hstage : session.stage = .streaming subscription) :
    session.sent = session.opening.confirmation ::
      (received (happenings (ownActs i events))).map Subscription.messageText ∧
    (session.opening.subscription.sleeps (happenings (ownActs i events))).map Duration.nanos =
      (streaks 0 (happenings (ownActs i events))).map
        (fun streak => min (250 * 10 ^ 6 * 2 ^ (streak - 1)) (5 * 10 ^ 9)) := by
  have henter (opening : Opening) : Session.Streams [] (realtimeProgram.enter opening) := ⟨rfl, rfl⟩
  have hown := Program.own_history (fun acts session => Session.Streams acts session) henter
    (fun acts hub session act hub' session' hown hmove =>
      (Session.move_moves hub hub' session session' act hmove).streams acts hown)
    events (quietHub limit).shared s h i session hsession
  unfold Session.Streams at hown
  rw [hstage] at hown
  obtain ⟨texts, hturns, hsent⟩ := hown
  constructor
  · rw [hsent, Subscription.turns_events _ _ _ texts hturns]
  · exact Subscription.sleeps_streaks _ _ subscription texts 0 Shards.initialBackoff_nanos hturns

/-- Two subscriptions where there is room for one: the first is confirmed, receives
a message, loses its connection and fails to reconnect twice. -/
def oneSeat : List (Event Opening SessionAct Empty) :=
  [.entered ⟨"alpha", "chan"⟩, .entered ⟨"beta", "other"⟩, .moved 0 .acquireRealtime,
    .moved 1 .acquireRealtime, .moved 0 (.settle .subscribed), .moved 0 .countTotal,
    .moved 0 .countInflight, .moved 0 .confirm, .moved 0 (.happen (.message "chan" [0x68, 0x69])),
    .moved 0 (.happen .disconnected), .moved 0 (.happen .reconnectFailed),
    .moved 0 (.happen .reconnectFailed)]

theorem realtime_accounts_one_seat : ∃ s,
    run realtimeProgram.step (quietHub 1) oneSeat = some s ∧
    s.shared.realtimeTotal "alpha" = 1 ∧ s.shared.realtimeInflight "alpha" = 1 ∧
    s.shared.realtimeTotal "beta" = 0 := by
  obtain ⟨s, hrun, htotal, hguarded, hother⟩ : ∃ s,
      run realtimeProgram.step (quietHub 1) oneSeat = some s ∧
      s.threads.countP (Session.acceptedAt "alpha") = 1 ∧
      s.threads.countP (Session.guardedAt "alpha") = 1 ∧
      s.threads.countP (Session.acceptedAt "beta") = 0 := ⟨_, rfl, rfl, rfl, rfl⟩
  obtain ⟨_, hcounts, _⟩ := realtime_accounts 1 oneSeat s hrun
  refine ⟨s, hrun, (hcounts "alpha").1.trans htotal, ?_, (hcounts "beta").1.trans hother⟩
  rw [(hcounts "alpha").2, hguarded]
  rfl

/-- The two failed attempts sleep a quarter and half a second. -/
theorem streams_apart_one_seat : ∃ s session subscription,
    run realtimeProgram.step (quietHub 1) oneSeat = some s ∧ s.threads[0]? = some session ∧
    session.stage = .streaming subscription ∧
    session.sent = ["subscribe,chan,1", "message,chan,hi"] ∧
    (session.opening.subscription.sleeps (happenings (ownActs 0 oneSeat))).map Duration.nanos =
      [250 * 10 ^ 6, 500 * 10 ^ 6] := by
  obtain ⟨s, session, subscription, hrun, hsession, hstage, hopening⟩ :
      ∃ s session subscription,
      run realtimeProgram.step (quietHub 1) oneSeat = some s ∧ s.threads[0]? = some session ∧
      session.stage = .streaming subscription ∧ session.opening = ⟨"alpha", "chan"⟩ :=
    ⟨_, _, _, rfl, rfl, rfl, rfl⟩
  obtain ⟨hsent, hsleeps⟩ :=
    streams_apart 1 oneSeat s hrun 0 session subscription hsession hstage
  refine ⟨s, session, subscription, hrun, hsession, hstage, ?_, ?_⟩
  · rw [hsent, hopening]
    rfl
  · rw [hsleeps]
    decide

end RedisBridge.App
