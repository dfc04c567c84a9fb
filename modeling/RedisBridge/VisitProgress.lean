import RedisBridge.VisitAccounts

/-!
What a client at a command route may rely on. Its request leaves after a bounded
number of its own acts, whatever the others do, and until then it can go on, if
need be by the timeout of the request. It gets a permit as long as fewer requests
hold one at its target than the limit allows, it does not panic while locks end
inside the clock's range, and it leaves without a response only if its client
has gone away.
-/
namespace RedisBridge.App

open BridgeConfig ClientAddress Instants IpAddress Lockout Responses RustText Security
open SharedThreads Targets TokenType TransitionRuns
open OperationPermits (Operation Operations Outcome)

/-! What a request has still to do. -/

/-- How many acts an operation has left at most. -/
def operationActsLeft (op : Operation) : ℕ :=
  let phase :=
    match op.phase with
    | .acquiring => 2
    | .connecting => 1
    | .running | .finished _ => 0
  let sent :=
    match op.sent with
    | .unsent => 3
    | .pending => 2
    | .answered => 1
  phase + sent

theorem operationActsLeft_pos (op : Operation) : 0 < operationActsLeft op := by
  unfold operationActsLeft
  cases op.sent <;> exact Nat.succ_pos _

theorem operationActsLeft_advance (op op' : Operation) (act : OperationPermits.Act)
    (h : op.advance act = some op') (hgoes : op'.isFinished = false) :
    operationActsLeft op' < operationActsLeft op := by
  cases act with
  | granted | connected =>
    simp only [Operation.advance] at h
    split at h
    · next hphase =>
      cases h
      simp [operationActsLeft, hphase]
    · cases h
  | sent =>
    simp only [Operation.advance] at h
    split at h
    · next hrunning =>
      cases h
      simp [operationActsLeft, hrunning.1, hrunning.2]
    · cases h
  | answered =>
    simp only [Operation.advance] at h
    split at h
    · next hpending =>
      cases h
      simp [operationActsLeft, hpending]
    · cases h
  | saturated | closed | unconnected | received | lost =>
    simp only [Operation.advance] at h
    split at h
    · cases h
      cases hgoes
    · cases h
  | timedOut | dropped =>
    simp only [Operation.advance] at h
    split at h
    · cases h
    · cases h
      cases hgoes

/-- How many acts a request has left at most from a stage; `steps` are those of
its authentication. -/
def VisitStage.actsLeft (steps : ℕ) : VisitStage → ℕ
  | .authenticating => 12 + steps
  | .screening _ => 11
  | .operating _ op => 5 + operationActsLeft op
  | .closing _ _ .counting _ => 5
  | .closing _ _ .falling _ => 4
  | .closing _ _ .observing _ => 3
  | .encoding _ => 2
  | .denying _ _ => 1
  | .answered _ | .panicked _ => 0

/-- How many acts a request has left at most. -/
def Visit.actsLeft (visit : Visit) : ℕ := visit.stage.actsLeft (AppState.stepsLeft visit.attempt)

theorem VisitAct.ending_actsLeft (act : VisitAct) (kind : PacketKind) (steps : ℕ) :
    (act.ending kind).actsLeft steps ≤ 2 := by
  cases act with
  | received reply => cases reply <;> simp [VisitAct.ending, VisitStage.actsLeft]
  | _ => simp [VisitAct.ending, VisitStage.actsLeft]

namespace AppState

variable (state : AppState) (crates : Crates)

theorem VisitMoves.actsLeft {desk desk' : Desk} {visit visit' : Visit} {act : VisitAct}
    (h : VisitMoves state desk visit act desk' visit') :
    visit'.actsLeft < visit.actsLeft := by
  unfold Visit.actsLeft
  cases h with
  | authenticates attempt hall hstage hmove =>
    have hless := (moveAttempt_moves state _ _ _ _ hmove).stepsLeft
    dsimp only
    rw [hstage]
    exact Nat.add_lt_add_left hless 12
  | panics panic hstage hleft =>
    rw [hstage]
    exact Nat.lt_add_right _ (Nat.succ_pos 11)
  | refuses error hstage hleft =>
    rw [hstage]
    exact Nat.lt_add_right _ (by decide : 1 < 12)
  | passes route hstage hleft =>
    rw [hstage]
    exact Nat.lt_add_right _ (by decide : 11 < 12)
  | rejects route hstage hcheck | disallows route message hstage hcheck =>
    rw [hstage]
    exact (by decide : 1 < 11)
  | begins route commands hstage hcheck =>
    rw [hstage]
    exact (by decide : 10 < 11)
  | denies reason error hstage =>
    rw [hstage]
    exact Nat.one_pos
  | operates commands op op' act opAct hstage hact hadvance hpermits hunfinished =>
    rw [hstage]
    exact Nat.add_lt_add_left (operationActsLeft_advance op op' opAct hadvance hunfinished) 5
  | finishes commands op op' act opAct outcome hstage hact hadvance hpermits hfinished =>
    rw [hstage]
    exact Nat.lt_add_of_pos_right (operationActsLeft_pos op)
  | counts op outcome ended hstage =>
    rw [hstage]
    exact (by decide : 4 < 5)
  | falls op outcome ended hstage =>
    rw [hstage]
    exact (by decide : 3 < 4)
  | observes op outcome ended hstage =>
    rw [hstage]
    exact Nat.lt_succ_of_le (ended.ending_actsLeft op.kind _)
  | replies value response hstage hencode =>
    rw [hstage]
    exact Nat.two_pos
  | overflows value error hstage hencode =>
    rw [hstage]
    exact Nat.one_lt_two

theorem visit_actsLeft (visitor : Visitor) : (state.visit crates visitor).actsLeft ≤ 22 :=
  Nat.add_le_add_left (stepsLeft_attempt state crates (Visitor.arrival visitor)) 12

/-! A request that has not left can go on. -/

/-- Only the metrics route is granted without the route of a token. -/
theorem granted_ne_none (arrival : Arrival) (hdoor : arrival.door ≠ .metrics) :
    state.verdict crates arrival ≠ .granted (.ok none) := by
  intro h
  unfold verdict at h
  split at h
  · rename_i hmetrics
    exact hdoor hmetrics
  · split at h
    · cases h
    · split at h
      · cases h
      · rename_i route hroute
        have hpasses : arrival.door.passes route = .ok none := Verdict.granted.inj h
        cases hdoor' : arrival.door with
        | metrics => exact hdoor hdoor'
        | bridge =>
          rw [hdoor'] at hpasses
          cases hpasses
        | command | realtime =>
          rw [hdoor'] at hpasses
          simp only [Door.passes] at hpasses
          split at hpasses <;> cases hpasses

theorem answered_none (attempt : Attempt) (h : attempt.left = some (.ok (.ok none))) :
    attempt.verdict = .granted (.ok none) := by
  have hanswer : attempt.answer = .ok none := by
    unfold Attempt.left at h
    split at h
    · exact Except.ok.inj (Option.some.inj h)
    · cases h
    · cases h
  unfold Attempt.answer at hanswer
  split at hanswer
  · cases hanswer
  · cases hanswer
  · rename_i result hgranted
    rw [hanswer] at hgranted
    exact hgranted

theorem moveAuthenticating_isSome (desk : Desk) (visit : Visit)
    (hverdict : visit.attempt.verdict = state.verdict crates (Visitor.arrival visit.visitor)) :
    (state.moveAuthenticating desk visit).isSome = true := by
  unfold moveAuthenticating
  split
  · rename_i hleft
    have hmove := moveAttempt_isSome state desk.hall visit.attempt hleft
    split
    · rename_i hnone
      rw [hnone] at hmove
      cases hmove
    · rfl
  · rfl
  · rfl
  · rename_i hleft
    exact absurd (hverdict ▸ answered_none visit.attempt hleft)
      (granted_ne_none state crates (Visitor.arrival visit.visitor) Door.noConfusion)
  · rfl

/-- A request that has not left takes its next step, or its operation times out. -/
theorem moveVisit_isSome (desk : Desk) (visit : Visit) (hfit : state.VisitFit crates visit)
    (hleft : visit.left = none) :
    ∃ act, (act = .step ∨ act = .timedOut) ∧ (state.moveVisit desk visit act).isSome = true := by
  unfold VisitFit at hfit
  unfold Visit.left at hleft
  unfold moveVisit
  cases hstage : visit.stage with
  | authenticating =>
    rw [hstage] at hfit
    exact ⟨.step, Or.inl rfl, moveAuthenticating_isSome state crates desk visit hfit.1⟩
  | operating commands op =>
    rw [hstage] at hfit
    have hrunning : op.isFinished = false := hfit.2.2.1
    refine ⟨.timedOut, Or.inr rfl, ?_⟩
    simp [moveOperating, VisitAct.operation, Operation.advance, hrunning, Operation.finish,
      Desk.Permits, Operation.holdsPermit]
  | answered response =>
    rw [hstage] at hleft
    cases hleft
  | panicked panic =>
    rw [hstage] at hleft
    cases hleft
  | _ => exact ⟨.step, Or.inl rfl, rfl⟩

/-- A request that waits for a permit gets one if and only if one is left. -/
theorem moveVisit_granted (desk : Desk) (visit : Visit) (commands : List RedisCommand)
    (op : Operation) (hstage : visit.stage = .operating commands op)
    (hphase : op.phase = .acquiring) :
    (state.moveVisit desk visit .granted).isSome = true ↔ 0 < desk.available op.target := by
  simp [moveVisit, hstage, moveOperating, VisitAct.operation, Operation.advance, hphase,
    Desk.Permits, Operation.holdsPermit]

theorem step_isSome (s : Threads Desk Visit) (i : ℕ) (visit : Visit) (act : VisitAct)
    (hvisit : s.threads[i]? = some visit) :
    (∃ s', (state.visitProgram crates).step s (.moved i act) = some s') ↔
      (state.moveVisit s.shared visit act).isSome = true := by
  simp only [Program.step, hvisit, visitProgram]
  cases state.moveVisit s.shared visit act with
  | none => simp
  | some moved => simp

/-! A request leaves without a response if its client has gone away. -/

/-- The client of a request that leaves without a response has gone away, and of no other. -/
def PartsBy (acts : List VisitAct) (visit : Visit) : Prop :=
  match visit.stage with
  | .closing _ outcome _ _ => outcome = .cancelled ↔ .dropped ∈ acts
  | .answered response => response = none ↔ .dropped ∈ acts
  | _ => .dropped ∉ acts

/-- The act that ends an operation as cancelled is the client's departure. -/
theorem cancelled_iff (op op' : Operation) (act : VisitAct) (opAct : OperationPermits.Act)
    (outcome : Outcome) (hact : act.operation = some opAct)
    (hadvance : op.advance opAct = some op') (hrunning : op.isFinished = false)
    (hphase : op'.phase = .finished outcome) : outcome = .cancelled ↔ act = .dropped := by
  constructor
  · rintro rfl
    rcases (op.advance_cases op' opAct hadvance).2.2 with hsame | ⟨_, hgoes⟩ |
      ⟨outcome, _, hended, hdropped⟩
    · exact absurd (hsame.symm.trans hphase) (op.phase_ne_finished hrunning _)
    · exact absurd hphase (op'.phase_ne_finished hgoes _)
    · have hsame : outcome = .cancelled := by
        rw [hphase] at hended
        cases hended
        rfl
      rw [hdropped hsame] at hact
      cases act with
      | dropped => rfl
      | received reply => cases reply <;> cases hact
      | _ => cases hact
  · rintro rfl
    cases hact
    simp only [Operation.advance] at hadvance
    split at hadvance
    · cases hadvance
    · cases hadvance
      cases hphase
      rfl

theorem VisitMoves.partsBy {desk desk' : Desk} {visit visit' : Visit} {act : VisitAct}
    (acts : List VisitAct) (hfit : state.VisitFit crates visit) (hparts : PartsBy acts visit)
    (h : VisitMoves state desk visit act desk' visit') : PartsBy (acts ++ [act]) visit' := by
  have hstep : VisitAct.dropped ∈ acts ++ [.step] ↔ VisitAct.dropped ∈ acts := by simp
  unfold PartsBy at hparts
  unfold VisitFit at hfit
  cases h with
  | operates commands op op' act opAct hstage hact hadvance hpermits hunfinished =>
    rw [hstage] at hparts
    have hnot : act ≠ .dropped := by
      rintro rfl
      cases hact
      simp only [Operation.advance] at hadvance
      split at hadvance
      · cases hadvance
      · cases hadvance
        cases hunfinished
    simp only [PartsBy, Visit.goTo, List.mem_append, List.mem_singleton, not_or]
    exact ⟨hparts, fun heq => hnot heq.symm⟩
  | finishes commands op op' act opAct outcome hstage hact hadvance hpermits hfinished =>
    rw [hstage] at hparts hfit
    have hiff := cancelled_iff op op' act opAct outcome hact hadvance hfit.2.2.1 hfinished
    simp only [PartsBy, Visit.goTo, List.mem_append, List.mem_singleton]
    rw [hiff, or_iff_right hparts, eq_comm]
  | observes op outcome ended hstage =>
    rw [hstage] at hparts hfit
    have hleads : LeadsTo outcome (ended.ending op.kind) := hfit.2.2.2
    rcases hleads with ⟨rfl, value, hending⟩ | ⟨rfl, hending⟩ | ⟨_, hcancelled, error, _, hending⟩
    · simp only [PartsBy, Visit.goTo, hending, hstep]
      exact fun hdropped => Outcome.noConfusion (hparts.mpr hdropped)
    · simp only [PartsBy, Visit.goTo, hending, hstep]
      exact iff_of_true trivial (hparts.mp rfl)
    · simp only [PartsBy, Visit.goTo, hending, hstep]
      exact iff_of_false (Option.some_ne_none _) (fun hdropped => hcancelled (hparts.mpr hdropped))
  | counts op outcome ended hstage | falls op outcome ended hstage =>
    rw [hstage] at hparts
    simp only [PartsBy, Visit.goTo, hstep]
    exact hparts
  | denies reason error hstage | replies value response hstage hencode =>
    rw [hstage] at hparts
    simp only [PartsBy, Visit.goTo, hstep]
    exact iff_of_false (Option.some_ne_none _) hparts
  | authenticates attempt hall hstage hmove =>
    rw [hstage] at hparts
    unfold PartsBy
    dsimp only
    rw [hstage, hstep]
    exact hparts
  | panics panic hstage hleft | refuses error hstage hleft | passes route hstage hleft
  | rejects route hstage hcheck | disallows route message hstage hcheck
  | begins route commands hstage hcheck | overflows value error hstage hencode =>
    rw [hstage] at hparts
    simp only [PartsBy, Visit.goTo, hstep]
    exact hparts

theorem parts_of_run (clock : Instant) (events : List (Event Visitor VisitAct Instant))
    (s : Threads Desk Visit)
    (h : run (state.visitProgram crates).step (state.openDesk clock) events = some s) (i : ℕ)
    (visit : Visit) (hvisit : s.threads[i]? = some visit) :
    state.VisitFit crates visit ∧ PartsBy (ownActs i events) visit := by
  apply Program.own_history (fun acts visit => state.VisitFit crates visit ∧ PartsBy acts visit)
    _ _ events (state.openDesk clock).shared s h i visit hvisit
  · intro visitor
    exact ⟨visit_fit state crates visitor, List.not_mem_nil⟩
  · intro acts desk visit act desk' visit' hinv hmove
    have hmoves := moveVisit_moves state desk desk' visit visit' act hmove
    exact ⟨hmoves.fit state crates hinv.1, hmoves.partsBy state crates acts hinv.1 hinv.2⟩

/-! No request panics while locks end in range. -/

/-- The request holds no reading of the future, and has not panicked. -/
def VisitAtEase (desk : Desk) (visit : Visit) : Prop :=
  match visit.stage with
  | .authenticating => state.AtEase desk.hall visit.attempt
  | .panicked _ => ¬CanLock state.authLockout desk.hall.clock
  | _ => True

theorem VisitMoves.clock {desk desk' : Desk} {visit visit' : Visit} {act : VisitAct}
    (h : VisitMoves state desk visit act desk' visit') : desk'.hall.clock = desk.hall.clock := by
  cases h with
  | authenticates attempt hall hstage hmove => exact (moveAttempt_moves state _ _ _ _ hmove).table.1
  | _ => rfl

theorem VisitMoves.calm {desk desk' : Desk} {visit visit' : Visit} {act : VisitAct}
    (hcalm : state.Calm desk.hall) (hease : state.VisitAtEase desk visit)
    (h : VisitMoves state desk visit act desk' visit') :
    state.Calm desk'.hall ∧ state.VisitAtEase desk' visit' := by
  unfold VisitAtEase at hease
  cases h with
  | authenticates attempt hall hstage hmove =>
    rw [hstage] at hease
    unfold VisitAtEase
    dsimp only
    rw [hstage]
    exact (moveAttempt_moves state _ _ _ _ hmove).calm state hcalm hease
  | panics panic hstage hleft =>
    rw [hstage] at hease
    refine ⟨hcalm, fun hlock => ?_⟩
    unfold Attempt.left at hleft
    split at hleft
    · cases hleft
    · rename_i _ hplace
      exact hease.2 hlock _ hplace
    · cases hleft
  | observes op outcome ended hstage =>
    refine ⟨hcalm, ?_⟩
    unfold VisitAtEase Visit.goTo
    cases ended with
    | received reply => cases reply <;> trivial
    | _ => trivial
  | _ => exact ⟨hcalm, trivial⟩

theorem visit_calm_keeps : (state.visitProgram crates).Keeps (fun desk => state.Calm desk.hall)
    state.VisitAtEase := by
  refine ⟨?_, ?_, ?_, ?_⟩
  · intro desk visitor _
    refine ⟨behind_attempt state crates desk.hall.clock (Visitor.arrival visitor), ?_⟩
    intro _ panic hpanic
    cases hpanic
  · intro desk visit act desk' visit' hcalm hease h
    exact (moveVisit_moves state desk desk' visit visit' act h).calm state hcalm hease
  · intro desk visit act desk' visit' other _ _ hother h
    have hclock := (moveVisit_moves state desk desk' visit visit' act h).clock
    unfold VisitAtEase AtEase at hother ⊢
    rw [hclock]
    exact hother
  · intro desk later desk' hcalm h
    obtain ⟨hall, hpass, rfl⟩ := Option.map_eq_some_iff.mp h
    obtain ⟨hle, rfl⟩ := (passTime_eq_some _ _ _).mp hpass
    refine ⟨fun hlock => hcalm (hlock.earlier hle), ?_⟩
    intro visit hease
    unfold VisitAtEase at hease ⊢
    split
    · rename_i hstage
      rw [hstage] at hease
      exact ⟨hease.1.mono hle, fun hlock => hease.2 (hlock.earlier hle)⟩
    · rename_i panic hstage
      rw [hstage] at hease
      exact fun hlock => hease (hlock.earlier hle)
    · trivial

/-- However requests interleave, each leaves after at most twenty-two acts of its
own and can go on until then, by its next step or by its timeout; one that waits
gets a permit exactly if fewer than the limit are held; one leaves without a
response exactly if its client went away; and while locks end in range, none
panics. -/
theorem visits_leave (clock : Instant) (events : List (Event Visitor VisitAct Instant))
    (s : Threads Desk Visit)
    (h : run (state.visitProgram crates).step (state.openDesk clock) events = some s) :
    (∀ i visit, s.threads[i]? = some visit →
      (ownActs i events).length ≤ 22 ∧
      (visit.left = none → ∃ act s', (act = .step ∨ act = .timedOut) ∧
        (state.visitProgram crates).step s (.moved i act) = some s') ∧
      (22 ≤ (ownActs i events).length → visit.left ≠ none) ∧
      (∀ commands op, visit.stage = .operating commands op → op.phase = .acquiring →
        ((∃ s', (state.visitProgram crates).step s (.moved i .granted) = some s') ↔
          s.threads.countP (Visit.holdsAt op.target) <
            OperationPermits.limit state.targets op.target)) ∧
      (∀ response, visit.left = some (.ok response) →
        (response = none ↔ .dropped ∈ ownActs i events))) ∧
    (CanLock state.authLockout s.shared.hall.clock →
      ∀ visit ∈ s.threads, ∀ panic, visit.left ≠ some (.error panic)) := by
  constructor
  · intro i visit hvisit
    obtain ⟨hfit, hparts⟩ := parts_of_run state crates clock events s h i visit hvisit
    have hmoves := Program.moves_le Visit.actsLeft 22
      (visit_actsLeft state crates)
      (fun desk visit act desk' visit' hmove =>
        (moveVisit_moves state desk desk' visit visit' act hmove).actsLeft)
      events (state.openDesk clock).shared s h i visit hvisit
    have hgoes (hleft : visit.left = none) :=
      moveVisit_isSome state crates s.shared visit hfit hleft
    refine ⟨by omega, ?_, ?_, ?_, ?_⟩
    · intro hleft
      obtain ⟨act, hact, hsome⟩ := hgoes hleft
      obtain ⟨s', hstep⟩ := (step_isSome state crates s i visit act hvisit).mpr hsome
      exact ⟨act, s', hact, hstep⟩
    · intro hlong hleft
      obtain ⟨act, _, hsome⟩ := hgoes hleft
      obtain ⟨⟨desk, visit'⟩, hmove⟩ := Option.isSome_iff_exists.mp hsome
      have hless := (moveVisit_moves state _ _ _ _ _ hmove).actsLeft
      omega
    · intro commands op hstage hphase
      have hpermits := permits_held state crates clock events s h op.target
      rw [step_isSome state crates s i visit .granted hvisit,
        moveVisit_granted state s.shared visit commands op hstage hphase]
      omega
    · intro response hleft
      unfold Visit.left at hleft
      unfold PartsBy at hparts
      split at hleft
      · rename_i hstage
        cases hleft
        rw [hstage] at hparts
        exact hparts
      · cases hleft
      · cases hleft
  · intro hlock visit hmem panic hleft
    have hstart : Program.Sound (fun desk : Desk => state.Calm desk.hall) state.VisitAtEase
        (state.openDesk clock) := by
      refine ⟨?_, fun visit hmem => absurd hmem List.not_mem_nil⟩
      exact (calm_of_run state crates clock [] (openHall clock) rfl).shared
    have hease := ((visit_calm_keeps state crates).run events _ s hstart h).each visit hmem
    unfold Visit.left at hleft
    unfold VisitAtEase at hease
    split at hleft
    · cases hleft
    · rename_i hstage
      rw [hstage] at hease
      exact hease hlock
    · cases hleft

set_option maxRecDepth 4000 in
/-- A request whose packet has been handed over is not answered yet, and goes on. -/
theorem visits_leave_sent : ∃ state s s' act, new (fun _ => .ok ()) twoTargets = .ok state ∧
    run (state.visitProgram abcCrates).step (state.openDesk (.ofSecs 0)) oneSent = some s ∧
    (act = .step ∨ act = .timedOut) ∧
    (state.visitProgram abcCrates).step s (.moved 0 act) = some s' := by
  obtain ⟨state, s, visit, hnew, hrun, hvisit, hleft⟩ : ∃ state s visit,
      new (fun _ => .ok ()) twoTargets = .ok state ∧
      run (state.visitProgram abcCrates).step (state.openDesk (.ofSecs 0)) oneSent = some s ∧
      s.threads[0]? = some visit ∧ visit.left = none := ⟨_, _, _, rfl, rfl, rfl, rfl⟩
  obtain ⟨act, s', hact, hstep⟩ := ((visits_leave state abcCrates (.ofSecs 0) oneSent s hrun).1 0
    visit hvisit).2.1 hleft
  exact ⟨state, s, s', act, hnew, hrun, hact, hstep⟩

end AppState

end RedisBridge.App
