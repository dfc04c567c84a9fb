import RedisBridge.JointPrograms
import RedisBridge.ShardCallers
import RedisBridge.VisitConfinement

/-!
Requests at the command routes beside the shards that serve them. An operation
that has its permit calls `connection` at its target and goes on with what the
call returns; the supervisors of all shards take their steps in between. Without
the shards this is the program of the requests, and at every target it is the
system of its callers and supervisors, so what is known of either holds here.
-/
namespace RedisBridge.App

open BridgeConfig ClientAddress Instants IpAddress JointPrograms Lockout Responses RustText
open Security SharedThreads Targets TokenType TransitionRuns
open OperationPermits (Operation Operations Outcome)
open Shards (Caller Shard System Tick)

variable {κ : Type}

/-- What the requests share: the desk, and the shards of every target. -/
structure Floor (κ : Type) where
  desk : Desk
  fleet : ℕ → Shards.RedisTarget κ

/-- A request with its call of `connection` at a target, from the permit to the
end of the operation. -/
structure Errand (κ : Type) where
  visit : Visit
  call : Option (ℕ × Caller κ)

inductive ErrandAct
  | visit (act : VisitAct)
  | call

/-- Time passes, or a supervisor of a target takes a step. -/
inductive FloorChange (κ : Type)
  | passed (later : Instant)
  | supervised (target index : ℕ) (tick : Tick κ)

namespace Errand

/-- The call with its target, as that target has it. A request that has not
called there is a caller that has not begun. -/
def callerAt (target : ℕ) (errand : Errand κ) : Caller κ :=
  match errand.call with
  | some (number, caller) => if number = target then caller else .subscribing
  | none => .subscribing

/-- What the call has returned: a shard, a generation and its connection. -/
def connection (errand : Errand κ) : Option (ℕ × U64 × κ) :=
  match errand.call with
  | some (_, .returned index generation connection) => some (index, generation, connection)
  | _ => none

/-- An operation is connected where its call has returned. The call does not
fail: the watch that it waits on is owned by the target. -/
def allows (errand : Errand κ) : VisitAct → Bool
  | .connected => errand.connection.isSome
  | .unconnected => false
  | _ => true

/-- The call begins with the permit, and is dropped with the operation. -/
def callAfter (errand : Errand κ) (visit : Visit) : Option (ℕ × Caller κ) :=
  match visit.stage with
  | .operating _ op =>
      if op.phase = .connecting ∧ errand.call = none then some (op.target, .subscribing)
      else errand.call
  | .closing _ _ _ _ => errand.call.map fun (target, _) => (target, .dropped)
  | _ => errand.call

end Errand

namespace AppState

variable (state : AppState) (crates : Crates)

def moveErrand (floor : Floor κ) (errand : Errand κ) : ErrandAct → Option (Floor κ × Errand κ)
  | .visit act =>
      if errand.allows act = true then
        match state.moveVisit floor.desk errand.visit act with
        | none => none
        | some (desk, visit) => some ({ floor with desk := desk }, ⟨visit, errand.callAfter visit⟩)
      else none
  | .call =>
      match errand.call with
      | none => none
      | some (number, caller) =>
          match caller.step (floor.fleet number) with
          | none => none
          | some (target, caller') =>
              some ({ floor with fleet := Function.update floor.fleet number target },
                { errand with call := some (number, caller') })

def changeFloor (floor : Floor κ) : FloorChange κ → Option (Floor κ)
  | .passed later => (passDeskTime floor.desk later).map fun desk => { floor with desk := desk }
  | .supervised number index tick =>
      ((floor.fleet number).supervise index tick).map fun target =>
        { floor with fleet := Function.update floor.fleet number target }

/-- Requests at the command routes with their connections. -/
def errandProgram : Program (Floor κ) (Errand κ) Visitor ErrandAct (FloorChange κ) where
  enter := fun visitor => ⟨state.visit crates visitor, none⟩
  move := state.moveErrand
  drift := changeFloor

/-- How many shards a target has. -/
def shardsOf (target : ℕ) : ℕ := (state.targets[target]?).elim 0 fun target =>
  target.connectionShards.val

/-- The bridge before any request and any connection. -/
def openFloor (clock : Instant) : Threads (Floor κ) (Errand κ) :=
  ⟨⟨(state.openDesk clock).shared, fun target => Shards.RedisTarget.start (state.shardsOf target)⟩,
    []⟩

abbrev ErrandEvent (κ : Type) := Event Visitor ErrandAct (FloorChange κ)

/-- A target with the requests as its callers. -/
def systemAt (target : ℕ) (s : Threads (Floor κ) (Errand κ)) : System κ :=
  ⟨s.shared.fleet target, s.threads.map (Errand.callerAt target)⟩

/-- What the supervisor of a shard does in a run. -/
def supervision (target index : ℕ) (events : List (ErrandEvent κ)) : List (Tick κ) :=
  events.filterMap fun
    | .drifted (.supervised number shard tick) =>
        if number = target ∧ shard = index then some tick else none
    | _ => none

/-- What a step hands to Redis, and the connection that it is handed to. -/
def deliveries (floor : Floor κ) (errand : Errand κ) :
    ErrandAct → List (Handover × Option (ℕ × U64 × κ))
  | .visit act =>
      (handovers floor.desk errand.visit act).map fun handover => (handover, errand.connection)
  | .call => []

/-! Without the shards. -/

theorem errand_refines : Refines (state.errandProgram crates) (state.visitProgram crates)
    (Floor.desk (κ := κ)) Errand.visit
    (fun floor errand act => (deliveries floor errand act).map Prod.fst) handovers := by
  refine ⟨fun visitor => ⟨visitor, rfl⟩, ?_, ?_⟩
  · intro floor errand act floor' errand' h
    cases act with
    | visit act =>
      simp only [errandProgram, moveErrand] at h
      split at h
      · split at h
        · cases h
        · rename_i desk visit hmove
          cases h
          refine Or.inl ⟨act, hmove, ?_⟩
          simp only [deliveries, List.map_map, Function.comp_def, List.map_id']
      · cases h
    | call =>
      simp only [errandProgram, moveErrand] at h
      split at h
      · cases h
      · split at h
        · cases h
        · cases h
          exact Or.inr ⟨rfl, rfl, rfl⟩
  · intro floor change floor' h
    cases change with
    | passed later =>
      obtain ⟨desk, hdesk, rfl⟩ := Option.map_eq_some_iff.mp h
      exact ⟨later, hdesk⟩
    | supervised number index tick =>
      obtain ⟨target, _, rfl⟩ := Option.map_eq_some_iff.mp h
      refine ⟨floor.desk.hall.clock, ?_⟩
      simp only [visitProgram, passDeskTime, passTime, if_pos (le_refl floor.desk.hall.clock)]
      rfl

/-! At one target. -/

theorem callerAt_callAfter (target : ℕ) (errand : Errand κ) (visit : Visit) :
    Errand.callerAt target ⟨visit, errand.callAfter visit⟩ = errand.callerAt target ∨
      Errand.callerAt target ⟨visit, errand.callAfter visit⟩ = .dropped := by
  unfold Errand.callAfter
  split
  · rename_i commands op hstage
    split
    · rename_i hcalls
      refine Or.inl ?_
      unfold Errand.callerAt
      rw [hcalls.2]
      dsimp only
      split <;> rfl
    · exact Or.inl rfl
  · unfold Errand.callerAt
    cases errand.call with
    | none => exact Or.inl rfl
    | some call =>
      dsimp only [Option.map_some]
      split
      · exact Or.inr rfl
      · exact Or.inl rfl
  · exact Or.inl rfl

theorem supervision_concat (target index : ℕ) (past : List (ErrandEvent κ))
    (event : ErrandEvent κ) :
    supervision target index (past ++ [event]) =
      supervision target index past ++ supervision target index [event] :=
  List.filterMap_append

/-- A target with its callers has taken the steps that its supervisors took. -/
def Mirrored (target : ℕ) (past : List (ErrandEvent κ)) (s : Threads (Floor κ) (Errand κ)) :
    Prop :=
  ∃ own, run System.step (System.start (state.shardsOf target)) own = some (systemAt target s) ∧
    ∀ index, Shards.ticks index own = supervision target index past

theorem Mirrored.stay (target : ℕ) (past : List (ErrandEvent κ))
    (s s' : Threads (Floor κ) (Errand κ)) (event : ErrandEvent κ)
    (hs : state.Mirrored target past s) (hsame : systemAt target s' = systemAt target s)
    (hquiet : ∀ index, supervision target index [event] = []) :
    state.Mirrored target (past ++ [event]) s' := by
  obtain ⟨own, hrun, hticks⟩ := hs
  refine ⟨own, hsame ▸ hrun, ?_⟩
  intro index
  rw [supervision_concat, hquiet, List.append_nil]
  exact hticks index

theorem Mirrored.go (target : ℕ) (past : List (ErrandEvent κ))
    (s s' : Threads (Floor κ) (Errand κ)) (event : ErrandEvent κ) (own : Shards.Event κ)
    (hs : state.Mirrored target past s)
    (hstep : (systemAt target s).step own = some (systemAt target s'))
    (hticks : ∀ index, Shards.ticks index [own] = supervision target index [event]) :
    state.Mirrored target (past ++ [event]) s' := by
  obtain ⟨before, hrun, hbefore⟩ := hs
  refine ⟨before ++ [own], run_concat _ _ _ _ before own hrun hstep, ?_⟩
  intro index
  rw [supervision_concat, ← hbefore index, ← hticks index]
  exact List.filterMap_append

theorem systemAt_set (target : ℕ) (s : Threads (Floor κ) (Errand κ)) (floor : Floor κ) (i : ℕ)
    (errand errand' : Errand κ) (herrand : s.threads[i]? = some errand)
    (hfleet : floor.fleet target = s.shared.fleet target)
    (hcaller : errand'.callerAt target = errand.callerAt target) :
    systemAt target ⟨floor, s.threads.set i errand'⟩ = systemAt target s := by
  have hmem : (s.threads.map (Errand.callerAt target))[i]? = some (errand.callerAt target) := by
    rw [List.getElem?_map, herrand, Option.map_some]
  obtain ⟨hlt, hget⟩ := List.getElem?_eq_some_iff.mp hmem
  simp only [systemAt, hfleet, List.map_set, hcaller]
  rw [← hget, List.set_getElem_self]

/-- A step of the requests and their shards is at each target a step of its
system, or is not seen there. -/
theorem Mirrored.step (target : ℕ) (past : List (ErrandEvent κ))
    (s : Threads (Floor κ) (Errand κ)) (event : ErrandEvent κ)
    (s' : Threads (Floor κ) (Errand κ)) (hs : state.Mirrored target past s)
    (h : (state.errandProgram crates).step s event = some s') :
    state.Mirrored target (past ++ [event]) s' := by
  rcases (state.errandProgram crates).step_cases s s' event h with ⟨visitor, rfl, rfl⟩ |
    ⟨i, act, errand, floor, errand', rfl, herrand, hmove, rfl⟩ | ⟨change, floor, rfl, hchange, rfl⟩
  · refine hs.go state target past s _ _ .called ?_ (fun _ => rfl)
    simp only [System.step, systemAt, List.map_append]
    rfl
  · cases act with
    | visit act =>
      simp only [errandProgram, moveErrand] at hmove
      split at hmove
      · split at hmove
        · cases hmove
        · rename_i desk visit hvisit
          cases hmove
          rcases callerAt_callAfter target errand visit with hsame | hdropped
          · exact hs.stay state target past s _ _
              (systemAt_set target s _ i errand _ herrand rfl hsame) (fun _ => rfl)
          · refine hs.go state target past s _ _ (.gaveUp i) ?_ (fun _ => rfl)
            simp only [System.step, systemAt, List.map_set, hdropped]
      · cases hmove
    | call =>
      simp only [errandProgram, moveErrand] at hmove
      split at hmove
      · cases hmove
      · rename_i number caller hcall
        split at hmove
        · cases hmove
        · rename_i moved caller' hstep
          cases hmove
          by_cases hnumber : number = target
          · subst hnumber
            have hcaller : errand.callerAt number = caller := by
              rw [Errand.callerAt, hcall]
              exact if_pos rfl
            have hmem : (s.threads.map (Errand.callerAt number))[i]? = some caller := by
              rw [List.getElem?_map, herrand, Option.map_some, hcaller]
            refine hs.go state number past s _ _ (.moved i) ?_ (fun _ => rfl)
            simp only [System.step, systemAt, hmem, hstep, List.map_set, Function.update_self,
              Errand.callerAt, if_true]
          · refine hs.stay state target past s _ _
              (systemAt_set target s _ i errand _ herrand ?_ ?_) (fun _ => rfl)
            · exact Function.update_of_ne (Ne.symm hnumber) _ _
            · simp only [Errand.callerAt, hcall, if_neg hnumber]
  · cases change with
    | passed later =>
      obtain ⟨desk, _, rfl⟩ := Option.map_eq_some_iff.mp hchange
      exact hs.stay state target past s _ _ rfl (fun _ => rfl)
    | supervised number index tick =>
      obtain ⟨moved, hmoved, rfl⟩ := Option.map_eq_some_iff.mp hchange
      by_cases hnumber : number = target
      · subst hnumber
        refine hs.go state number past s _ _ (.supervised index tick) ?_ ?_
        · simp only [System.step, systemAt, hmoved, Function.update_self]
        · intro shard
          simp only [Shards.ticks, Shards.Event.tick, supervision, List.filterMap_cons,
            List.filterMap_nil, true_and]
      · refine hs.stay state target past s _ _ ?_ ?_
        · simp only [systemAt, Function.update_of_ne (Ne.symm hnumber)]
        · intro shard
          simp only [supervision, List.filterMap_cons, List.filterMap_nil, hnumber, false_and,
            if_false]

theorem mirrored_of_run (clock : Instant) (events : List (ErrandEvent κ))
    (s : Threads (Floor κ) (Errand κ))
    (h : run (state.errandProgram crates).step (state.openFloor clock) events = some s)
    (target : ℕ) : state.Mirrored target events s := by
  have hstart : state.Mirrored target [] (state.openFloor (κ := κ) clock) :=
    ⟨[], rfl, fun _ => rfl⟩
  exact run_history (state.errandProgram crates).step (state.Mirrored target)
    (Mirrored.step state crates target) events [] _ s hstart h

/-! Each request. -/

/-- A request calls for a connection once it has its permit, and has one while
its operation runs. -/
def ErrandFit (errand : Errand κ) : Prop :=
  match errand.visit.stage with
  | .authenticating => errand.call = none
  | .screening _ => errand.call = none
  | .operating _ op =>
      match op.phase with
      | .acquiring => errand.call = none
      | .connecting => ∃ caller, errand.call = some (op.target, caller) ∧ caller ≠ .dropped
      | .running => ∃ index generation connection,
          errand.call = some (op.target, .returned index generation connection)
      | .finished _ => False
  | _ => True

/-- An operation that goes on is granted its permit, is connected, or stays in
its phase. -/
theorem advance_phase (op op' : Operation) (act : OperationPermits.Act)
    (h : op.advance act = some op') (hunfinished : op'.isFinished = false) :
    op'.target = op.target ∧
      ((op.phase = .acquiring ∧ op'.phase = .connecting) ∨
        (act = .connected ∧ op.phase = .connecting ∧ op'.phase = .running) ∨
        op'.phase = op.phase) := by
  have hfinish (outcome : Outcome) (heq : op.finish outcome = op') : False := by
    subst heq
    cases hunfinished
  cases act with
  | granted =>
    simp only [Operation.advance] at h
    split at h
    · rename_i hphase
      cases h
      exact ⟨rfl, Or.inl ⟨hphase, rfl⟩⟩
    · cases h
  | connected =>
    simp only [Operation.advance] at h
    split at h
    · rename_i hphase
      cases h
      exact ⟨rfl, Or.inr (Or.inl ⟨rfl, hphase, rfl⟩)⟩
    · cases h
  | sent | answered =>
    simp only [Operation.advance] at h
    split at h
    · cases h
      exact ⟨rfl, Or.inr (Or.inr rfl)⟩
    · cases h
  | saturated | closed | unconnected | received ok | lost =>
    simp only [Operation.advance] at h
    split at h
    · exact (hfinish _ (Option.some.inj h)).elim
    · cases h
  | timedOut | dropped =>
    simp only [Operation.advance] at h
    split at h
    · cases h
    · exact (hfinish _ (Option.some.inj h)).elim

theorem operation_connected (act : VisitAct) (h : act.operation = some .connected) :
    act = .connected := by
  cases act with
  | received reply => cases reply <;> cases h
  | connected => rfl
  | _ => cases h

theorem returned_of_allows (errand : Errand κ) (h : errand.allows .connected = true) :
    ∃ target index generation connection,
      errand.call = some (target, .returned index generation connection) := by
  unfold Errand.allows Errand.connection at h
  dsimp only at h
  split at h
  · rename_i target index generation connection hcall
    exact ⟨target, index, generation, connection, hcall⟩
  · cases h

theorem step_ne_dropped (target target' : Shards.RedisTarget κ) (caller caller' : Caller κ)
    (h : caller.step target = some (target', caller')) : caller' ≠ .dropped := by
  cases caller with
  | subscribing | numbering _ | marking _ _ =>
    cases h
    exact nofun
  | scanning start seen offset =>
    obtain ⟨_, ⟨_, rfl⟩ | ⟨_, rfl⟩ | ⟨_, rfl⟩⟩ :=
      Caller.step_scanning target target' start seen offset caller' h <;>
    exact nofun
  | cloning start seen index =>
    cases h
    unfold Caller.cloned
    split
    · exact nofun
    · split <;> exact nofun
  | waiting start seen =>
    obtain ⟨_, rfl⟩ := Caller.step_waiting target target' start seen caller' h
    exact nofun
  | returned _ _ _ => cases h
  | dropped => cases h

/-- An operation that goes on keeps its request as it should be. -/
theorem errandFit_operates (errand : Errand κ) (commands : List RedisCommand) (op op' : Operation)
    (act : VisitAct) (opAct : OperationPermits.Act) (hfit : ErrandFit errand)
    (hallows : errand.allows act = true) (hstage : errand.visit.stage = .operating commands op)
    (hact : act.operation = some opAct) (hadvance : op.advance opAct = some op')
    (hunfinished : op'.isFinished = false) :
    ErrandFit ⟨errand.visit.goTo (.operating commands op'),
      errand.callAfter (errand.visit.goTo (.operating commands op'))⟩ := by
  unfold ErrandFit at hfit ⊢
  rw [hstage] at hfit
  dsimp only [Visit.goTo, Errand.callAfter] at hfit ⊢
  obtain ⟨htarget, ⟨hbefore, hafter⟩ | ⟨rfl, hbefore, hafter⟩ | hsame⟩ :=
    advance_phase op op' opAct hadvance hunfinished
  · rw [hbefore] at hfit
    rw [hafter, if_pos ⟨rfl, hfit⟩]
    exact ⟨_, rfl, nofun⟩
  · obtain rfl := operation_connected act hact
    obtain ⟨target, index, generation, connection, hreturned⟩ := returned_of_allows errand hallows
    rw [hbefore] at hfit
    obtain ⟨caller, hcall, _⟩ := hfit
    have hown := hcall.symm.trans hreturned
    cases hown
    rw [hafter, if_neg (fun hconnecting => nomatch hconnecting.1), htarget]
    exact ⟨index, generation, connection, hreturned⟩
  · have hkept : ¬(op'.phase = .connecting ∧ errand.call = none) := by
      rintro ⟨hconnecting, hnone⟩
      rw [← hsame, hconnecting] at hfit
      obtain ⟨caller, hcall, _⟩ := hfit
      rw [hnone] at hcall
      cases hcall
    rw [if_neg hkept, hsame, htarget]
    exact hfit

theorem errandFit_visit (desk desk' : Desk) (errand : Errand κ) (visit : Visit) (act : VisitAct)
    (hfit : ErrandFit errand) (hallows : errand.allows act = true)
    (h : VisitMoves state desk errand.visit act desk' visit) :
    ErrandFit ⟨visit, errand.callAfter visit⟩ := by
  cases h with
  | authenticates attempt hall hstage hmove =>
    unfold ErrandFit at hfit ⊢
    dsimp only [Errand.callAfter]
    rw [hstage] at hfit ⊢
    exact hfit
  | passes route hstage hleft =>
    unfold ErrandFit at hfit
    rw [hstage] at hfit
    exact hfit
  | begins route commands hstage hcheck =>
    unfold ErrandFit at hfit
    rw [hstage] at hfit
    exact hfit
  | operates commands op op' act opAct hstage hact hadvance hpermits hunfinished =>
    exact errandFit_operates errand commands op op' act opAct hfit hallows hstage hact hadvance
      hunfinished
  | observes op outcome ended hstage =>
    cases ended with
    | received reply => cases reply <;> trivial
    | _ => trivial
  | _ => trivial

theorem errand_fit (floor floor' : Floor κ) (errand errand' : Errand κ) (act : ErrandAct)
    (hfit : ErrandFit errand) (h : state.moveErrand floor errand act = some (floor', errand')) :
    ErrandFit errand' := by
  cases act with
  | visit act =>
    simp only [moveErrand] at h
    split at h
    · rename_i hallows
      split at h
      · cases h
      · rename_i desk visit hvisit
        cases h
        exact errandFit_visit state floor.desk desk errand visit act hfit hallows
          (moveVisit_moves state floor.desk desk errand.visit visit act hvisit)
    · cases h
  | call =>
    simp only [moveErrand] at h
    split at h
    · cases h
    · rename_i number caller hcall
      split at h
      · cases h
      · rename_i target caller' hstep
        cases h
        unfold ErrandFit at hfit ⊢
        rw [hcall] at hfit
        dsimp only
        cases hstage : errand.visit.stage with
        | operating commands op =>
          rw [hstage] at hfit
          dsimp only at hfit ⊢
          cases hphase : op.phase with
          | acquiring =>
            rw [hphase] at hfit
            cases hfit
          | connecting =>
            rw [hphase] at hfit
            obtain ⟨_, hown, _⟩ := hfit
            cases hown
            exact ⟨caller', rfl, step_ne_dropped _ _ _ _ hstep⟩
          | running =>
            rw [hphase] at hfit
            obtain ⟨_, _, _, hown⟩ := hfit
            cases hown
            cases hstep
          | finished outcome =>
            rw [hphase] at hfit
            exact hfit
        | authenticating | screening _ =>
          rw [hstage] at hfit
          cases hfit
        | _ => trivial

theorem fit_of_run (clock : Instant) (events : List (ErrandEvent κ))
    (s : Threads (Floor κ) (Errand κ))
    (h : run (state.errandProgram crates).step (state.openFloor clock) events = some s) :
    ∀ errand ∈ s.threads, ErrandFit errand := by
  have hkeeps : (state.errandProgram crates).Keeps (fun _ : Floor κ => True)
      (fun _ errand => ErrandFit errand) := by
    refine ⟨fun _ _ _ => rfl, ?_, fun _ _ _ _ _ _ _ _ hother _ => hother,
      fun _ _ _ _ _ => ⟨trivial, fun _ hown => hown⟩⟩
    intro floor errand act floor' errand' _ hfit hmove
    exact ⟨trivial, state.errand_fit floor floor' errand errand' act hfit hmove⟩
  exact (hkeeps.run events _ s ⟨trivial, fun _ hmem => absurd hmem List.not_mem_nil⟩ h).each

/-- A call that has returned connects its operation. -/
theorem moveErrand_connected (floor : Floor κ) (errand : Errand κ) (commands : List RedisCommand)
    (op : Operation) (index : ℕ) (generation : U64) (connection : κ)
    (hstage : errand.visit.stage = .operating commands op) (hphase : op.phase = .connecting)
    (hcall : errand.call = some (op.target, .returned index generation connection)) :
    (state.moveErrand floor errand (.visit .connected)).isSome = true := by
  have hallows : errand.allows .connected = true := by
    rw [Errand.allows, Errand.connection, hcall]
    rfl
  have hpermits : floor.desk.Permits op { op with phase := .running } := by
    intro _
    refine Or.inl ?_
    rw [Operation.holdsPermit, hphase]
    rfl
  simp only [moveErrand, if_pos hallows, moveVisit, hstage, moveOperating, VisitAct.operation,
    Option.bind_some, Operation.advance, if_pos hphase, if_pos hpermits]
  rfl

theorem callers_systemAt (s : Threads (Floor κ) (Errand κ)) (i number : ℕ) (errand : Errand κ)
    (caller : Caller κ) (herrand : s.threads[i]? = some errand)
    (hcall : errand.call = some (number, caller)) :
    (systemAt number s).callers[i]? = some caller := by
  rw [systemAt, List.getElem?_map, herrand, Option.map_some, Errand.callerAt, hcall]
  exact congrArg some (if_pos rfl)

/-- A packet was handed to a connection that the supervisor of a shard of its own
target had established under that generation. -/
def Delivered (past : List (ErrandEvent κ)) (delivery : Handover × Option (ℕ × U64 × κ)) : Prop :=
  ∃ index generation connection, delivery.2 = some (index, generation, connection) ∧
    (Shards.installs (supervision delivery.1.target index past) < 2 ^ 64 →
      Shard.Issued (supervision delivery.1.target index past) generation connection)

theorem Delivered.later (past : List (ErrandEvent κ)) (event : ErrandEvent κ)
    (delivery : Handover × Option (ℕ × U64 × κ)) (h : Delivered past delivery) :
    Delivered (past ++ [event]) delivery := by
  obtain ⟨index, generation, connection, hheld, hissued⟩ := h
  refine ⟨index, generation, connection, hheld, ?_⟩
  rw [supervision_concat]
  intro hbound
  unfold Shards.installs at hbound hissued
  rw [List.countP_append] at hbound
  exact (hissued (by omega)).later _ _ _ _

/-- The operation runs where its packet is handed over. -/
theorem running_of_sent (floor : Floor κ) (errand : Errand κ) (commands : List RedisCommand)
    (op : Operation) (next : Floor κ × Errand κ)
    (hstage : errand.visit.stage = .operating commands op)
    (h : state.moveErrand floor errand (.visit .sent) = some next) : op.phase = .running := by
  simp only [moveErrand, moveVisit, hstage, moveOperating, VisitAct.operation, Option.bind_some,
    Operation.advance] at h
  by_contra hphase
  simp only [hphase, false_and, if_false] at h
  split at h <;> cases h

theorem deliveries_made (clock : Instant) (events : List (ErrandEvent κ))
    (s : Threads (Floor κ) (Errand κ))
    (h : run (state.errandProgram crates).step (state.openFloor clock) events = some s) :
    ∀ delivery ∈ (state.errandProgram crates).journal deliveries (state.openFloor clock) events,
      Delivered events delivery := by
  refine Program.journal_holds deliveries Delivered (state.openFloor clock) Delivered.later ?_
    events s h
  intro past mid i act errand next delivery hrun herrand hmove hmem
  cases act with
  | call => exact absurd hmem List.not_mem_nil
  | visit act =>
    obtain ⟨handover, hhanded, rfl⟩ := List.mem_map.mp hmem
    unfold handovers at hhanded
    split at hhanded
    · rename_i commands op hstage
      obtain rfl := List.mem_singleton.mp hhanded
      have hfit := fit_of_run state crates clock past mid hrun errand (List.mem_of_getElem? herrand)
      unfold ErrandFit at hfit
      rw [hstage] at hfit
      dsimp only at hfit
      rw [running_of_sent state mid.shared errand commands op next hstage hmove] at hfit
      obtain ⟨index, generation, connection, hcall⟩ := hfit
      refine ⟨index, generation, connection, ?_, ?_⟩
      · simp only [Errand.connection, hcall]
      · obtain ⟨own, hown, hticks⟩ := mirrored_of_run state crates clock past mid hrun op.target
        dsimp only
        rw [← hticks]
        intro hbound
        exact (System.sourced_of_run (state.shardsOf op.target) own _ hown).given _
          (List.mem_of_getElem? (callers_systemAt mid i op.target errand _ herrand hcall)) index
          generation connection rfl hbound
    · exact absurd hhanded List.not_mem_nil

/-- An operation that waits for its connection goes on, with the next step of its
call or with what that has returned. -/
theorem errand_goes (clock : Instant) (events : List (ErrandEvent κ))
    (s : Threads (Floor κ) (Errand κ))
    (h : run (state.errandProgram crates).step (state.openFloor clock) events = some s) (i : ℕ)
    (errand : Errand κ) (commands : List RedisCommand) (op : Operation)
    (herrand : s.threads[i]? = some errand)
    (hstage : errand.visit.stage = .operating commands op) (hphase : op.phase = .connecting)
    (hquiet : (s.shared.fleet op.target).Quiet)
    (hready : ∃ index, (s.shared.fleet op.target).isReady index = true) :
    ∃ act s', (act = .call ∨ act = .visit .connected) ∧
      (state.errandProgram crates).step s (.moved i act) = some s' := by
  have hfit := fit_of_run state crates clock events s h errand (List.mem_of_getElem? herrand)
  unfold ErrandFit at hfit
  rw [hstage] at hfit
  dsimp only at hfit
  rw [hphase] at hfit
  obtain ⟨caller, hcall, hkept⟩ := hfit
  have hcaller := callers_systemAt s i op.target errand caller herrand hcall
  have hgoes (act : ErrandAct) (hact : act = .call ∨ act = .visit .connected)
      (hsome : (state.moveErrand s.shared errand act).isSome = true) :
      ∃ act s', (act = .call ∨ act = .visit .connected) ∧
        (state.errandProgram crates).step s (.moved i act) = some s' := by
    obtain ⟨⟨floor, errand'⟩, hmove⟩ := Option.isSome_iff_exists.mp hsome
    refine ⟨act, ⟨floor, s.threads.set i errand'⟩, hact, ?_⟩
    simp only [Program.step, herrand, errandProgram, hmove]
  cases hstep : (systemAt op.target s).step (.moved i) with
  | none =>
    obtain ⟨own, hrun, _⟩ := mirrored_of_run state crates clock events s h op.target
    have hsound := System.sound_of_reachable (state.shardsOf op.target) _ ⟨own, hrun⟩
    rcases System.through_of_blocked _ hsound hquiet hready i caller hcaller hstep with
      ⟨index, generation, connection, rfl⟩ | hdropped
    · exact hgoes _ (Or.inr rfl) (moveErrand_connected state s.shared errand commands op index
        generation connection hstage hphase hcall)
    · exact absurd hdropped hkept
  | some next =>
    obtain ⟨mover, target', mover', hmover, hmoved, _⟩ := System.step_moved _ next i hstep
    obtain rfl := Option.some.inj (hcaller.symm.trans hmover)
    have hmove : caller.step (s.shared.fleet op.target) = some (target', mover') := hmoved
    refine hgoes .call (Or.inl rfl) ?_
    simp only [moveErrand, hcall, hmove, Option.isSome_some]

/-- Requests with their connections, whatever supervisors do and in whatever
order. Without the shards it is a run of the requests, with the same packets
handed over; at each target it is a run of its callers and supervisors. Every
packet is handed to a connection that the supervisor of a shard of its own target
established under that generation; and an operation that waits for its connection
goes on as soon as a shard there is ready and no supervisor is midway. -/
theorem visits_connected (clock : Instant) (events : List (ErrandEvent κ))
    (s : Threads (Floor κ) (Errand κ))
    (h : run (state.errandProgram crates).step (state.openFloor clock) events = some s) :
    (∃ events', run (state.visitProgram crates).step (state.openDesk clock) events' =
        some ⟨s.shared.desk, s.threads.map Errand.visit⟩ ∧
      (state.visitProgram crates).journal handovers (state.openDesk clock) events' =
        ((state.errandProgram crates).journal deliveries (state.openFloor clock) events).map
          Prod.fst) ∧
    (∀ target, state.Mirrored target events s) ∧
    (∀ delivery ∈ (state.errandProgram crates).journal deliveries (state.openFloor clock) events,
      Delivered events delivery) ∧
    ∀ i errand commands op, s.threads[i]? = some errand →
      errand.visit.stage = .operating commands op → op.phase = .connecting →
      (s.shared.fleet op.target).Quiet →
      (∃ index, (s.shared.fleet op.target).isReady index = true) →
      ∃ act s', (act = .call ∨ act = .visit .connected) ∧
        (state.errandProgram crates).step s (.moved i act) = some s' := by
  refine ⟨?_, mirrored_of_run state crates clock events s h,
    deliveries_made state crates clock events s h, errand_goes state crates clock events s h⟩
  obtain ⟨events', hrun, hjournal⟩ := (errand_refines state crates).run events _ s h
  rw [Program.journal_map] at hjournal
  exact ⟨events', hrun, hjournal⟩

/-- A request at the second target, where one shard has connected. -/
def connectedOnce : List (ErrandEvent ℕ) :=
  [.drifted (.supervised 1 0 .looked), .drifted (.supervised 1 0 (.connected 7)),
    .drifted (.supervised 1 0 .gauged), .drifted (.supervised 1 0 .counted),
    .drifted (.supervised 1 0 .announced), .entered getVisitor] ++
  List.replicate 8 (.moved 0 (.visit .step)) ++ [.moved 0 (.visit .granted)] ++
  List.replicate 5 (.moved 0 .call) ++ [.moved 0 (.visit .connected), .moved 0 (.visit .sent)]

set_option maxRecDepth 4000 in
theorem visits_connected_once : ∃ state handover,
    new (fun _ => .ok ()) twoTargets = .ok state ∧
    (state.errandProgram abcCrates).journal deliveries (state.openFloor (.ofSecs 0))
      connectedOnce = [(handover, some (0, 1, 7))] ∧
    Shard.Issued (supervision handover.target 0 connectedOnce) 1 7 := by
  obtain ⟨state, s, handover, hnew, hrun, hjournal, hbound⟩ : ∃ state s, ∃ handover : Handover,
      new (fun _ => .ok ()) twoTargets = .ok state ∧
      run (state.errandProgram abcCrates).step (state.openFloor (.ofSecs 0)) connectedOnce =
        some s ∧
      (state.errandProgram abcCrates).journal deliveries (state.openFloor (.ofSecs 0))
        connectedOnce = [(handover, some (0, 1, 7))] ∧
      Shards.installs (supervision handover.target 0 connectedOnce) < 2 ^ 64 :=
    ⟨_, _, _, rfl, rfl, rfl, by decide⟩
  obtain ⟨_, _, hdelivered, _⟩ :=
    visits_connected state abcCrates (.ofSecs 0) connectedOnce s hrun
  obtain ⟨index, generation, connection, hheld, hissued⟩ :=
    hdelivered (handover, some (0, 1, 7)) (hjournal ▸ List.mem_cons_self)
  cases hheld
  exact ⟨state, handover, hnew, hjournal, hissued hbound⟩

end AppState

end RedisBridge.App
