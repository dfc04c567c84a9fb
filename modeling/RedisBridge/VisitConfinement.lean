import RedisBridge.EffectivePolicy
import RedisBridge.VisitAccounts

/-!
From the environment to Redis. Whatever requests a bridge serves side by side,
a command reaches a Redis target only in the packet of a request that presented
an enabled token of that target, and only a command that the environment allows
the token and does not block; and no request's packet is handed over twice.
-/
namespace RedisBridge.App

open BridgeConfig ClientAddress Commands EffectivePolicy EnvVars Fallible Instants IpAddress
open Lockout Responses RustText Security SharedThreads Targets TokenType TransitionRuns
open OperationPermits (Operation Operations Outcome)

/-! What the check of a body leaves of it. -/

/-- A command that the policy of a bridge accepts for a token. -/
structure Accepted (env : Env) (security : SecurityPolicy) (tokenType : TokenCaps)
    (command : RedisCommand) : Prop where
  free : command.name ∉ blockedNames env
  reached : (tokenType.command = true ∧ command.name ∈ allowedNames env) ∨
    (tokenType.ratelimit = true ∧ command.name ∈ ratelimitCommands) ∨
    (tokenType.realtime = true ∧ command.name ∈ realtimeCommands)
  count : command.args.length ≤ security.maxCommandArgs.val
  size : ∀ arg ∈ command.args, arg.length ≤ security.maxArgBytes.val

theorem accepted_of_parse (crates : Crates) (env : Env) (bridge : Bridge)
    (henv : Bridge.fromEnv crates env = .ok bridge) (tokenType : TokenCaps)
    (array : List CommandArg) (command : RedisCommand)
    (h : bridge.security.parseCommand array tokenType = .ok command) :
    Accepted env bridge.security tokenType command := by
  obtain ⟨hname, hreach, _, hargs⟩ := (bridge.security.parseCommand_eq_ok _ _ _).mp h
  obtain ⟨hlength, _, raw, rest, rfl, _⟩ := (bridge.security.commandName_eq_ok _ _).mp hname
  obtain ⟨hfree, hreached⟩ := (mem_reach_of_env crates env bridge henv tokenType _).mp hreach
  have hconverted := (mapM_eq_ok _ _ _).mp hargs
  refine ⟨hfree, hreached, ?_, ?_⟩
  · have hsame : rest.length = command.args.length := hconverted.length_eq
    unfold saturatingAdd at hlength
    rw [List.length_cons] at hlength
    omega
  · intro bytes hbytes
    obtain ⟨i, hi⟩ := List.mem_iff_get.mp hbytes
    have hlt : i.val < ((CommandArg.string raw :: rest).drop 1).length := by
      rw [hconverted.length_eq]
      exact i.isLt
    have hone := hconverted.get hlt i.isLt
    rw [← hi]
    exact ((toArgBytes_eq_ok _ _ _).mp hone).2

/-- Every command of a checked body is accepted, and there are not too many. -/
theorem accepted_of_check (crates : Crates) (env : Env) (bridge : Bridge)
    (henv : Bridge.fromEnv crates env = .ok bridge) (tokenType : TokenCaps) (posted : Posted)
    (commands : List RedisCommand)
    (h : posted.check bridge.security tokenType = .ok commands) :
    commands.length ≤ max 1 bridge.security.maxPipelineCommands.val ∧
      ∀ command ∈ commands, Accepted env bridge.security tokenType command := by
  have hlist (arrays : Option (List (List CommandArg)))
      (hcheck : Posted.checkList bridge.security tokenType arrays = .ok commands) :
      commands.length ≤ max 1 bridge.security.maxPipelineCommands.val ∧
        ∀ command ∈ commands, Accepted env bridge.security tokenType command := by
    unfold Posted.checkList at hcheck
    split at hcheck
    · cases hcheck
    · rename_i arrays
      split at hcheck
      · cases hcheck
      · rename_i parsed hparse
        cases hcheck
        obtain ⟨hcount, hparsed⟩ := (bridge.security.parseCommandList_eq_ok _ _ _).mp hparse
        refine ⟨hparsed.length_eq ▸ le_trans hcount (le_max_right _ _), ?_⟩
        intro command hmem
        obtain ⟨i, hi⟩ := List.mem_iff_get.mp hmem
        have hlt : i.val < arrays.length := by
          rw [hparsed.length_eq]
          exact i.isLt
        rw [← hi]
        exact accepted_of_parse crates env bridge henv tokenType _ _ (hparsed.get hlt i.isLt)
  cases posted with
  | command array =>
    unfold Posted.check at h
    cases array with
    | none => cases h
    | some array =>
      dsimp only at h
      split at h
      · cases h
      · rename_i parsed hparse
        cases h
        refine ⟨le_max_left _ _, ?_⟩
        intro command hmem
        obtain rfl := List.mem_singleton.mp hmem
        exact accepted_of_parse crates env bridge henv tokenType array command hparse
  | pipeline arrays => exact hlist arrays h
  | multiExec arrays => exact hlist arrays h

namespace AppState

variable (state : AppState) (crates : Crates)

/-! What is handed over, and for whom. -/

/-- What a request was granted and its body came to. -/
structure Carries (visitor : Visitor) (handover : Handover) : Prop where
  kind : handover.packet.kind = visitor.posted.kind
  granted : ∃ route, state.verdict crates (Visitor.arrival visitor) = .granted (.ok (some route)) ∧
    handover.target = route.target ∧
    visitor.posted.check state.security route.tokenType = .ok handover.packet.commands

/-- Everything handed over was carried by a request that came, and so was every
request that is there. -/
structure Carried (past : List (Event Visitor VisitAct Instant))
    (s : Threads (Desk × List Handover) Visit) : Prop where
  came : ∀ visit ∈ s.threads,
    .entered visit.visitor ∈ past ∧ state.VisitFit crates visit
  handed : ∀ handover ∈ s.shared.2, ∃ visitor, .entered visitor ∈ past ∧
    state.Carries crates visitor handover

theorem handovers_carried (desk : Desk) (visit : Visit) (act : VisitAct)
    (hfit : state.VisitFit crates visit) (handover : Handover)
    (h : handover ∈ handovers desk visit act) :
    state.Carries crates visit.visitor handover := by
  unfold handovers at h
  split at h
  · rename_i commands op hstage
    obtain rfl := List.mem_singleton.mp h
    unfold VisitFit at hfit
    rw [hstage] at hfit
    obtain ⟨⟨route, hgranted, htarget, hcheck⟩, hkind, _⟩ := hfit
    exact ⟨hkind, route, hgranted, htarget, hcheck⟩
  · cases h

theorem Carried.step (past : List (Event Visitor VisitAct Instant))
    (s : Threads (Desk × List Handover) Visit) (event : Event Visitor VisitAct Instant)
    (s' : Threads (Desk × List Handover) Visit) (hs : state.Carried crates past s)
    (h : ((state.visitProgram crates).logged handovers).step s event = some s') :
    state.Carried crates (past ++ [event]) s' := by
  have holder (visit : Visit) (hmem : visit ∈ s.threads) :
      .entered visit.visitor ∈ past ++ [event] ∧ state.VisitFit crates visit :=
    ⟨List.mem_append_left _ (hs.came visit hmem).1, (hs.came visit hmem).2⟩
  have hearlier (handover : Handover) (hmem : handover ∈ s.shared.2) :
      ∃ visitor, .entered visitor ∈ past ++ [event] ∧ state.Carries crates visitor handover := by
    obtain ⟨visitor, hcame, hcarries⟩ := hs.handed handover hmem
    exact ⟨visitor, List.mem_append_left _ hcame, hcarries⟩
  rcases Program.step_cases _ s s' event h with ⟨visitor, rfl, rfl⟩ |
    ⟨i, act, visit, shared, visit', rfl, hthread, hmove, rfl⟩ | ⟨later, shared, rfl, hdrift, rfl⟩
  · refine ⟨?_, hearlier⟩
    intro visit hmem
    rcases List.mem_append.mp hmem with hold | hnew
    · exact holder visit hold
    · obtain rfl := List.mem_singleton.mp hnew
      exact ⟨List.mem_append_right _ List.mem_cons_self, visit_fit state crates visitor⟩
  · obtain ⟨hmoved, hlog⟩ := Program.logged_move _ _ _ _ _ _ hmove
    have hmem := List.mem_of_getElem? hthread
    obtain ⟨hcame, hfit⟩ := holder visit hmem
    have hmoves := moveVisit_moves state _ _ _ _ _ hmoved
    obtain ⟨hvisitor, _⟩ := hmoves.writes state crates hfit
    refine ⟨?_, ?_⟩
    · intro other hother
      rcases List.mem_or_eq_of_mem_set hother with hold | rfl
      · exact holder other hold
      · exact ⟨hvisitor ▸ hcame, hmoves.fit state crates hfit⟩
    · intro handover hhanded
      dsimp only at hhanded
      rw [hlog, List.mem_append] at hhanded
      rcases hhanded with hold | hnew
      · exact hearlier handover hold
      · exact ⟨visit.visitor, hcame, handovers_carried state crates _ visit act hfit handover hnew⟩
  · obtain ⟨_, hlog⟩ := Program.logged_drift _ _ _ _ hdrift
    refine ⟨holder, ?_⟩
    intro handover hhanded
    dsimp only at hhanded
    rw [hlog] at hhanded
    exact hearlier handover hhanded

/-- What is handed over in a run is carried by requests that came in it. -/
theorem journal_carried (clock : Instant) (events : List (Event Visitor VisitAct Instant))
    (s : Threads Desk Visit)
    (h : run (state.visitProgram crates).step (state.openDesk clock) events = some s) :
    ∀ handover ∈ (state.visitProgram crates).journal handovers (state.openDesk clock) events,
      ∃ visitor, .entered visitor ∈ events ∧ state.Carries crates visitor handover := by
  have hlogged := Program.run_logged handovers events (state.openDesk clock) s [] h
  have hstart : state.Carried crates [] ⟨((state.openDesk clock).shared, []), []⟩ :=
    ⟨fun _ hmem => absurd hmem List.not_mem_nil, fun _ hmem => absurd hmem List.not_mem_nil⟩
  have hcarried := run_history _ (state.Carried crates) (Carried.step state crates) events [] _ _
    hstart hlogged
  exact hcarried.handed

/-- The credentials of a route that was granted at the command routes. -/
theorem granted_token (visitor : Visitor) (route : AuthRoute)
    (h : state.verdict crates (Visitor.arrival visitor) = .granted (.ok (some route))) :
    ∃ token, presentedToken visitor.headers = some token ∧
      state.tokenRoutes.lookup (state.tokenDigest crates token) = some route := by
  simp only [verdict, Visitor.arrival] at h
  split at h
  · cases h
  · rename_i token htoken
    split at h
    · cases h
    · rename_i found hfound
      refine ⟨token, htoken, ?_⟩
      simp only [Door.passes, Verdict.granted.injEq] at h
      split at h
      · cases h
      · cases h
        exact hfound

end AppState

/-! At most once. -/

def VisitAct.isSent : VisitAct → Bool
  | .sent => true
  | _ => false

/-- How often a request may have been handed over by now. -/
def Visit.mostSent (visit : Visit) : ℕ :=
  match visit.stage with
  | .authenticating | .screening _ => 0
  | .operating _ op => if op.sent = .unsent then 0 else 1
  | _ => 1

theorem Visit.mostSent_ending (visit : Visit) (act : VisitAct) (kind : PacketKind) :
    (visit.goTo (act.ending kind)).mostSent = 1 := by
  cases act with
  | received reply => cases reply <;> rfl
  | _ => rfl

/-- An operation is sent from where nothing was sent, and is not unsent later. -/
theorem advance_sent (op op' : Operation) (act : VisitAct) (opAct : OperationPermits.Act)
    (hact : act.operation = some opAct) (h : op.advance opAct = some op') :
    (act.isSent = false ∧ (op'.sent = .unsent → op.sent = .unsent)) ∨
      (act.isSent = true ∧ op.sent = .unsent ∧ op'.sent ≠ .unsent) := by
  have hkept (hsent : act.isSent = false) (hsame : op'.sent = op.sent ∨ op'.sent = .answered) :
      (act.isSent = false ∧ (op'.sent = .unsent → op.sent = .unsent)) ∨
        (act.isSent = true ∧ op.sent = .unsent ∧ op'.sent ≠ .unsent) := by
    refine Or.inl ⟨hsent, ?_⟩
    intro hunsent
    rcases hsame with hsame | hanswered
    · exact hsame.symm.trans hunsent
    · rw [hanswered] at hunsent
      cases hunsent
  cases act with
  | step => cases hact
  | sent =>
    cases hact
    simp only [Operation.advance] at h
    split at h
    · rename_i hready
      cases h
      exact Or.inr ⟨rfl, hready.2, OperationPermits.Sent.noConfusion⟩
    · cases h
  | answered =>
    cases hact
    simp only [Operation.advance] at h
    split at h
    · cases h
      exact hkept rfl (Or.inr rfl)
    · cases h
  | received reply =>
    cases reply <;> cases hact <;> simp only [Operation.advance] at h <;> split at h <;>
      cases h <;> exact hkept rfl (Or.inl rfl)
  | timedOut | dropped =>
    cases hact
    simp only [Operation.advance] at h
    split at h
    · cases h
    · cases h
      exact hkept rfl (Or.inl rfl)
  | granted | saturated | closed | connected | unconnected | failed =>
    cases hact
    simp only [Operation.advance] at h
    split at h
    · cases h
      exact hkept rfl (Or.inl rfl)
    · cases h

namespace AppState

variable (state : AppState) (crates : Crates)

theorem VisitMoves.mostSent {desk desk' : Desk} {visit visit' : Visit} {act : VisitAct}
    (h : VisitMoves state desk visit act desk' visit') :
    visit.mostSent + act.isSent.toNat ≤ visit'.mostSent := by
  cases h with
  | operates commands op op' act opAct hstage hact hadvance hpermits hunfinished =>
    simp only [Visit.mostSent, hstage, Visit.goTo]
    rcases advance_sent op op' act opAct hact hadvance with
      ⟨hother, hunsent⟩ | ⟨hsent, hbefore, hafter⟩
    · rw [hother]
      by_cases hop' : op'.sent = .unsent
      · rw [if_pos hop', if_pos (hunsent hop')]
        exact Nat.le_refl 0
      · rw [if_neg hop']
        split
        · exact Nat.zero_le 1
        · exact Nat.le_refl 1
    · rw [hsent, if_pos hbefore, if_neg hafter]
      exact Nat.le_refl 1
  | finishes commands op op' act opAct outcome hstage hact hadvance hpermits hfinished =>
    simp only [Visit.mostSent, hstage, Visit.goTo]
    rcases advance_sent op op' act opAct hact hadvance with ⟨hother, _⟩ | ⟨hsent, hbefore, _⟩
    · rw [hother]
      split
      · exact Nat.zero_le 1
      · exact Nat.le_refl 1
    · rw [hsent, if_pos hbefore]
      exact Nat.le_refl 1
  | observes op outcome ended hstage =>
    rw [visit.mostSent_ending ended op.kind, Visit.mostSent, hstage]
    exact Nat.le_refl 1
  | counts op outcome ended hstage => simp [Visit.mostSent, hstage, VisitAct.isSent]
  | falls op outcome ended hstage => simp [Visit.mostSent, hstage, VisitAct.isSent, Visit.goTo]
  | authenticates attempt hall hstage => simp [Visit.mostSent, hstage, VisitAct.isSent]
  | panics panic hstage => simp [Visit.mostSent, hstage, VisitAct.isSent]
  | refuses error hstage => simp [Visit.mostSent, hstage, VisitAct.isSent]
  | passes route hstage => simp [Visit.mostSent, hstage, VisitAct.isSent]
  | rejects route hstage => simp [Visit.mostSent, hstage, VisitAct.isSent]
  | disallows route message hstage => simp [Visit.mostSent, hstage, VisitAct.isSent]
  | begins route commands hstage => simp [Visit.mostSent, hstage, VisitAct.isSent]
  | denies reason error hstage => simp [Visit.mostSent, hstage, VisitAct.isSent]
  | replies value response hstage =>
    simp [Visit.mostSent, hstage, VisitAct.isSent, Visit.goTo]
  | overflows value error hstage =>
    simp [Visit.mostSent, hstage, VisitAct.isSent, Visit.goTo]

/-- Whatever the interleaving, a request is handed over at most once. -/
theorem handed_once (clock : Instant) (events : List (Event Visitor VisitAct Instant))
    (s : Threads Desk Visit)
    (h : run (state.visitProgram crates).step (state.openDesk clock) events = some s) (i : ℕ)
    (visit : Visit) (hvisit : s.threads[i]? = some visit) :
    (ownActs i events).countP VisitAct.isSent ≤ 1 := by
  have hmost : (ownActs i events).countP VisitAct.isSent ≤ visit.mostSent := by
    apply Program.own_history
      (fun acts visit => acts.countP VisitAct.isSent ≤ visit.mostSent) _ _ events
      (state.openDesk clock).shared s h i visit hvisit
    · intro visitor
      exact Nat.le_refl 0
    · intro acts desk visit act desk' visit' hacts hmove
      have hmoved := (moveVisit_moves state _ _ _ _ _ hmove).mostSent state
      rw [List.countP_append, Program.countP_one]
      omega
  refine le_trans hmost ?_
  unfold Visit.mostSent
  split
  · exact Nat.zero_le 1
  · exact Nat.zero_le 1
  · split
    · exact Nat.zero_le 1
    · exact Nat.le_refl 1
  · exact Nat.le_refl 1

/-- In every interleaving of requests at the routes of a bridge that started
from an environment, whatever is handed to a target is the whole checked body of
a request that came and presented an enabled token of that target, every command
of it is allowed the token by the environment and not blocked, within the limits,
and no request is handed over twice. -/
theorem visits_confined (env : Env) (openClient : String → Except String Unit) (bridge : Bridge)
    (henv : Bridge.fromEnv crates env = .ok bridge) (hnew : new openClient bridge = .ok state)
    (clock : Instant) (events : List (Event Visitor VisitAct Instant)) (s : Threads Desk Visit)
    (h : run (state.visitProgram crates).step (state.openDesk clock) events = some s) :
    (∀ handover ∈ (state.visitProgram crates).journal handovers (state.openDesk clock) events,
      ∃ visitor token target listed, .entered visitor ∈ events ∧
        presentedToken visitor.headers = some token ∧
        bridge.targets[handover.target]? = some target ∧ listed ∈ target.tokens ∧
        listed.enabled = true ∧ listed.hash = state.tokenDigest crates token ∧
        handover.packet.kind = visitor.posted.kind ∧
        visitor.posted.check bridge.security listed.tokenType = .ok handover.packet.commands ∧
        handover.packet.commands.length ≤ max 1 bridge.security.maxPipelineCommands.val ∧
        ∀ command ∈ handover.packet.commands,
          Accepted env bridge.security listed.tokenType command) ∧
    ∀ (i : ℕ) (visit : Visit), s.threads[i]? = some visit →
      (ownActs i events).countP VisitAct.isSent ≤ 1 := by
  refine ⟨?_, handed_once state crates clock events s h⟩
  intro handover hhanded
  obtain ⟨visitor, hcame, hkind, route, hgranted, htarget, hcheck⟩ :=
    journal_carried state crates clock events s h handover hhanded
  obtain ⟨token, htoken, hlook⟩ := granted_token state crates visitor route hgranted
  obtain ⟨_, _, hrouted⟩ := new_routed openClient bridge state hnew
  obtain ⟨target, listed, hlisted, hmem, henabled, hhash, htype⟩ :=
    (mem_routePairs bridge.targets _ route).mp ((hrouted.2 _ route).mp hlook)
  have hsecurity : state.security = bridge.security := by
    simp only [new, bind_eq_ok, pure_eq_ok] at hnew
    obtain ⟨⟨targets, routes⟩, _, _, _, rfl⟩ := hnew
    rfl
  rw [hsecurity, ← htype] at hcheck
  obtain ⟨hcount, haccepted⟩ :=
    accepted_of_check crates env bridge henv listed.tokenType visitor.posted _ hcheck
  exact ⟨visitor, token, target, listed, hcame, htoken, htarget ▸ hlisted, hmem, henabled, hhash,
    hkind, hcheck, hcount, haccepted⟩

set_option maxRecDepth 4000 in
/-- The packet of a `get` reaches the target whose token the request presented. -/
theorem visits_confined_sent : ∃ bridge state target listed,
    Bridge.fromEnv abcCrates getOnly = .ok bridge ∧ new (fun _ => .ok ()) bridge = .ok state ∧
      (state.visitProgram abcCrates).journal handovers (state.openDesk (.ofSecs 0)) oneSent =
        [⟨0, ⟨.command, [⟨"GET", [asBytes "key"]⟩]⟩⟩] ∧
      bridge.targets[0]? = some target ∧ listed ∈ target.tokens ∧ listed.enabled = true ∧
      Accepted getOnly bridge.security listed.tokenType ⟨"GET", [asBytes "key"]⟩ := by
  obtain ⟨bridge, state, s, hbridge, hnew, hrun, hjournal⟩ : ∃ bridge state s,
      Bridge.fromEnv abcCrates getOnly = .ok bridge ∧ new (fun _ => .ok ()) bridge = .ok state ∧
      run (state.visitProgram abcCrates).step (state.openDesk (.ofSecs 0)) oneSent = some s ∧
      (state.visitProgram abcCrates).journal handovers (state.openDesk (.ofSecs 0)) oneSent =
        [⟨0, ⟨.command, [⟨"GET", [asBytes "key"]⟩]⟩⟩] := ⟨_, _, _, rfl, rfl, rfl, rfl⟩
  obtain ⟨hhanded, _⟩ := visits_confined state abcCrates getOnly (fun _ => .ok ()) bridge hbridge
    hnew (.ofSecs 0) oneSent s hrun
  obtain ⟨visitor, token, target, listed, _, _, htarget, hlisted, henabled, _, _, _, _, haccepted⟩ :=
    hhanded ⟨0, ⟨.command, [⟨"GET", [asBytes "key"]⟩]⟩⟩ (hjournal ▸ List.mem_cons_self)
  exact ⟨bridge, state, target, listed, hbridge, hnew, hjournal, htarget, hlisted, henabled,
    haccepted _ List.mem_cons_self⟩

end AppState

end RedisBridge.App
