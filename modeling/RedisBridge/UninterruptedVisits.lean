import RedisBridge.CommandVisits
import RedisBridge.OperationAccounting

/-!
A request at a command route that nothing interrupts. Its steps, taken one after
another, end in the response that the route's handler yields at once, with the
same counters, the same packet handed over and every permit given back.
-/
namespace RedisBridge.App

open BridgeConfig ClientAddress Instants IpAddress Lockout Responses RustText Security
open SharedThreads Targets TokenType TransitionRuns
open OperationPermits (Operation Operations Outcome)

variable {β γ ρ raw : Type}

/-- What a body posted at a route is, for a route that runs its operation on a
schedule. -/
structure CommandRoute.Posts (spec : CommandRoute β γ ρ) (post : Option β → Posted)
    (schedule : Schedule raw) (convert : raw → ρ) : Prop where
  route : spec.route = spec.kind.name
  kind : ∀ body, (post body).kind = spec.kind
  deniedKind : ∀ body, (post body).deniedKind = spec.deniedKind
  absent : ∀ security tokenType, (post none).check security tokenType = .error .invalidJson
  present : ∀ security tokenType body, (post (some body)).check security tokenType =
    match spec.parse security body tokenType with
    | .error message => .error (.policy message)
    | .ok checked => .ok (spec.commands checked)
  execute : ∀ target checked, spec.execute target checked =
    executeOperation target ⟨spec.kind, spec.commands checked⟩ schedule convert

/-- Where a request goes on when its operation has ended. -/
def CommandRoute.closing (spec : CommandRoute β γ ρ) (base64Encoding : Bool) :
    Wait (Except ApiError ρ) → VisitStage
  | .dropped => .answered none
  | .timedOut => .answered (some (ApiError.timeout (timeoutMessage spec.kind)).intoResponse)
  | .ready (.error error) => .answered (some error.intoResponse)
  | .ready (.ok value) => .encoding (spec.encode value base64Encoding)

namespace AppState

variable (state : AppState) (crates : Crates)

/-- The request can leave alone, and leaves these permits, hand-overs and cells. -/
def Ends (desk : Desk) (log : List Handover) (visit : Visit) (available : ℕ → ℕ)
    (log' : List Handover) (outcome : Except Panic (Option Response)) (cells : Cells) : Prop :=
  ∃ clock visit', ((state.visitProgram crates).logged handovers).Alone (desk, log) visit
      (⟨⟨cells, clock⟩, available⟩, log') visit' ∧
    visit'.left = some outcome

variable {state crates} {desk : Desk} {log : List Handover} {visit : Visit}

theorem Ends.step {mid : Desk} {between : Visit} {act : VisitAct} {available : ℕ → ℕ}
    {log' : List Handover} {outcome : Except Panic (Option Response)} {cells : Cells}
    (hmove : state.moveVisit desk visit act = some (mid, between))
    (h : Ends state crates mid (log ++ handovers desk visit act) between available log' outcome
      cells) : Ends state crates desk log visit available log' outcome cells := by
  obtain ⟨clock, visit', halone, hleft⟩ := h
  refine ⟨clock, visit', .move act ?_ halone, hleft⟩
  simp only [Program.logged, visitProgram, hmove]

/-- A step that hands nothing over. -/
theorem Ends.quiet {mid : Desk} {between : Visit} {act : VisitAct} {available : ℕ → ℕ}
    {log' : List Handover} {outcome : Except Panic (Option Response)} {cells : Cells}
    (hmove : state.moveVisit desk visit act = some (mid, between)) (hquiet : act ≠ .sent)
    (h : Ends state crates mid log between available log' outcome cells) :
    Ends state crates desk log visit available log' outcome cells := by
  have hnone : handovers desk visit act = [] := by
    unfold handovers
    split
    · exact absurd rfl hquiet
    · rfl
  refine Ends.step hmove ?_
  rwa [hnone, List.append_nil]

theorem ends_answered (response : Option Response) (hstage : visit.stage = .answered response) :
    Ends state crates desk log visit desk.available log (.ok response) desk.hall.cells := by
  refine ⟨desk.hall.clock, visit, .done, ?_⟩
  rw [Visit.left, hstage]

theorem ends_denying (reason : String) (error : ApiError)
    (hstage : visit.stage = .denying reason error) :
    Ends state crates desk log visit desk.available log (.ok (some error.intoResponse))
      (denyRequest desk.hall.cells visit.label reason) := by
  have hmove : state.moveVisit desk visit .step = some (moveDenying desk visit reason error) := by
    rw [moveVisit, hstage]
  exact Ends.quiet hmove VisitAct.noConfusion (ends_answered _ rfl)

theorem ends_encoding (value : Serialization) (hstage : visit.stage = .encoding value) :
    Ends state crates desk log visit desk.available log
      (.ok (some (responseOrDenied desk.hall.cells visit.label
        (serializedResponse .ok value state.maxResponseBytes)).1))
      (responseOrDenied desk.hall.cells visit.label
        (serializedResponse .ok value state.maxResponseBytes)).2 := by
  have hmove : state.moveVisit desk visit .step = some (desk, state.moveEncoding visit value) := by
    rw [moveVisit, hstage]
  refine Ends.quiet hmove VisitAct.noConfusion ?_
  unfold moveEncoding
  cases serializedResponse .ok value state.maxResponseBytes with
  | ok response => exact ends_answered _ rfl
  | error error => exact ends_denying _ _ rfl

/-! The operation. -/

/-- An act that leaves the operation going. -/
theorem moveVisit_going (commands : List RedisCommand) (op op' : Operation) (act : VisitAct)
    (opAct : OperationPermits.Act) (hstage : visit.stage = .operating commands op)
    (hact : act.operation = some opAct) (hadvance : op.advance opAct = some op')
    (hpermits : desk.Permits op op') (hgoing : op'.isFinished = false) :
    state.moveVisit desk visit act = some
      ({ desk with available := Operations.movePermits desk.available op op' },
        visit.goTo (.operating commands op')) := by
  simp only [moveVisit, hstage, moveOperating, hact, Option.bind_some, hadvance, if_pos hpermits]
  split
  · rename_i outcome hphase
    exact absurd hphase (op'.phase_ne_finished hgoing outcome)
  · rfl

/-- The three steps that count an operation which has ended. -/
theorem Ends.closed {available : ℕ → ℕ} {log' : List Handover}
    {outcome' : Except Panic (Option Response)} {cells : Cells} (op : Operation)
    (outcome : Outcome) (act : VisitAct)
    (hstage : visit.stage = .closing op outcome .counting act)
    (h : Ends state crates (desk.setMetrics (desk.metrics.endOperation (state.targetId op.target)
        op.kind.name outcome.name)) log
      { visit with
        tally := { visit.tally with ended := some (op.target, outcome) }
        stage := act.ending op.kind } available log' outcome' cells) :
    Ends state crates desk log visit available log' outcome' cells := by
  have hcounts : state.moveVisit desk visit .step =
      some (state.moveClosing desk visit op outcome .counting act) := by
    rw [moveVisit, hstage]
  let counted := state.moveClosing desk visit op outcome .counting act
  have hfalls : state.moveVisit counted.1 counted.2 .step =
      some (state.moveClosing counted.1 counted.2 op outcome .falling act) := rfl
  let fallen := state.moveClosing counted.1 counted.2 op outcome .falling act
  have hobserves : state.moveVisit fallen.1 fallen.2 .step =
      some (state.moveClosing fallen.1 fallen.2 op outcome .observing act) := rfl
  rw [Metrics.endOperation_eq] at h
  exact Ends.quiet hcounts VisitAct.noConfusion (Ends.quiet hfalls VisitAct.noConfusion
    (Ends.quiet hobserves VisitAct.noConfusion h))

/-- The request leaves with what becomes of its operation, once that is counted
under its end. -/
def EndsOperation (state : AppState) (crates : Crates) (spec : CommandRoute β γ ρ)
    (base64Encoding : Bool) (desk : Desk) (log : List Handover) (visit : Visit) (target : ℕ)
    (available : ℕ → ℕ) (log' : List Handover) (execution : Execution ρ) : Prop :=
  let counted : Cells := { desk.hall.cells with
    metrics := desk.metrics.endOperation (state.targetId target) spec.kind.name
      execution.ended.outcome }
  Ends state crates desk log visit available log'
    (.ok (spec.finish state counted base64Encoding execution).1.response)
    (spec.finish state counted base64Encoding execution).2

/-- An act that ends the operation, for what the route makes of its end. -/
theorem ends_closing (spec : CommandRoute β γ ρ) (base64Encoding : Bool)
    (commands : List RedisCommand) (op op' : Operation) (act : VisitAct)
    (opAct : OperationPermits.Act) (outcome : Outcome) (execution : Execution ρ)
    (hroute : spec.route = visit.label) (hkind : op.kind = spec.kind)
    (hstage : visit.stage = .operating commands op) (hact : act.operation = some opAct)
    (hadvance : op.advance opAct = some op') (hphase : op'.phase = .finished outcome)
    (hquiet : act ≠ .sent) (hending : act.ending spec.kind = spec.closing base64Encoding
      execution.ended)
    (houtcome : execution.ended.outcome = outcome.name) :
    EndsOperation state crates spec base64Encoding desk log visit op.target
      (Operations.movePermits desk.available op op') log execution := by
  have hpermits : desk.Permits op op' := by
    intro hholds
    simp [Operation.holdsPermit, hphase] at hholds
  let closed : Visit :=
    { visit with
      tally := { visit.tally with ended := some (op'.target, outcome) }
      stage := act.ending op'.kind }
  obtain ⟨htarget', hkind', _⟩ := op.advance_cases op' opAct hadvance
  have hmove : state.moveVisit desk visit act = some
      ({ desk with available := Operations.movePermits desk.available op op' },
        visit.goTo (.closing op' outcome .counting act)) := by
    simp only [moveVisit, hstage, moveOperating, hact, Option.bind_some, hadvance,
      if_pos hpermits, hphase]
  refine Ends.quiet hmove hquiet (Ends.closed op' outcome act rfl ?_)
  change Ends state crates _ log closed _ log _ _
  have hclosed : closed.stage = spec.closing base64Encoding execution.ended := by
    rw [← hending, ← hkind, ← hkind']
  have hlabel : closed.label = spec.route := hroute.symm
  rw [htarget', hkind', hkind, ← houtcome]
  unfold CommandRoute.finish
  cases hended : execution.ended with
  | dropped =>
    rw [hended] at hclosed
    exact ends_answered _ hclosed
  | timedOut =>
    rw [hended] at hclosed
    exact ends_answered _ hclosed
  | ready result =>
    rw [hended] at hclosed
    cases result with
    | error error => exact ends_answered _ hclosed
    | ok value =>
      rw [← hlabel]
      exact ends_encoding _ hclosed

/-- The permits once a target has one back. -/
def freed (available : ℕ → ℕ) (target : ℕ) : ℕ → ℕ := fun other =>
  if other = target then available other + 1 else available other

theorem movePermits_freed (available : ℕ → ℕ) (op op' : Operation)
    (hheld : op.holdsPermit = true) (hfree : op'.holdsPermit = false) :
    Operations.movePermits available op op' = freed available op.target := by
  funext target
  simp only [Operations.movePermits, freed, hheld, hfree, Bool.toNat_true, Bool.toNat_false,
    Nat.sub_zero]

/-- A permit that a grant took and the end puts back. -/
theorem freed_movePermits (available : ℕ → ℕ) (op op' : Operation)
    (hleft : 0 < available op.target) (hfree : op.holdsPermit = false)
    (hheld : op'.holdsPermit = true) :
    freed (Operations.movePermits available op op') op.target = available := by
  funext target
  simp only [Operations.movePermits, freed, hheld, hfree, Bool.toNat_true, Bool.toNat_false]
  split
  · rename_i heq
    subst heq
    omega
  · rfl

theorem movePermits_same (available : ℕ → ℕ) (op op' : Operation)
    (hsame : op'.holdsPermit = op.holdsPermit) :
    Operations.movePermits available op op' = available := by
  funext target
  unfold Operations.movePermits
  split
  · rw [hsame, Nat.add_sub_cancel]
  · rfl

/-- An act after which the operation goes on is followed by what ends it. -/
theorem EndsOperation.going {spec : CommandRoute β γ ρ} {base64Encoding : Bool}
    {commands : List RedisCommand} {target : ℕ} {available : ℕ → ℕ} {log' : List Handover}
    {execution : Execution ρ} (op op' : Operation) (act : VisitAct)
    (opAct : OperationPermits.Act) (hstage : visit.stage = .operating commands op)
    (hact : act.operation = some opAct) (hadvance : op.advance opAct = some op')
    (hpermits : desk.Permits op op') (hgoing : op'.isFinished = false) (hquiet : act ≠ .sent)
    (h : EndsOperation state crates spec base64Encoding
      { desk with available := Operations.movePermits desk.available op op' } log
      (visit.goTo (.operating commands op')) target available log' execution) :
    EndsOperation state crates spec base64Encoding desk log visit target available log'
      execution :=
  Ends.quiet (moveVisit_going commands op op' act opAct hstage hact hadvance hpermits hgoing)
    hquiet h

variable (state crates desk log visit) (spec : CommandRoute β γ ρ) (base64Encoding : Bool)
  (commands : List RedisCommand) (target : ℕ)

/-- An act that ends an operation under a permit gives the permit back. -/
theorem ends_freeing (op : Operation) (act : VisitAct) (opAct : OperationPermits.Act)
    (outcome : Outcome) (execution : Execution ρ) (hroute : spec.route = visit.label)
    (hstage : visit.stage = .operating commands op) (hkind : op.kind = spec.kind)
    (hheld : op.holdsPermit = true) (hact : act.operation = some opAct)
    (hadvance : op.advance opAct = some (op.finish outcome)) (hquiet : act ≠ .sent)
    (hending : act.ending spec.kind = spec.closing base64Encoding execution.ended)
    (houtcome : execution.ended.outcome = outcome.name) :
    EndsOperation state crates spec base64Encoding desk log visit op.target
      (freed desk.available op.target) log execution := by
  have hfreed := movePermits_freed desk.available op (op.finish outcome) hheld rfl
  rw [← hfreed]
  exact ends_closing spec base64Encoding commands op (op.finish outcome) act opAct outcome
    execution hroute hkind hstage hact hadvance rfl hquiet hending houtcome

/-- Once its packet is handed over, the operation ends as the reply does. -/
theorem ends_awaiting (hroute : spec.route = visit.label)
    (hstage : visit.stage = .operating commands ⟨target, spec.kind, .running, .pending⟩)
    (reply : Wait (Except RedisError raw)) (convert : raw → ρ) :
    EndsOperation state crates spec base64Encoding desk log visit target
      (freed desk.available target) log
      (executeOperation target ⟨spec.kind, commands⟩ ⟨.ready .granted, .ready true, reply⟩
        convert) := by
  let op : Operation := ⟨target, spec.kind, .running, .pending⟩
  let answered : Operation := { op with sent := .answered }
  have hsame := movePermits_same desk.available op answered rfl
  cases reply with
  | timedOut =>
    exact ends_freeing state crates _ log _ spec base64Encoding commands op .timedOut .timedOut
      .timeout _ hroute hstage rfl rfl rfl rfl VisitAct.noConfusion rfl rfl
  | dropped =>
    exact ends_freeing state crates _ log _ spec base64Encoding commands op .dropped .dropped
      .cancelled _ hroute hstage rfl rfl rfl rfl VisitAct.noConfusion rfl rfl
  | ready result =>
    refine EndsOperation.going op answered .answered .answered hstage rfl rfl
      (fun _ => Or.inl rfl) rfl VisitAct.noConfusion ?_
    rw [hsame]
    cases result with
    | error error =>
      exact ends_freeing state crates _ log _ spec base64Encoding commands answered
        (.received (.error error)) (.received false) .error _ hroute rfl rfl rfl rfl rfl
        VisitAct.noConfusion rfl rfl
    | ok value =>
      exact ends_freeing state crates _ log _ spec base64Encoding commands answered
        (.received (.ok (spec.encode (convert value) base64Encoding))) (.received true) .ok _
        hroute rfl rfl rfl rfl rfl VisitAct.noConfusion rfl rfl

/-- With its permit, the operation waits for a connection and hands its packet over. -/
theorem ends_connecting (hroute : spec.route = visit.label)
    (hstage : visit.stage = .operating commands ⟨target, spec.kind, .connecting, .unsent⟩)
    (connection : Wait Bool) (reply : Wait (Except RedisError raw)) (convert : raw → ρ)
    (execution : Execution ρ)
    (hexecution : execution = executeOperation target ⟨spec.kind, commands⟩
      ⟨.ready .granted, connection, reply⟩ convert) :
    EndsOperation state crates spec base64Encoding desk log visit target
      (freed desk.available target) (log ++ execution.handed) execution := by
  let op : Operation := ⟨target, spec.kind, .connecting, .unsent⟩
  let running : Operation := { op with phase := .running }
  let pending : Operation := { running with sent := .pending }
  subst hexecution
  cases connection with
  | timedOut =>
    rw [executeOperation, List.append_nil]
    exact ends_freeing state crates _ log _ spec base64Encoding commands op .timedOut .timedOut
      .timeout _ hroute hstage rfl rfl rfl rfl VisitAct.noConfusion rfl rfl
  | dropped =>
    rw [executeOperation, List.append_nil]
    exact ends_freeing state crates _ log _ spec base64Encoding commands op .dropped .dropped
      .cancelled _ hroute hstage rfl rfl rfl rfl VisitAct.noConfusion rfl rfl
  | ready obtained =>
    cases obtained with
    | false =>
      rw [executeOperation, List.append_nil]
      exact ends_freeing state crates _ log _ spec base64Encoding commands op .unconnected
        .unconnected .error _ hroute hstage rfl rfl rfl rfl VisitAct.noConfusion rfl rfl
    | true =>
      refine EndsOperation.going op running .connected .connected hstage rfl rfl
        (fun _ => Or.inl rfl) rfl VisitAct.noConfusion ?_
      rw [movePermits_same desk.available op running rfl]
      have hsent : state.moveVisit desk (visit.goTo (.operating commands running)) .sent = _ :=
        moveVisit_going commands running pending .sent .sent rfl rfl rfl (fun _ => Or.inl rfl) rfl
      rw [movePermits_same desk.available running pending rfl] at hsent
      have hhanded : (executeOperation target ⟨spec.kind, commands⟩
          ⟨.ready .granted, .ready true, reply⟩ convert).handed =
            [⟨target, ⟨spec.kind, commands⟩⟩] := by
        cases reply with
        | ready result => cases result <;> rfl
        | _ => rfl
      rw [hhanded]
      have hawaiting := ends_awaiting state crates desk
        (log ++ [⟨target, ⟨spec.kind, commands⟩⟩]) (visit.goTo (.operating commands pending)) spec
        base64Encoding commands target hroute rfl reply convert
      exact Ends.step hsent hawaiting

/-- An operation that runs alone ends as its schedule says. -/
theorem ends_operating (hroute : spec.route = visit.label)
    (hstage : visit.stage = .operating commands ⟨target, spec.kind, .acquiring, .unsent⟩)
    (schedule : Schedule raw) (convert : raw → ρ)
    (hleft : schedule.permit matches .ready .granted → 0 < desk.available target)
    (execution : Execution ρ)
    (hexecution : execution = executeOperation target ⟨spec.kind, commands⟩ schedule convert) :
    EndsOperation state crates spec base64Encoding desk log visit target desk.available
      (log ++ execution.handed) execution := by
  obtain ⟨permit, connection, reply⟩ := schedule
  let op : Operation := ⟨target, spec.kind, .acquiring, .unsent⟩
  have hrefused (act : VisitAct) (opAct : OperationPermits.Act) (outcome : Outcome)
      (hact : act.operation = some opAct)
      (hadvance : op.advance opAct = some (op.finish outcome)) (hquiet : act ≠ .sent)
      (hending : act.ending spec.kind = spec.closing base64Encoding execution.ended)
      (houtcome : execution.ended.outcome = outcome.name) (hhanded : execution.handed = []) :
      EndsOperation state crates spec base64Encoding desk log visit target desk.available
        (log ++ execution.handed) execution := by
    have hsame := movePermits_same desk.available op (op.finish outcome) rfl
    rw [hhanded, List.append_nil, ← hsame]
    exact ends_closing spec base64Encoding commands op (op.finish outcome) act opAct outcome
      execution hroute rfl hstage hact hadvance rfl hquiet hending houtcome
  subst hexecution
  cases permit with
  | timedOut =>
    exact hrefused .timedOut .timedOut .timeout rfl rfl VisitAct.noConfusion rfl rfl rfl
  | dropped =>
    exact hrefused .dropped .dropped .cancelled rfl rfl VisitAct.noConfusion rfl rfl rfl
  | ready permit =>
    cases permit with
    | saturated =>
      exact hrefused .saturated .saturated .error rfl rfl VisitAct.noConfusion rfl rfl rfl
    | closed => exact hrefused .closed .closed .error rfl rfl VisitAct.noConfusion rfl rfl rfl
    | granted =>
      have hpermit : 0 < desk.available target := hleft rfl
      let connecting : Operation := { op with phase := .connecting }
      refine EndsOperation.going op connecting .granted .granted hstage rfl rfl
        (fun _ => Or.inr hpermit) rfl VisitAct.noConfusion ?_
      have hconnecting := ends_connecting state crates
        { desk with available := Operations.movePermits desk.available op connecting } log
        (visit.goTo (.operating commands connecting)) spec base64Encoding commands target hroute
        rfl connection reply convert _ rfl
      dsimp only at hconnecting
      rwa [freed_movePermits desk.available op connecting hpermit rfl rfl] at hconnecting

/-! The whole request. -/

/-- The visitor that a request at a route is. -/
def CommandRoute.visitor (post : Option β → Posted) (request : Request β) : Visitor :=
  ⟨request.headers, request.peer, post request.body⟩

/-- What a handler has handed over when it leaves. -/
def handedBy : Except Panic Answer → List Handover
  | .ok answer => answer.handed
  | .error _ => []

/-- A granted request is served as the route serves it. -/
theorem ends_screening (post : Option β → Posted) (schedule : Schedule raw) (convert : raw → ρ)
    (hposts : spec.Posts post schedule convert) (request : Request β) (route : AuthRoute)
    (hvisitor : visit.visitor = CommandRoute.visitor post request)
    (hstage : visit.stage = .screening route)
    (hleft : schedule.permit matches .ready .granted → 0 < desk.available route.target) :
    Ends state crates desk log visit desk.available
      (log ++ (spec.serve state desk.hall.cells request route).1.handed)
      (.ok (spec.serve state desk.hall.cells request route).1.response)
      (spec.serve state desk.hall.cells request route).2 := by
  have hkind : visit.visitor.posted.kind = spec.kind := by
    rw [hvisitor]
    exact hposts.kind request.body
  have hlabel : spec.route = visit.label := by
    rw [Visit.label, hkind, hposts.route]
  unfold CommandRoute.serve
  cases hbody : request.body with
  | none =>
    have hcheck : visit.visitor.posted.check state.security route.tokenType =
        .error .invalidJson := by
      rw [hvisitor, CommandRoute.visitor, hbody]
      exact hposts.absent _ _
    have hmove : state.moveVisit desk visit .step = some (desk,
        visit.goTo (.denying "invalid_json" (.badRequest "Invalid JSON body"))) := by
      simp only [moveVisit, hstage, moveScreening, hcheck]
    rw [hlabel, List.append_nil]
    exact Ends.quiet hmove VisitAct.noConfusion (ends_denying _ _ rfl)
  | some body =>
    have hpresent := hposts.present state.security route.tokenType body
    have hposted : visit.visitor.posted = post (some body) := by
      rw [hvisitor, CommandRoute.visitor, hbody]
    rw [← hposted] at hpresent
    dsimp only
    cases hparse : spec.parse state.security body route.tokenType with
    | error message =>
      rw [hparse] at hpresent
      have hdenied : visit.visitor.posted.deniedKind = spec.deniedKind := by
        rw [hvisitor]
        exact hposts.deniedKind request.body
      have hmove : state.moveVisit desk visit .step =
          some (desk.setMetrics (desk.metrics.commandDenied (state.targetId route.target)
            spec.deniedKind),
            { visit with
              tally := { visit.tally with disallowed := some route.target }
              stage := .denying "policy" (.badRequest message) }) := by
        simp only [moveVisit, hstage, moveScreening, hpresent, hdenied]
      rw [hlabel, List.append_nil]
      exact Ends.quiet hmove VisitAct.noConfusion (ends_denying _ _ rfl)
    | ok checked =>
      rw [hparse] at hpresent
      let op : Operation := ⟨route.target, spec.kind, .acquiring, .unsent⟩
      have hmove : state.moveVisit desk visit .step =
          some (desk.setMetrics (desk.metrics.beginOperation (state.targetId route.target)
            spec.kind.name), visit.goTo (.operating (spec.commands checked) op)) := by
        simp only [moveVisit, hstage, moveScreening, hpresent, Visit.label, hkind, op]
      have hends := ends_operating state crates
        (desk.setMetrics (desk.metrics.beginOperation (state.targetId route.target)
          spec.kind.name)) log
        (visit.goTo (.operating (spec.commands checked) op)) spec (base64 request.headers)
        (spec.commands checked) route.target hlabel rfl schedule convert hleft
        (spec.execute route.target checked) (hposts.execute route.target checked)
      rw [CommandRoute.perform_handed]
      exact Ends.quiet hmove VisitAct.noConfusion hends

/-- A step of authentication is a step of the request. -/
theorem alone_authenticating (available : ℕ → ℕ) {hall hall' : Hall} {attempt attempt' : Attempt}
    (h : (state.authProgram crates).Alone hall attempt hall' attempt') :
    ((state.visitProgram crates).logged handovers).Alone (⟨hall, available⟩, log)
      (visit.trying attempt) (⟨hall', available⟩, log) (visit.trying attempt') := by
  refine Program.Alone.lift (fun hall => ((⟨hall, available⟩ : Desk), log))
    visit.trying ?_ ?_ h
  · intro hall attempt act hall' attempt' (hmove : state.moveAttempt hall attempt = _)
    have hleft : attempt.left = none := by
      cases hplace : attempt.place with
      | answered | panicked =>
        rw [moveAttempt, hplace] at hmove
        cases hmove
      | _ => rw [Attempt.left, hplace]
    refine ⟨.step, ?_⟩
    simp only [Program.logged, visitProgram, moveVisit, moveAuthenticating, Visit.trying, hleft,
      hmove, handovers, List.append_nil]
  · intro hall later hall' hpass
    refine ⟨later, ?_⟩
    simp only [Program.logged, visitProgram, passDeskTime]
    rw [show passTime hall later = some hall' from hpass]
    rfl

theorem Ends.after {hall : Hall} {attempt attempt' : Attempt} {available : ℕ → ℕ}
    {log' : List Handover} {outcome : Except Panic (Option Response)} {cells : Cells}
    (halone : (state.authProgram crates).Alone desk.hall attempt hall attempt')
    (h : Ends state crates { desk with hall := hall } log (visit.trying attempt') available log'
      outcome cells) :
    Ends state crates desk log (visit.trying attempt) available log' outcome cells := by
  obtain ⟨clock, visit', hrest, hleft⟩ := h
  exact ⟨clock, visit', (alone_authenticating state crates log visit _ halone).trans hrest, hleft⟩

/-- A request leaves as the handler of its route says, if its target has a permit
left whenever its schedule grants one. -/
theorem ends_visit (post : Option β → Posted) (schedule : Schedule raw) (convert : raw → ρ)
    (hposts : spec.Posts post schedule convert) (request : Request β)
    (hordered : [desk.hall.clock, request.clock.failure, request.clock.snapshot].IsChain (· ≤ ·))
    (hleft : ∀ token route, presentedToken request.headers = some token →
      state.tokenRoutes.lookup (state.tokenDigest crates token) = some route →
      0 < desk.available route.target) :
    Ends state crates desk log (state.visit crates (CommandRoute.visitor post request))
      desk.available
      (log ++ handedBy (spec.handle state crates desk.hall.cells request).1)
      ((spec.handle state crates desk.hall.cells request).1.map Answer.response)
      (spec.handle state crates desk.hall.cells request).2 := by
  let authRequest : AuthRequest :=
    ⟨.command, request.headers, request.peer, request.clock, request.clock.snapshot⟩
  have hchain : [desk.hall.clock, authRequest.clock.failure, authRequest.clock.snapshot,
      authRequest.scrape].IsChain (· ≤ ·) := by
    simp only [List.isChain_cons_cons, List.isChain_singleton, and_true] at hordered ⊢
    exact ⟨hordered.1, hordered.2, le_refl _⟩
  obtain ⟨clock, attempt, halone, hattempt⟩ :=
    attempt_leaves state crates desk.hall authRequest hchain
  have hauth : state.authenticate crates desk.hall.cells authRequest =
      (state.commandAuth crates desk.hall.cells request.headers
        (state.clientIp request.headers request.peer) request.clock).andThen
          fun result cells => (.ok (result.map some), cells) := rfl
  let arrived := (state.visit crates (CommandRoute.visitor post request)).trying attempt
  have hlabel (stage : VisitStage) : spec.route = (arrived.goTo stage).label :=
    hposts.route.trans (congrArg PacketKind.name (hposts.kind request.body)).symm
  refine Ends.after state crates desk log (state.visit crates (CommandRoute.visitor post request))
    halone ?_
  dsimp only [CommandRoute.handle]
  rw [hauth] at hattempt ⊢
  cases hstep : state.commandAuth crates desk.hall.cells request.headers
      (state.clientIp request.headers request.peer) request.clock with
  | mk outcome cells =>
    rw [hstep] at hattempt
    let mid : Desk := ⟨⟨cells, clock⟩, desk.available⟩
    cases outcome with
    | error panic =>
      have hmove : state.moveVisit mid arrived .step =
          some (mid, arrived.goTo (.panicked panic)) := by
        simp only [moveVisit, arrived, Visit.trying, moveAuthenticating, hattempt, Step.andThen]
      have hpanicked : Ends state crates mid log (arrived.goTo (.panicked panic)) mid.available
          log (.error panic) cells := ⟨clock, _, .done, rfl⟩
      simp only [Step.andThen, handedBy, List.append_nil]
      exact Ends.quiet hmove VisitAct.noConfusion hpanicked
    | ok result =>
      cases result with
      | error error =>
        have hmove : state.moveVisit mid arrived .step =
            some (mid, arrived.goTo (.denying "auth" error)) := by
          simp only [moveVisit, arrived, Visit.trying, moveAuthenticating, hattempt, Step.andThen,
            Except.map]
        simp only [Step.andThen, handedBy, List.append_nil, hlabel (.denying "auth" error)]
        exact Ends.quiet hmove VisitAct.noConfusion (ends_denying _ _ rfl)
      | ok route =>
        have hmove : state.moveVisit mid arrived .step =
            some (mid, arrived.goTo (.screening route)) := by
          simp only [moveVisit, arrived, Visit.trying, moveAuthenticating, hattempt, Step.andThen,
            Except.map]
        obtain ⟨token, htoken, hlook⟩ := bridgeAuth_eq_ok state crates _ _ _ _ _ route
          (routeAuth_eq_ok state crates _ _ _ _ _ _ _ route hstep).1
        exact Ends.quiet hmove VisitAct.noConfusion (ends_screening state crates mid log _ spec
          post schedule convert hposts request route rfl rfl
          (fun _ => hleft token route htoken hlook))

/-- A visitor that nothing interrupts comes to what a handler yields at once: its
response, the cells and the hand-overs, with the permits as they were. -/
def Uninterrupted (desk : Desk) (threads : List Visit) (visitor : Visitor) (work : Step Answer) :
    Prop :=
  ∃ events clock visit, run (state.visitProgram crates).step ⟨desk, threads⟩
      (.entered visitor :: events) =
        some ⟨⟨⟨work.2, clock⟩, desk.available⟩, threads ++ [visit]⟩ ∧
    visit.left = some (work.1.map Answer.response) ∧
    (state.visitProgram crates).journal handovers ⟨desk, threads⟩ (.entered visitor :: events) =
      handedBy work.1

theorem uninterrupted_of_ends (threads : List Visit) (visitor : Visitor) (work : Step Answer)
    (h : Ends state crates desk [] (state.visit crates visitor) desk.available (handedBy work.1)
      (work.1.map Answer.response) work.2) :
    Uninterrupted state crates desk threads visitor work := by
  obtain ⟨clock, visit, halone, hleft⟩ := h
  obtain ⟨events, hrun⟩ := halone.run threads
  have hentered : run ((state.visitProgram crates).logged handovers).step
      ⟨(desk, []), threads⟩ (.entered visitor :: events) =
        some ⟨(⟨⟨work.2, clock⟩, desk.available⟩, handedBy work.1), threads ++ [visit]⟩ :=
    (run_cons_eq_some _ _ _ _ _).mpr ⟨_, rfl, hrun⟩
  obtain ⟨hplain, hjournal⟩ := Program.of_run_logged handovers (.entered visitor :: events)
    ⟨desk, threads⟩ [] _ hentered
  exact ⟨events, clock, visit, hplain, hleft, hjournal.symm⟩

variable {Value : Type}

theorem posts_command (backend : Backend Value Value) :
    (commandRoute backend).Posts .command backend.schedule id where
  route := rfl
  kind := fun _ => rfl
  deniedKind := fun _ => rfl
  absent := fun _ _ => rfl
  present := fun security tokenType body => by
    simp only [Posted.check, commandRoute]
    cases security.parseCommand body tokenType <;> rfl
  execute := fun _ _ => rfl

theorem posts_pipeline
    (backend : Backend (List (Except RedisError Value)) (List (RedisResponse Value))) :
    (pipelineRoute backend).Posts .pipeline backend.schedule (List.map pipelineItem) where
  route := rfl
  kind := fun _ => rfl
  deniedKind := fun _ => rfl
  absent := fun _ _ => rfl
  present := fun security tokenType body => by
    simp only [Posted.check, Posted.checkList, pipelineRoute]
    cases security.parseCommandList body tokenType <;> rfl
  execute := fun _ _ => rfl

theorem posts_multiExec (backend : Backend (List Value) (List Value)) :
    (multiExecRoute backend).Posts .multiExec backend.schedule id where
  route := rfl
  kind := fun _ => rfl
  deniedKind := fun _ => rfl
  absent := fun _ _ => rfl
  present := fun security tokenType body => by
    simp only [Posted.check, Posted.checkList, multiExecRoute]
    cases security.parseCommandList body tokenType <;> rfl
  execute := fun _ _ => rfl

/-- At each command route, a request that nothing interrupts and whose target has
a permit left comes, step by step, to what the handler yields at once. -/
theorem routes_uninterrupted (threads : List Visit) (peer : IpAddr) (headers : HeaderMap)
    (clock : Readings)
    (hordered : [desk.hall.clock, clock.failure, clock.snapshot].IsChain (· ≤ ·))
    (hleft : ∀ token route, presentedToken headers = some token →
      state.tokenRoutes.lookup (state.tokenDigest crates token) = some route →
      0 < desk.available route.target) :
    (∀ (backend : Backend Value Value) body,
      Uninterrupted state crates desk threads ⟨headers, peer, .command body⟩
        (command state crates backend desk.hall.cells ⟨peer, headers, body, clock⟩)) ∧
    (∀ (backend : Backend (List (Except RedisError Value)) (List (RedisResponse Value))) body,
      Uninterrupted state crates desk threads ⟨headers, peer, .pipeline body⟩
        (pipeline state crates backend desk.hall.cells ⟨peer, headers, body, clock⟩)) ∧
    (∀ (backend : Backend (List Value) (List Value)) body,
      Uninterrupted state crates desk threads ⟨headers, peer, .multiExec body⟩
        (multiExec state crates backend desk.hall.cells ⟨peer, headers, body, clock⟩)) := by
  refine ⟨?_, ?_, ?_⟩
  · intro backend body
    exact uninterrupted_of_ends state crates desk threads _ _ (ends_visit state crates desk []
      (commandRoute backend) .command backend.schedule id (posts_command backend)
      ⟨peer, headers, body, clock⟩ hordered hleft)
  · intro backend body
    exact uninterrupted_of_ends state crates desk threads _ _ (ends_visit state crates desk []
      (pipelineRoute backend) .pipeline backend.schedule _ (posts_pipeline backend)
      ⟨peer, headers, body, clock⟩ hordered hleft)
  · intro backend body
    exact uninterrupted_of_ends state crates desk threads _ _ (ends_visit state crates desk []
      (multiExecRoute backend) .multiExec backend.schedule id (posts_multiExec backend)
      ⟨peer, headers, body, clock⟩ hordered hleft)

theorem routes_uninterrupted_abc : ∃ state,
    new (fun _ => .ok ()) twoTargets = .ok state ∧
      ∀ (backend : Backend Unit Unit) body,
        Uninterrupted state abcCrates (state.openDesk (.ofSecs 0)).shared []
          ⟨bearerAbc, .v4 1, .command body⟩
          (command state abcCrates backend freshCells
            ⟨.v4 1, bearerAbc, body, ⟨.ofSecs 0, .ofSecs 5⟩⟩) := by
  obtain ⟨state, hnew⟩ : ∃ state, new (fun _ => .ok ()) twoTargets = .ok state := ⟨_, rfl⟩
  obtain ⟨htargets, _, hrouted⟩ := new_routed (fun _ => .ok ()) twoTargets state hnew
  refine ⟨state, hnew, ?_⟩
  have hleft (token : String) (route : AuthRoute) (_ : presentedToken bearerAbc = some token)
      (hlook : state.tokenRoutes.lookup (state.tokenDigest abcCrates token) = some route) :
      0 < (state.openDesk (.ofSecs 0)).shared.available route.target := by
    obtain ⟨target, _, htarget, _⟩ :=
      (mem_routePairs twoTargets.targets _ route).mp ((hrouted.2 _ route).mp hlook)
    have hlimits : ∀ target ∈ twoTargets.targets, 0 < target.operationLimit.val := by decide
    simp only [openDesk, OperationPermits.limit, htargets, htarget]
    exact hlimits target (List.mem_of_getElem? htarget)
  have hordered : [Instant.ofSecs 0, .ofSecs 0, .ofSecs 5].IsChain (· ≤ ·) := by decide
  intro backend
  exact (routes_uninterrupted state abcCrates (state.openDesk (.ofSecs 0)).shared [] (.v4 1)
    bearerAbc ⟨.ofSecs 0, .ofSecs 5⟩ hordered hleft).1 backend

end AppState

end RedisBridge.App
