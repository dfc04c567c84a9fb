import RedisBridge.AuthGuarantees
import RedisBridge.CommandVisits
import RedisBridge.OperationAccounting

/-!
The accounts of the command routes, in every interleaving. At each moment every
counter of denials and of operations is the number of requests past the step
that moves it, and the permits that a target has left are those that no request
holds. Once all requests have left, each of them is in exactly one account: it
panicked, it was denied before its operation for one reason, or its operation
ended once.
-/
namespace RedisBridge.App

open BridgeConfig ClientAddress Instants IpAddress Lockout Responses RustText Security
open SharedThreads Targets TokenType TransitionRuns
open OperationPermits (Operation Operations Outcome)

/-- The counters that authentication leaves alone. -/
structure Served where
  requestDenied : String → String → ℕ
  commandDenied : String → String → ℕ
  operations : String → String → String → ℕ
  inflight : String → String → ℤ

def Metrics.served (metrics : Metrics) : Served :=
  ⟨metrics.requestDeniedTotal, metrics.commandDeniedTotal, metrics.redisOperationsTotal,
    metrics.redisOperationsInflight⟩

/-- What the command routes share: their counters, and the permits left. -/
structure Books where
  served : Served
  available : ℕ → ℕ

def Desk.books (desk : Desk) : Books := ⟨desk.metrics.served, desk.available⟩

theorem AppState.Moves.served {state : AppState} {hall hall' : Hall} {attempt attempt' : Attempt}
    (h : AppState.Moves state hall attempt hall' attempt') :
    hall'.cells.metrics.served = hall.cells.metrics.served := by
  cases h with
  | counts result hplace => cases result <;> rfl
  | _ => rfl

theorem AppState.Moves.verdict {state : AppState} {hall hall' : Hall} {attempt attempt' : Attempt}
    (h : AppState.Moves state hall attempt hall' attempt') :
    attempt'.verdict = attempt.verdict := by
  cases h <;> rfl

/-! What a request is counted under, by where it is. -/

def Tally.nothing : Tally := ⟨none, none, none⟩

/-- What a request has been counted under when it is denied for a reason. -/
def Tally.Excuses (tally : Tally) (reason : String) : Prop :=
  (reason ∈ ["auth", "invalid_json"] ∧ tally.disallowed = none ∧ tally.ended = none) ∨
  (reason = "policy" ∧ tally.disallowed.isSome = true ∧ tally.ended = none) ∨
  (reason ∈ ["response_too_large", "response_encode"] ∧ tally.disallowed = none ∧
    ∃ target, tally.ended = some (target, .ok))

/-- What a request whose operation ended is answered. -/
def Settles (outcome : Outcome) (response : Option Response) : Prop :=
  (outcome = .cancelled ∧ response = none) ∨
  ∃ answer, response = some answer ∧ outcome ≠ .cancelled ∧
    (answer.status = .ok ↔ outcome = .ok)

/-- Where a request goes on from an operation that ended. -/
def LeadsTo (outcome : Outcome) (stage : VisitStage) : Prop :=
  (outcome = .ok ∧ ∃ value, stage = .encoding value) ∨
  (outcome = .cancelled ∧ stage = .answered none) ∨
  (outcome ≠ .ok ∧ outcome ≠ .cancelled ∧ ∃ error : ApiError, error.status ≠ .ok ∧
    stage = .answered (some error.intoResponse))

namespace AppState

variable (state : AppState) (crates : Crates)

/-- The route that the request was granted. -/
def Granted (visit : Visit) (route : AuthRoute) : Prop :=
  state.verdict crates (Visitor.arrival visit.visitor) = .granted (.ok (some route))

/-- What holds of a request by where it is. -/
def VisitFit (visit : Visit) : Prop :=
  match visit.stage with
  | .authenticating =>
      visit.attempt.verdict = state.verdict crates (Visitor.arrival visit.visitor) ∧
        visit.tally = .nothing
  | .screening route => state.Granted crates visit route ∧ visit.tally = .nothing
  | .denying reason error =>
      error.status ≠ .ok ∧ visit.tally.denied = none ∧ visit.tally.Excuses reason
  | .operating commands op =>
      (∃ route, state.Granted crates visit route ∧ op.target = route.target ∧
        visit.visitor.posted.check state.security route.tokenType = .ok commands) ∧
      op.kind = visit.visitor.posted.kind ∧ op.isFinished = false ∧ visit.tally = .nothing
  | .closing op outcome closing act =>
      op.kind = visit.visitor.posted.kind ∧ op.phase = .finished outcome ∧
        visit.tally = ⟨none, if closing = .counting then none else some (op.target, outcome),
          none⟩ ∧ LeadsTo outcome (act.ending op.kind)
  | .encoding _ =>
      visit.tally.disallowed = none ∧ visit.tally.denied = none ∧
        ∃ target, visit.tally.ended = some (target, .ok)
  | .answered response =>
      (∃ reason, visit.tally.denied = some reason ∧ visit.tally.Excuses reason ∧
        ∃ answer, response = some answer ∧ answer.status ≠ .ok) ∨
      (visit.tally.denied = none ∧ visit.tally.disallowed = none ∧
        ∃ target outcome, visit.tally.ended = some (target, outcome) ∧ Settles outcome response)
  | .panicked _ => visit.tally = .nothing

/-- A request at a command route is refused with an error. -/
theorem refused_status (visitor : Visitor) (attempt : Attempt) (error : ApiError)
    (hverdict : attempt.verdict = state.verdict crates (Visitor.arrival visitor))
    (hleft : attempt.left = some (.ok (.error error))) : error.status ≠ .ok := by
  have hanswer : attempt.answer = .error error := by
    unfold Attempt.left at hleft
    split at hleft
    · exact Except.ok.inj (Option.some.inj hleft)
    · cases hleft
    · cases hleft
  unfold Attempt.answer at hanswer
  split at hanswer
  · cases hanswer
    decide
  · rename_i message _
    cases hanswer
    cases attempt.recorded.getD .tracked <;> exact StatusCode.noConfusion
  · rename_i result hgranted
    subst hanswer
    rw [granted_status state crates (Visitor.arrival visitor) error (hverdict.symm.trans hgranted)]
    decide

theorem answered_of_left (attempt : Attempt) (route : AuthRoute)
    (hleft : attempt.left = some (.ok (.ok (some route)))) :
    attempt.verdict = .granted (.ok (some route)) := by
  have hanswer : attempt.answer = .ok (some route) := by
    unfold Attempt.left at hleft
    split at hleft
    · exact Except.ok.inj (Option.some.inj hleft)
    · cases hleft
    · cases hleft
  unfold Attempt.answer at hanswer
  split at hanswer
  · cases hanswer
  · cases hanswer
  · rename_i result hgranted
    rw [hgranted, hanswer]

theorem redisApiError_status (error : RedisError) : (redisApiError error).status ≠ .ok := by
  unfold redisApiError
  split
  · exact StatusCode.noConfusion
  · exact StatusCode.noConfusion

theorem responseError_excused (error : ResponseError) : error.intoApiError.status ≠ .ok ∧
    error.metricReason ∈ ["response_too_large", "response_encode"] := by
  cases error with
  | tooLarge max => exact ⟨StatusCode.noConfusion, List.mem_cons_self⟩
  | encode => exact ⟨StatusCode.noConfusion, List.mem_cons_of_mem _ List.mem_cons_self⟩

theorem serializedResponse_status (value : Serialization) (max : Usize) (response : Response)
    (h : serializedResponse .ok value max = .ok response) : response.status = .ok := by
  unfold serializedResponse at h
  dsimp only at h
  split at h
  · cases h
    rfl
  · split at h
    · cases h
    · cases h

/-- Where a request goes on when its operation has ended, by the outcome. -/
theorem ending_cases (op op' : Operation) (act : VisitAct) (opAct : OperationPermits.Act)
    (outcome : Outcome) (kind : PacketKind) (hact : act.operation = some opAct)
    (hadvance : op.advance opAct = some op') (hrunning : op.isFinished = false)
    (hphase : op'.phase = .finished outcome) : LeadsTo outcome (act.ending kind) := by
  have hfails (error : ApiError) (herror : error.status ≠ .ok) (houtcome : outcome = .error)
      (hending : act.ending kind = .answered (some error.intoResponse)) :
      LeadsTo outcome (act.ending kind) := by
    subst houtcome
    exact Or.inr (Or.inr ⟨Outcome.noConfusion, Outcome.noConfusion, error, herror, hending⟩)
  cases act with
  | step => cases hact
  | granted | connected =>
    cases hact
    simp only [Operation.advance] at hadvance
    split at hadvance
    · cases hadvance
      cases hphase
    · cases hadvance
  | sent | answered =>
    cases hact
    simp only [Operation.advance] at hadvance
    split at hadvance
    · cases hadvance
      exact absurd hphase (op.phase_ne_finished hrunning outcome)
    · cases hadvance
  | saturated | closed | unconnected =>
    cases hact
    simp only [Operation.advance] at hadvance
    split at hadvance
    · cases hadvance
      cases hphase
      exact hfails _ StatusCode.noConfusion rfl rfl
    · cases hadvance
  | received reply =>
    cases reply with
    | error error =>
      cases hact
      simp only [Operation.advance] at hadvance
      split at hadvance
      · cases hadvance
        cases hphase
        exact hfails _ (redisApiError_status error) rfl rfl
      · cases hadvance
    | ok value =>
      cases hact
      simp only [Operation.advance] at hadvance
      split at hadvance
      · cases hadvance
        cases hphase
        exact Or.inl ⟨rfl, value, rfl⟩
      · cases hadvance
  | failed error =>
    cases hact
    simp only [Operation.advance] at hadvance
    split at hadvance
    · cases hadvance
      cases hphase
      exact hfails _ (redisApiError_status error) rfl rfl
    · cases hadvance
  | timedOut =>
    cases hact
    simp only [Operation.advance] at hadvance
    split at hadvance
    · cases hadvance
    · cases hadvance
      cases hphase
      exact Or.inr (Or.inr ⟨Outcome.noConfusion, Outcome.noConfusion, _,
        StatusCode.noConfusion, rfl⟩)
  | dropped =>
    cases hact
    simp only [Operation.advance] at hadvance
    split at hadvance
    · cases hadvance
    · cases hadvance
      cases hphase
      exact Or.inr (Or.inl ⟨rfl, rfl⟩)

theorem visit_fit (visitor : Visitor) : state.VisitFit crates (state.visit crates visitor) :=
  ⟨rfl, rfl⟩

/-- Every step leaves a request as it should be. -/
theorem VisitMoves.fit {desk desk' : Desk} {visit visit' : Visit} {act : VisitAct}
    (hfit : state.VisitFit crates visit) (h : VisitMoves state desk visit act desk' visit') :
    state.VisitFit crates visit' := by
  unfold VisitFit at hfit
  cases h with
  | authenticates attempt hall hstage hmove =>
    rw [hstage] at hfit
    unfold VisitFit
    dsimp only
    rw [hstage]
    exact ⟨(moveAttempt_moves state _ _ _ _ hmove).verdict.trans hfit.1, hfit.2⟩
  | panics panic hstage hleft =>
    rw [hstage] at hfit
    exact hfit.2
  | refuses error hstage hleft =>
    rw [hstage] at hfit
    obtain ⟨hverdict, htally⟩ := hfit
    refine ⟨refused_status state crates visit.visitor visit.attempt error hverdict hleft, ?_⟩
    rw [Visit.goTo, htally]
    exact ⟨rfl, Or.inl ⟨List.mem_cons_self, rfl, rfl⟩⟩
  | passes route hstage hleft =>
    rw [hstage] at hfit
    exact ⟨hfit.1.symm.trans (answered_of_left visit.attempt route hleft), hfit.2⟩
  | rejects route hstage hcheck =>
    rw [hstage] at hfit
    refine ⟨StatusCode.noConfusion, ?_⟩
    rw [Visit.goTo, hfit.2]
    exact ⟨rfl, Or.inl ⟨List.mem_cons_of_mem _ List.mem_cons_self, rfl, rfl⟩⟩
  | disallows route message hstage hcheck =>
    rw [hstage] at hfit
    refine ⟨StatusCode.noConfusion, ?_⟩
    rw [hfit.2]
    exact ⟨rfl, Or.inr (Or.inl ⟨rfl, rfl, rfl⟩)⟩
  | begins route commands hstage hcheck =>
    rw [hstage] at hfit
    exact ⟨⟨route, hfit.1, rfl, hcheck⟩, rfl, rfl, hfit.2⟩
  | denies reason error hstage =>
    rw [hstage] at hfit
    exact Or.inl ⟨reason, rfl, hfit.2.2, _, rfl, hfit.1⟩
  | operates commands op op' act opAct hstage hact hadvance hpermits hunfinished =>
    rw [hstage] at hfit
    obtain ⟨⟨route, hgranted, htarget, hcheck⟩, hkind, _, htally⟩ := hfit
    obtain ⟨htarget', hkind', _⟩ := op.advance_cases op' opAct hadvance
    exact ⟨⟨route, hgranted, htarget'.trans htarget, hcheck⟩, hkind'.trans hkind, hunfinished,
      htally⟩
  | finishes commands op op' act opAct outcome hstage hact hadvance hpermits hfinished =>
    rw [hstage] at hfit
    obtain ⟨_, hkind, hrunning, htally⟩ := hfit
    obtain ⟨_, hkind', _⟩ := op.advance_cases op' opAct hadvance
    exact ⟨hkind'.trans hkind, hfinished, htally,
      ending_cases op op' act opAct outcome op'.kind hact hadvance hrunning hfinished⟩
  | counts op outcome ended hstage =>
    rw [hstage] at hfit
    obtain ⟨hkind, hphase, htally, hleads⟩ := hfit
    refine ⟨hkind, hphase, ?_, hleads⟩
    rw [htally]
    rfl
  | falls op outcome ended hstage =>
    rw [hstage] at hfit
    exact hfit
  | observes op outcome ended hstage =>
    rw [hstage] at hfit
    obtain ⟨_, _, htally, hleads⟩ := hfit
    unfold VisitFit Visit.goTo
    rw [htally]
    rcases hleads with ⟨rfl, value, hending⟩ | ⟨rfl, hending⟩ |
      ⟨hok, hcancelled, error, herror, hending⟩
    · dsimp only
      rw [hending]
      exact ⟨rfl, rfl, op.target, rfl⟩
    · dsimp only
      rw [hending]
      exact Or.inr ⟨rfl, rfl, op.target, .cancelled, rfl, Or.inl ⟨rfl, rfl⟩⟩
    · dsimp only
      rw [hending]
      exact Or.inr ⟨rfl, rfl, op.target, outcome, rfl,
        Or.inr ⟨_, rfl, hcancelled, iff_of_false herror hok⟩⟩
  | replies value response hstage hencode =>
    rw [hstage] at hfit
    obtain ⟨hdisallowed, hdenied, target, hended⟩ := hfit
    exact Or.inr ⟨hdenied, hdisallowed, target, .ok, hended, Or.inr ⟨response, rfl,
      Outcome.noConfusion, iff_of_true (serializedResponse_status value _ response hencode) rfl⟩⟩
  | overflows value error hstage hencode =>
    rw [hstage] at hfit
    obtain ⟨hdisallowed, hdenied, hended⟩ := hfit
    obtain ⟨hstatus, hreason⟩ := responseError_excused error
    exact ⟨hstatus, hdenied, Or.inr (Or.inr ⟨hreason, hdisallowed, hended⟩)⟩

/-! What a step writes in the books. -/

end AppState

/-- The operation that the gauge of operations counts a request for. -/
def Visit.operation (visit : Visit) : Option Operation :=
  match visit.stage with
  | .operating _ op => some op
  | .closing op _ closing _ => if closing = .observing then none else some op
  | _ => none

theorem VisitAct.ending_operation (visit : Visit) (act : VisitAct) (kind : PacketKind) :
    (visit.goTo (act.ending kind)).operation = none := by
  cases act with
  | received reply => cases reply <;> rfl
  | _ => rfl

namespace AppState

variable (state : AppState) (crates : Crates)

/-- How the books follow a request. -/
inductive Writes (books : Books) (visit visit' : Visit) : Books → Prop
  | nothing (htally : visit'.tally = visit.tally) (hop : visit.operation = none)
      (hop' : visit'.operation = none) : Writes books visit visit' books
  | disallowed (target : ℕ) (hbefore : visit.tally.disallowed = none)
      (htally : visit'.tally = { visit.tally with disallowed := some target })
      (hop : visit.operation = none) (hop' : visit'.operation = none) :
      Writes books visit visit' { books with served := { books.served with
        commandDenied := Metrics.bump books.served.commandDenied (state.targetId target)
          visit.visitor.posted.deniedKind } }
  | denied (reason : String) (hbefore : visit.tally.denied = none)
      (htally : visit'.tally = { visit.tally with denied := some reason })
      (hop : visit.operation = none) (hop' : visit'.operation = none) :
      Writes books visit visit' { books with served := { books.served with
        requestDenied := Metrics.bump books.served.requestDenied visit.label reason } }
  | began (op : Operation) (htally : visit'.tally = visit.tally) (hop : visit.operation = none)
      (hop' : visit'.operation = some op) (hkind : op.kind = visit.visitor.posted.kind)
      (hpermit : op.holdsPermit = false) :
      Writes books visit visit' { books with served := { books.served with
        inflight := fun a b => if a = state.targetId op.target ∧ b = visit.label then
          books.served.inflight a b + 1 else books.served.inflight a b } }
  | moved (op op' : Operation) (htally : visit'.tally = visit.tally)
      (hop : visit.operation = some op) (hop' : visit'.operation = some op')
      (htarget : op'.target = op.target) (hkind : op'.kind = op.kind)
      (hpermits : op'.holdsPermit = true → op.holdsPermit = true ∨ 0 < books.available op.target) :
      Writes books visit visit'
        { books with available := Operations.movePermits books.available op op' }
  | counted (op : Operation) (outcome : Outcome) (hbefore : visit.tally.ended = none)
      (htally : visit'.tally = { visit.tally with ended := some (op.target, outcome) })
      (hop : visit'.operation = visit.operation) (hkind : op.kind = visit.visitor.posted.kind) :
      Writes books visit visit' { books with served := { books.served with
        operations := fun a b c =>
          if a = state.targetId op.target ∧ b = visit.label ∧ c = outcome.name then
            books.served.operations a b c + 1 else books.served.operations a b c } }
  | fell (op : Operation) (htally : visit'.tally = visit.tally)
      (hop : visit.operation = some op) (hop' : visit'.operation = none)
      (hkind : op.kind = visit.visitor.posted.kind) (hpermit : op.holdsPermit = false) :
      Writes books visit visit' { books with served := { books.served with
        inflight := fun a b => if a = state.targetId op.target ∧ b = visit.label then
          books.served.inflight a b + -1 else books.served.inflight a b } }

theorem VisitMoves.writes {desk desk' : Desk} {visit visit' : Visit} {act : VisitAct}
    (hfit : state.VisitFit crates visit) (h : VisitMoves state desk visit act desk' visit') :
    visit'.visitor = visit.visitor ∧ Writes state desk.books visit visit' desk'.books := by
  unfold VisitFit at hfit
  cases h with
  | authenticates attempt hall hstage hmove =>
    have hserved := (moveAttempt_moves state _ _ _ _ hmove).served
    have hbooks : Desk.books { desk with hall := hall } = desk.books := by
      unfold Desk.books Desk.metrics
      rw [hserved]
    have hnone : visit.operation = none := by rw [Visit.operation, hstage]
    rw [hbooks]
    exact ⟨rfl, .nothing rfl hnone hnone⟩
  | panics panic hstage hleft =>
    exact ⟨rfl, .nothing rfl (by rw [Visit.operation, hstage]) rfl⟩
  | refuses error hstage hleft =>
    exact ⟨rfl, .nothing rfl (by rw [Visit.operation, hstage]) rfl⟩
  | passes route hstage hleft =>
    exact ⟨rfl, .nothing rfl (by rw [Visit.operation, hstage]) rfl⟩
  | rejects route hstage hcheck =>
    exact ⟨rfl, .nothing rfl (by rw [Visit.operation, hstage]) rfl⟩
  | disallows route message hstage hcheck =>
    rw [hstage] at hfit
    exact ⟨rfl, .disallowed route.target (by rw [hfit.2]; rfl) rfl
      (by rw [Visit.operation, hstage]) rfl⟩
  | begins route commands hstage hcheck =>
    exact ⟨rfl, .began ⟨route.target, visit.visitor.posted.kind, .acquiring, .unsent⟩ rfl
      (by rw [Visit.operation, hstage]) rfl rfl rfl⟩
  | denies reason error hstage =>
    rw [hstage] at hfit
    exact ⟨rfl, .denied reason hfit.2.1 rfl (by rw [Visit.operation, hstage]) rfl⟩
  | operates commands op op' act opAct hstage hact hadvance hpermits hunfinished =>
    obtain ⟨htarget, hkind, _⟩ := op.advance_cases op' opAct hadvance
    exact ⟨rfl, .moved op op' rfl (by rw [Visit.operation, hstage]) rfl htarget hkind hpermits⟩
  | finishes commands op op' act opAct outcome hstage hact hadvance hpermits hfinished =>
    obtain ⟨htarget, hkind, _⟩ := op.advance_cases op' opAct hadvance
    exact ⟨rfl, .moved op op' rfl (by rw [Visit.operation, hstage]) rfl htarget hkind hpermits⟩
  | counts op outcome ended hstage =>
    rw [hstage] at hfit
    obtain ⟨hkind, _, htally, _⟩ := hfit
    let visit' : Visit := { visit with
      tally := { visit.tally with ended := some (op.target, outcome) }
      stage := .closing op outcome .falling ended }
    have hwrites := @Writes.counted state desk.books visit visit' op outcome
      (by rw [htally]; rfl) rfl (by rw [Visit.operation, Visit.operation, hstage]; rfl) hkind
    rw [Visit.label, ← hkind] at hwrites
    exact ⟨rfl, hwrites⟩
  | falls op outcome ended hstage =>
    rw [hstage] at hfit
    obtain ⟨hkind, hphase, _⟩ := hfit
    have hpermit : op.holdsPermit = false := by
      unfold Operation.holdsPermit
      rw [hphase]
      rfl
    have hwrites := @Writes.fell state desk.books visit
      (visit.goTo (.closing op outcome .observing ended)) op rfl
      (by rw [Visit.operation, hstage]; rfl) rfl hkind hpermit
    rw [Visit.label, ← hkind] at hwrites
    exact ⟨rfl, hwrites⟩
  | observes op outcome ended hstage =>
    exact ⟨rfl, .nothing rfl (by rw [Visit.operation, hstage]; rfl)
      (ended.ending_operation visit op.kind)⟩
  | replies value response hstage hencode =>
    exact ⟨rfl, .nothing rfl (by rw [Visit.operation, hstage]) rfl⟩
  | overflows value error hstage hencode =>
    exact ⟨rfl, .nothing rfl (by rw [Visit.operation, hstage]) rfl⟩

end AppState

/-! The accounts. -/

namespace Visit

variable (state : AppState)

/-- The request was denied at its route for a reason. -/
def deniedFor (label reason : String) (visit : Visit) : Bool :=
  visit.label == label && visit.tally.denied == some reason

/-- The policy refused the request at a target. -/
def disallowedAt (target kind : String) (visit : Visit) : Bool :=
  visit.visitor.posted.deniedKind == kind &&
    visit.tally.disallowed.map state.targetId == some target

/-- The gauge counts the request for an operation. -/
def operatesAt (target label : String) (visit : Visit) : Bool :=
  visit.label == label && visit.operation.any (fun op => state.targetId op.target == target)

/-- The operation of the request was counted under an outcome. -/
def endedAt (target label : String) (outcome : Outcome) (visit : Visit) : Bool :=
  visit.label == label &&
    visit.tally.ended.any (fun ended => state.targetId ended.1 == target && ended.2 == outcome)

/-- The request holds a permit of a target. -/
def holdsAt (target : ℕ) (visit : Visit) : Bool :=
  visit.operation.any (fun op => op.target == target && op.holdsPermit)

/-- The request panicked. -/
def panickedFor (label : String) (visit : Visit) : Bool :=
  visit.label == label && visit.left matches some (.error _)

/-- The operation of the request ended. -/
def operatedFor (label : String) (visit : Visit) : Bool :=
  visit.label == label && visit.tally.ended.isSome

/-- Redis answered the request. -/
def succeededFor (label : String) (visit : Visit) : Bool :=
  visit.label == label && visit.tally.ended.any (fun ended => ended.2 == .ok)

/-- The request was answered with a reply of Redis. -/
def servedFor (label : String) (visit : Visit) : Bool :=
  visit.label == label && match visit.left with
    | some (.ok (some response)) => response.status == .ok
    | _ => false

end Visit

theorem bump_toNat (count : String → String → ℕ) (first second a b : String) :
    Metrics.bump count first second a b = count a b + (first == a && second == b).toNat := by
  unfold Metrics.bump
  by_cases hsame : a = first ∧ b = second
  · obtain ⟨rfl, rfl⟩ := hsame
    simp
  · rw [if_neg hsame]
    have hother : (first == a && second == b) = false := by
      rw [Bool.and_eq_false_iff, beq_eq_false_iff_ne, beq_eq_false_iff_ne]
      by_contra hboth
      push Not at hboth
      exact hsame ⟨hboth.1.symm, hboth.2.symm⟩
    rw [hother]
    rfl

namespace AppState

variable (state : AppState) (crates : Crates)

/-- A number in the books that every step moves with its own request. -/
theorem writes_tallies (measure : Books → ℤ) (counted : Visit → Bool)
    (henter : ∀ visitor, counted (state.visit crates visitor) = false)
    (hwrites : ∀ books visit visit' books', visit'.visitor = visit.visitor →
      Writes state books visit visit' books' →
      measure books' + (counted visit).toNat = measure books + (counted visit').toNat) :
    (state.visitProgram crates).Tallies (state.VisitFit crates)
      (fun desk => measure desk.books) counted := by
  refine ⟨fun visitor => ⟨visit_fit state crates visitor, henter visitor⟩, ?_, ?_⟩
  · intro desk visit act desk' visit' hfit h
    have hmoves := moveVisit_moves state desk desk' visit visit' act h
    obtain ⟨hvisitor, hbooks⟩ := hmoves.writes state crates hfit
    exact ⟨hmoves.fit state crates hfit, hwrites _ _ _ _ hvisitor hbooks⟩
  · intro desk later desk' h
    obtain ⟨hall, hpass, rfl⟩ := Option.map_eq_some_iff.mp h
    rw [((passTime_eq_some _ _ _).mp hpass).2]
    rfl

theorem denied_tallies (label reason : String) :
    (state.visitProgram crates).Tallies (state.VisitFit crates)
      (fun desk => (desk.books.served.requestDenied label reason : ℤ))
      (Visit.deniedFor label reason) := by
  apply writes_tallies state crates (fun books => books.served.requestDenied label reason)
  · intro visitor
    exact Bool.and_false _
  · intro books visit visit' books' hvisitor h
    have hlabel : visit'.label = visit.label := by rw [Visit.label, hvisitor, Visit.label]
    unfold Visit.deniedFor
    rw [hlabel]
    cases h with
    | denied other hbefore htally hop hop' =>
      rw [hbefore, htally]
      dsimp only
      rw [bump_toNat]
      push_cast
      simp
    | nothing htally => rw [htally]
    | disallowed target hbefore htally => rw [htally]
    | began op htally => rw [htally]
    | moved op op' htally => rw [htally]
    | counted op outcome hbefore htally => rw [htally]
    | fell op htally => rw [htally]

theorem disallowed_tallies (target kind : String) :
    (state.visitProgram crates).Tallies (state.VisitFit crates)
      (fun desk => (desk.books.served.commandDenied target kind : ℤ))
      (Visit.disallowedAt state target kind) := by
  apply writes_tallies state crates (fun books => books.served.commandDenied target kind)
  · intro visitor
    exact Bool.and_false _
  · intro books visit visit' books' hvisitor h
    unfold Visit.disallowedAt
    rw [hvisitor]
    cases h with
    | disallowed other hbefore htally hop hop' =>
      rw [hbefore, htally]
      dsimp only
      rw [bump_toNat, Bool.and_comm]
      push_cast
      simp
    | nothing htally => rw [htally]
    | denied reason hbefore htally => rw [htally]
    | began op htally => rw [htally]
    | moved op op' htally => rw [htally]
    | counted op outcome hbefore htally => rw [htally]
    | fell op htally => rw [htally]

/-- A gauge at its own labels, after it was moved at some labels. -/
theorem gauge_toNat (gauge : ℤ) (target label a b : String) (change : ℤ) :
    (if a = target ∧ b = label then gauge + change else gauge) =
      gauge + change * (label == b && target == a).toNat := by
  by_cases hsame : a = target ∧ b = label
  · obtain ⟨rfl, rfl⟩ := hsame
    simp
  · rw [if_neg hsame]
    have hother : (label == b && target == a) = false := by
      rw [Bool.and_eq_false_iff, beq_eq_false_iff_ne, beq_eq_false_iff_ne]
      by_contra hboth
      push Not at hboth
      exact hsame ⟨hboth.2.symm, hboth.1.symm⟩
    rw [hother]
    simp

theorem operates_tallies (target label : String) :
    (state.visitProgram crates).Tallies (state.VisitFit crates)
      (fun desk => desk.books.served.inflight target label)
      (Visit.operatesAt state target label) := by
  apply writes_tallies state crates (fun books => books.served.inflight target label)
  · intro visitor
    exact Bool.and_false _
  · intro books visit visit' books' hvisitor h
    have hlabel : visit'.label = visit.label := by rw [Visit.label, hvisitor, Visit.label]
    unfold Visit.operatesAt
    rw [hlabel]
    cases h with
    | began op htally hop hop' =>
      rw [hop, hop']
      dsimp only
      rw [gauge_toNat]
      simp
    | fell op htally hop hop' =>
      rw [hop, hop']
      dsimp only
      rw [gauge_toNat]
      simp
    | counted op outcome hbefore htally hop => rw [hop]
    | moved op op' htally hop hop' htarget =>
      rw [hop, hop', Option.any_some, Option.any_some, htarget]
    | nothing htally hop hop' => rw [hop, hop']
    | disallowed target hbefore htally hop hop' => rw [hop, hop']
    | denied reason hbefore htally hop hop' => rw [hop, hop']

theorem ended_tallies (target label : String) (outcome : Outcome) :
    (state.visitProgram crates).Tallies (state.VisitFit crates)
      (fun desk => (desk.books.served.operations target label outcome.name : ℤ))
      (Visit.endedAt state target label outcome) := by
  apply writes_tallies state crates
    (fun books => books.served.operations target label outcome.name)
  · intro visitor
    exact Bool.and_false _
  · intro books visit visit' books' hvisitor h
    have hlabel : visit'.label = visit.label := by rw [Visit.label, hvisitor, Visit.label]
    unfold Visit.endedAt
    rw [hlabel]
    cases h with
    | counted op other hbefore htally hop =>
      rw [hbefore, htally]
      dsimp only
      by_cases hsame : target = state.targetId op.target ∧ label = visit.label ∧
          outcome.name = other.name
      · rw [if_pos hsame]
        obtain ⟨rfl, rfl, hname⟩ := hsame
        obtain rfl := (OperationPermits.Outcome.name_inj outcome other).mp hname
        simp
      · have hnot : (visit.label == label &&
            (state.targetId op.target == target && other == outcome)) = false := by
          rw [Bool.eq_false_iff]
          intro hall
          simp only [Bool.and_eq_true, beq_iff_eq] at hall
          obtain ⟨rfl, rfl, rfl⟩ := hall
          exact hsame ⟨rfl, rfl, rfl⟩
        rw [if_neg hsame, Option.any_some, hnot, Option.any_none, Bool.and_false]
    | nothing htally => rw [htally]
    | disallowed target hbefore htally => rw [htally]
    | denied reason hbefore htally => rw [htally]
    | began op htally => rw [htally]
    | moved op op' htally => rw [htally]
    | fell op htally => rw [htally]

/-- Permits and their holders, as a number that does not change. -/
theorem holds_tallies (target : ℕ) :
    (state.visitProgram crates).Tallies (state.VisitFit crates)
      (fun desk => OperationPermits.limit state.targets target - (desk.books.available target : ℤ))
      (Visit.holdsAt target) := by
  apply writes_tallies state crates
    (fun books => OperationPermits.limit state.targets target - (books.available target : ℤ))
  · intro visitor
    rfl
  · intro books visit visit' books' hvisitor h
    unfold Visit.holdsAt
    have hmoved (op op' : Operation) (hafter : (op'.holdsPermit = true → op.holdsPermit = true ∨
          0 < books.available op.target)) :
        (Operations.movePermits books.available op op' target : ℤ) =
          books.available target + (op.target == target && op.holdsPermit).toNat -
            (op.target == target && op'.holdsPermit).toNat := by
      unfold Operations.movePermits
      by_cases hsame : target = op.target
      · subst hsame
        rw [if_pos rfl, beq_self_eq_true, Bool.true_and, Bool.true_and]
        cases hop : op.holdsPermit <;> cases hop' : op'.holdsPermit <;>
          simp only [hop, hop', Bool.toNat_true, Bool.toNat_false] at hafter ⊢ <;> grind
      · have hother : (op.target == target) = false :=
          beq_eq_false_iff_ne.mpr (fun heq => hsame heq.symm)
        rw [if_neg hsame, hother]
        simp
    cases h with
    | began op htally hop hop' hkind hpermit =>
      rw [hop, hop', Option.any_some, hpermit, Bool.and_false]
      rfl
    | moved op op' htally hop hop' htarget hkind hpermits =>
      rw [hop, hop', Option.any_some, Option.any_some, htarget]
      dsimp only
      rw [hmoved op op' hpermits]
      omega
    | fell op htally hop hop' hkind hpermit =>
      rw [hop, hop', Option.any_some, hpermit, Bool.and_false]
      rfl
    | counted op outcome hbefore htally hop => rw [hop]
    | nothing htally hop hop' => rw [hop, hop']
    | disallowed target hbefore htally hop hop' => rw [hop, hop']
    | denied reason hbefore htally hop hop' => rw [hop, hop']

/-- The permits of a target are left or held. -/
theorem permits_held (clock : Instant) (events : List (Event Visitor VisitAct Instant))
    (s : Threads Desk Visit)
    (h : run (state.visitProgram crates).step (state.openDesk clock) events = some s)
    (target : ℕ) : s.shared.available target + s.threads.countP (Visit.holdsAt target) =
      OperationPermits.limit state.targets target := by
  have hopen : Program.Tallied (state.VisitFit crates)
      (fun desk => OperationPermits.limit state.targets target -
        (desk.books.available target : ℤ)) (Visit.holdsAt target) (state.openDesk clock) :=
    ⟨fun _ hmem => absurd hmem List.not_mem_nil, sub_self _⟩
  have hholds : OperationPermits.limit state.targets target - (s.shared.available target : ℤ) =
      s.threads.countP (Visit.holdsAt target) :=
    ((holds_tallies state crates target).run events _ s hopen h).2
  omega

/-- How a request has left, and what it has been counted under. -/
theorem left_cases (visit : Visit) (hfit : state.VisitFit crates visit)
    (hleft : visit.left.isSome = true) :
    (∃ panic, visit.left = some (.error panic) ∧ visit.tally = .nothing) ∨
    (∃ reason answer, visit.left = some (.ok (some answer)) ∧ answer.status ≠ .ok ∧
      visit.tally.denied = some reason ∧ visit.tally.Excuses reason) ∨
    (∃ response target outcome, visit.left = some (.ok response) ∧ visit.tally.denied = none ∧
      visit.tally.ended = some (target, outcome) ∧ Settles outcome response) := by
  unfold VisitFit at hfit
  unfold Visit.left at hleft ⊢
  cases hstage : visit.stage with
  | answered response =>
    rw [hstage] at hfit
    dsimp only at hfit ⊢
    rcases hfit with ⟨reason, hdenied, hexcused, answer, rfl, hstatus⟩ |
      ⟨hdenied, _, target, outcome, hended, hsettles⟩
    · exact Or.inr (Or.inl ⟨reason, answer, rfl, hstatus, hdenied, hexcused⟩)
    · exact Or.inr (Or.inr ⟨response, target, outcome, rfl, hdenied, hended, hsettles⟩)
  | panicked panic =>
    rw [hstage] at hfit
    exact Or.inl ⟨panic, rfl, hfit⟩
  | _ =>
    rw [hstage] at hleft
    cases hleft

/-- A request that has left panicked, was denied before its operation, or had one. -/
theorem left_once (label : String) (visit : Visit) (hfit : state.VisitFit crates visit)
    (hleft : visit.left.isSome = true) :
    (visit.label == label).toNat = ([Visit.panickedFor label, Visit.deniedFor label "auth",
      Visit.deniedFor label "invalid_json", Visit.deniedFor label "policy",
      Visit.operatedFor label].map fun part => (part visit).toNat).sum := by
  simp only [List.map_cons, List.map_nil, List.sum_cons, List.sum_nil, Visit.panickedFor,
    Visit.deniedFor, Visit.operatedFor]
  cases visit.label == label with
  | false => rfl
  | true =>
    rcases left_cases state crates visit hfit hleft with ⟨panic, hend, htally⟩ |
      ⟨reason, answer, hend, _, hdenied, hexcused⟩ |
      ⟨response, target, outcome, hend, hdenied, hended, _⟩
    · rw [hend, htally]
      rfl
    · rw [hend, hdenied]
      rcases hexcused with ⟨hreason, _, hended⟩ | ⟨rfl, _, hended⟩ | ⟨hreason, _, target, hended⟩
      · rw [hended]
        simp only [List.mem_cons, List.not_mem_nil, or_false] at hreason
        rcases hreason with rfl | rfl <;> simp
      · rw [hended]
        simp
      · rw [hended]
        simp only [List.mem_cons, List.not_mem_nil, or_false] at hreason
        rcases hreason with rfl | rfl <;> simp
    · rw [hend, hdenied, hended]
      rfl

/-- A request that Redis answered is given the reply, or denied for its encoding. -/
theorem succeeded_once (label : String) (visit : Visit) (hfit : state.VisitFit crates visit)
    (hleft : visit.left.isSome = true) :
    (visit.succeededFor label).toNat = ([Visit.servedFor label,
      Visit.deniedFor label "response_too_large", Visit.deniedFor label "response_encode"].map
        fun part => (part visit).toNat).sum := by
  simp only [List.map_cons, List.map_nil, List.sum_cons, List.sum_nil, Visit.succeededFor,
    Visit.deniedFor, Visit.servedFor]
  cases visit.label == label with
  | false => rfl
  | true =>
    rcases left_cases state crates visit hfit hleft with ⟨panic, hend, htally⟩ |
      ⟨reason, answer, hend, hstatus, hdenied, hexcused⟩ |
      ⟨response, target, outcome, hend, hdenied, hended, hsettles⟩
    · rw [hend, htally]
      rfl
    · have hnot : (answer.status == StatusCode.ok) = false := beq_eq_false_iff_ne.mpr hstatus
      rw [hend, hdenied]
      dsimp only
      rw [hnot]
      rcases hexcused with ⟨hreason, _, hended⟩ | ⟨rfl, _, hended⟩ | ⟨hreason, _, target, hended⟩
      · rw [hended]
        simp only [List.mem_cons, List.not_mem_nil, or_false] at hreason
        rcases hreason with rfl | rfl <;> simp
      · rw [hended]
        simp
      · rw [hended]
        simp only [List.mem_cons, List.not_mem_nil, or_false] at hreason
        rcases hreason with rfl | rfl <;> simp
    · rw [hend, hdenied, hended]
      rcases hsettles with ⟨rfl, rfl⟩ | ⟨answer, rfl, _, hstatus⟩
      · rfl
      · have hsame : (outcome == Outcome.ok) = (answer.status == StatusCode.ok) := by
          rw [Bool.eq_iff_iff, beq_iff_eq, beq_iff_eq]
          exact hstatus.symm
        dsimp only [Option.any_some]
        rw [hsame]
        cases answer.status == StatusCode.ok <;> rfl

/-- In every interleaving of requests at the command routes, each counter is at
every moment the number of requests past the step that moves it, and a target's
permits are left or held; once all have left, every request panicked, was denied
before its operation for one reason, or had one operation, and what Redis
answered was passed on or denied for its encoding. -/
theorem visits_reconcile (clock : Instant) (events : List (Event Visitor VisitAct Instant))
    (s : Threads Desk Visit)
    (h : run (state.visitProgram crates).step (state.openDesk clock) events = some s) :
    (∀ label reason, s.shared.metrics.requestDeniedTotal label reason =
      s.threads.countP (Visit.deniedFor label reason)) ∧
    (∀ target kind, s.shared.metrics.commandDeniedTotal target kind =
      s.threads.countP (Visit.disallowedAt state target kind)) ∧
    (∀ target label, s.shared.metrics.redisOperationsInflight target label =
      s.threads.countP (Visit.operatesAt state target label)) ∧
    (∀ target label outcome, s.shared.metrics.redisOperationsTotal target label outcome.name =
      s.threads.countP (Visit.endedAt state target label outcome)) ∧
    (∀ target, s.shared.available target + s.threads.countP (Visit.holdsAt target) =
      OperationPermits.limit state.targets target) ∧
    ((∀ visit ∈ s.threads, visit.left.isSome = true) → ∀ label,
      s.threads.countP (fun visit => visit.label == label) =
        s.threads.countP (Visit.panickedFor label) +
          s.shared.metrics.requestDeniedTotal label "auth" +
          s.shared.metrics.requestDeniedTotal label "invalid_json" +
          s.shared.metrics.requestDeniedTotal label "policy" +
          s.threads.countP (Visit.operatedFor label) ∧
      s.threads.countP (Visit.succeededFor label) = s.threads.countP (Visit.servedFor label) +
        s.shared.metrics.requestDeniedTotal label "response_too_large" +
        s.shared.metrics.requestDeniedTotal label "response_encode") := by
  have hnone : ∀ visit ∈ (state.openDesk clock).threads, state.VisitFit crates visit :=
    fun _ hmem => absurd hmem List.not_mem_nil
  have hdenied (label reason : String) :=
    (denied_tallies state crates label reason).run_nat events _ s hnone rfl h
  refine ⟨fun label reason => (hdenied label reason).2, ?_, ?_, ?_, ?_, ?_⟩
  · intro target kind
    exact ((disallowed_tallies state crates target kind).run_nat events _ s hnone rfl h).2
  · intro target label
    exact ((operates_tallies state crates target label).run events _ s ⟨hnone, rfl⟩ h).2
  · intro target label outcome
    exact ((ended_tallies state crates target label outcome).run_nat events _ s hnone rfl h).2
  · exact permits_held state crates clock events s h
  · intro hleft label
    have hfit := (hdenied label "auth").1
    constructor
    · rw [Program.countP_eq_sum _ _ s.threads
        (fun visit hmem => left_once state crates label visit (hfit visit hmem) (hleft visit hmem))]
      simp only [List.map_cons, List.map_nil, List.sum_cons, List.sum_nil,
        ← (hdenied label _).2]
      unfold Desk.books Metrics.served
      dsimp only
      omega
    · rw [Program.countP_eq_sum _ _ s.threads
        (fun visit hmem => succeeded_once state crates label visit (hfit visit hmem)
          (hleft visit hmem))]
      simp only [List.map_cons, List.map_nil, List.sum_cons, List.sum_nil,
        ← (hdenied label _).2]
      unfold Desk.books Metrics.served
      dsimp only
      omega

def getVisitor : Visitor := ⟨bearerAbc, .v4 1, .command (some [.string "get", .string "key"])⟩

/-- One request up to the hand-over of its packet. -/
def oneSent : List (Event Visitor VisitAct Instant) :=
  [.entered getVisitor] ++ List.replicate 8 (.moved 0 .step) ++
    [.moved 0 .granted, .moved 0 .connected, .moved 0 .sent]

set_option maxRecDepth 4000 in
theorem visits_reconcile_sent : ∃ state s, new (fun _ => .ok ()) twoTargets = .ok state ∧
    run (state.visitProgram abcCrates).step (state.openDesk (.ofSecs 0)) oneSent = some s ∧
    s.shared.metrics.redisOperationsInflight "queue" "command" = 1 ∧
    s.shared.available 1 = 99 := by
  obtain ⟨state, s, hnew, hrun, hoperates, hholds, hlimit⟩ : ∃ state s,
      new (fun _ => .ok ()) twoTargets = .ok state ∧
      run (state.visitProgram abcCrates).step (state.openDesk (.ofSecs 0)) oneSent = some s ∧
      s.threads.countP (Visit.operatesAt state "queue" "command") = 1 ∧
      s.threads.countP (Visit.holdsAt 1) = 1 ∧ OperationPermits.limit state.targets 1 = 100 :=
    ⟨_, _, rfl, rfl, rfl, rfl, rfl⟩
  obtain ⟨_, _, hinflight, _, hpermits, _⟩ :=
    visits_reconcile state abcCrates (.ofSecs 0) oneSent s hrun
  refine ⟨state, s, hnew, hrun, ?_, ?_⟩
  · rw [hinflight, hoperates]
    rfl
  · have hsum := hpermits 1
    omega

end AppState

end RedisBridge.App
