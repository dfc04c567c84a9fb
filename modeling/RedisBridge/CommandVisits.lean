import RedisBridge.AuthInterleavings
import RedisBridge.Gatekeeping
import RedisBridge.OperationPermits

/-!
Requests at the command routes, side by side from their arrival to their answer.
A request authenticates, has its body checked under the capabilities that it was
granted, runs its operation under a permit of its target and encodes the reply.
The permit is given back when the operation's future ends, and only then is the
operation counted; each counter is moved in a step of its own.
-/
namespace RedisBridge.App

open ClientAddress Instants IpAddress Lockout Responses RustText Security SharedThreads
open Targets TokenType TransitionRuns
open OperationPermits (Operation Operations Outcome)

/-- The decoded body of a command route; a body that was rejected is absent. -/
inductive Posted
  | command (array : Option (List CommandArg))
  | pipeline (arrays : Option (List (List CommandArg)))
  | multiExec (arrays : Option (List (List CommandArg)))

/-- Why nothing of a body is handed over. -/
inductive Refusal
  | invalidJson
  | policy (message : String)

namespace Posted

def kind : Posted → PacketKind
  | .command _ => .command
  | .pipeline _ => .pipeline
  | .multiExec _ => .multiExec

/-- The label under which a refusal by the policy is counted at the target. -/
def deniedKind : Posted → String
  | .command _ => "single"
  | .pipeline _ => "pipeline"
  | .multiExec _ => "multi_exec"

def checkList (security : SecurityPolicy) (tokenType : TokenCaps) :
    Option (List (List CommandArg)) → Except Refusal (List RedisCommand)
  | none => .error .invalidJson
  | some arrays =>
      match security.parseCommandList arrays tokenType with
      | .error message => .error (.policy message)
      | .ok commands => .ok commands

/-- The commands of a body that the policy accepts as a whole. -/
def check (security : SecurityPolicy) (tokenType : TokenCaps) :
    Posted → Except Refusal (List RedisCommand)
  | .command none => .error .invalidJson
  | .command (some array) =>
      match security.parseCommand array tokenType with
      | .error message => .error (.policy message)
      | .ok parsed => .ok [parsed]
  | .pipeline arrays => checkList security tokenType arrays
  | .multiExec arrays => checkList security tokenType arrays

end Posted

/-- A request as it arrives at a command route. -/
structure Visitor where
  headers : HeaderMap
  peer : IpAddr
  posted : Posted

/-- What the guard of an operation has still to do once the operation has ended:
count the outcome, let the gauge fall, observe the duration. -/
inductive Closing
  | counting
  | falling
  | observing
  deriving DecidableEq

/-- What can happen to a request: its own next step, or an event of its
operation with what the event brings. -/
inductive VisitAct
  | step
  | granted
  | saturated
  | closed
  | connected
  | unconnected
  | sent
  | answered
  | received (reply : Except RedisError Serialization)
  | failed (error : RedisError)
  | timedOut
  | dropped

/-- Where a request is in its route. An operation that has ended is closed under
its outcome, after the act that ended it. -/
inductive VisitStage
  | authenticating
  | screening (route : AuthRoute)
  | denying (reason : String) (error : ApiError)
  | operating (commands : List RedisCommand) (op : Operation)
  | closing (op : Operation) (outcome : Outcome) (closing : Closing) (act : VisitAct)
  | encoding (value : Serialization)
  | answered (response : Option Response)
  | panicked (panic : Panic)

/-- What a request has been counted under: the target whose policy counter it
raised, the target and the outcome of its operation, the reason of its denial. -/
structure Tally where
  disallowed : Option ℕ
  ended : Option (ℕ × Outcome)
  denied : Option String
  deriving DecidableEq

structure Visit where
  visitor : Visitor
  attempt : Attempt
  tally : Tally
  stage : VisitStage

namespace VisitAct

/-- The act on the operation. -/
def operation : VisitAct → Option OperationPermits.Act
  | .step => none
  | .granted => some .granted
  | .saturated => some .saturated
  | .closed => some .closed
  | .connected => some .connected
  | .unconnected => some .unconnected
  | .sent => some .sent
  | .answered => some .answered
  | .received (.ok _) => some (.received true)
  | .received (.error _) => some (.received false)
  | .failed _ => some .lost
  | .timedOut => some .timedOut
  | .dropped => some .dropped

/-- Where a request goes on from an act that ended its operation. -/
def ending (kind : PacketKind) : VisitAct → VisitStage
  | .saturated =>
      .answered (some (ApiError.tooManyRequests "Redis operation capacity exhausted").intoResponse)
  | .closed | .unconnected =>
      .answered (some (ApiError.unavailable "Redis backend unavailable").intoResponse)
  | .received (.error error) | .failed error =>
      .answered (some (redisApiError error).intoResponse)
  | .received (.ok value) => .encoding value
  | .timedOut => .answered (some (ApiError.timeout (timeoutMessage kind)).intoResponse)
  | _ => .answered none

end VisitAct

namespace Metrics

/-- The two other parts of the end of an operation. -/
def countOperation (metrics : Metrics) (target kind outcome : String) : Metrics :=
  { metrics with
    redisOperationsTotal := fun a b c =>
      if a = target ∧ b = kind ∧ c = outcome then metrics.redisOperationsTotal a b c + 1
      else metrics.redisOperationsTotal a b c }

def observeOperation (metrics : Metrics) (target kind : String) : Metrics :=
  { metrics with redisOperationDuration := bump metrics.redisOperationDuration target kind }

theorem endOperation_eq (metrics : Metrics) (target kind outcome : String) :
    metrics.endOperation target kind outcome =
      ((metrics.countOperation target kind outcome).moveInflight target kind (-1)).observeOperation
        target kind := rfl

end Metrics

/-- What the requests share: the hall, and the permits left at each target. -/
structure Desk where
  hall : Hall
  available : ℕ → ℕ

namespace Desk

def metrics (desk : Desk) : Metrics := desk.hall.cells.metrics

def setMetrics (desk : Desk) (metrics : Metrics) : Desk :=
  { desk with hall := desk.hall.setMetrics metrics }

@[simp] theorem metrics_setMetrics (desk : Desk) (metrics : Metrics) :
    (desk.setMetrics metrics).metrics = metrics := rfl

@[simp] theorem available_setMetrics (desk : Desk) (metrics : Metrics) :
    (desk.setMetrics metrics).available = desk.available := rfl

/-- A grant needs a permit that is left. -/
def Permits (desk : Desk) (op op' : Operation) : Prop :=
  op'.holdsPermit = true → op.holdsPermit = true ∨ 0 < desk.available op.target

instance (desk : Desk) (op op' : Operation) : Decidable (desk.Permits op op') :=
  inferInstanceAs (Decidable (_ → _))

end Desk

namespace Visit

def goTo (visit : Visit) (stage : VisitStage) : Visit := { visit with stage := stage }

/-- The request as far as an attempt to authenticate has come. -/
def trying (visit : Visit) (attempt : Attempt) : Visit :=
  { visit with attempt := attempt, stage := .authenticating }

/-- The label of the route, which is the name of its operations. -/
def label (visit : Visit) : String := visit.visitor.posted.kind.name

/-- The response that the request left with, if it was not dropped. -/
def left (visit : Visit) : Option (Except Panic (Option Response)) :=
  match visit.stage with
  | .answered response => some (.ok response)
  | .panicked panic => some (.error panic)
  | _ => none

end Visit

namespace AppState

variable (state : AppState) (crates : Crates)

/-- The authentication of a request at a command route. -/
def Visitor.arrival (visitor : Visitor) : Arrival := ⟨.command, visitor.headers, visitor.peer⟩

def visit (visitor : Visitor) : Visit where
  visitor := visitor
  attempt := state.attempt crates (Visitor.arrival visitor)
  tally := ⟨none, none, none⟩
  stage := .authenticating

/-- A step of authentication, or what follows once it is over. -/
def moveAuthenticating (desk : Desk) (visit : Visit) : Option (Desk × Visit) :=
  match visit.attempt.left with
  | none =>
      match state.moveAttempt desk.hall visit.attempt with
      | none => none
      | some (hall, attempt) => some ({ desk with hall := hall }, { visit with attempt := attempt })
  | some (.error panic) => some (desk, visit.goTo (.panicked panic))
  | some (.ok (.error error)) => some (desk, visit.goTo (.denying "auth" error))
  | some (.ok (.ok none)) => none
  | some (.ok (.ok (some route))) => some (desk, visit.goTo (.screening route))

/-- The check of the body; the operation begins where it is passed. -/
def moveScreening (desk : Desk) (visit : Visit) (route : AuthRoute) : Desk × Visit :=
  match visit.visitor.posted.check state.security route.tokenType with
  | .error .invalidJson =>
      (desk, visit.goTo (.denying "invalid_json" (.badRequest "Invalid JSON body")))
  | .error (.policy message) =>
      (desk.setMetrics (desk.metrics.commandDenied (state.targetId route.target)
          visit.visitor.posted.deniedKind),
        { visit with
          tally := { visit.tally with disallowed := some route.target }
          stage := .denying "policy" (.badRequest message) })
  | .ok commands =>
      (desk.setMetrics (desk.metrics.beginOperation (state.targetId route.target) visit.label),
        visit.goTo (.operating commands
          ⟨route.target, visit.visitor.posted.kind, .acquiring, .unsent⟩))

def moveDenying (desk : Desk) (visit : Visit) (reason : String) (error : ApiError) :
    Desk × Visit :=
  (desk.setMetrics (desk.metrics.requestDenied visit.label reason),
    { visit with
      tally := { visit.tally with denied := some reason }
      stage := .answered (some error.intoResponse) })

/-- An event of the operation; its permit is given back when it ends. -/
def moveOperating (desk : Desk) (visit : Visit) (commands : List RedisCommand) (op : Operation)
    (act : VisitAct) : Option (Desk × Visit) :=
  match act.operation.bind op.advance with
  | none => none
  | some op' =>
      if desk.Permits op op' then
        let available := Operations.movePermits desk.available op op'
        match op'.phase with
        | .finished outcome =>
            some ({ desk with available := available },
              visit.goTo (.closing op' outcome .counting act))
        | _ => some ({ desk with available := available }, visit.goTo (.operating commands op'))
      else none

/-- A step of the guard of an operation that has ended. -/
def moveClosing (desk : Desk) (visit : Visit) (op : Operation) (outcome : Outcome)
    (closing : Closing) (act : VisitAct) : Desk × Visit :=
  match closing with
  | .counting =>
      (desk.setMetrics (desk.metrics.countOperation (state.targetId op.target) op.kind.name
          outcome.name),
        { visit with
          tally := { visit.tally with ended := some (op.target, outcome) }
          stage := .closing op outcome .falling act })
  | .falling =>
      (desk.setMetrics (desk.metrics.moveInflight (state.targetId op.target) op.kind.name (-1)),
        visit.goTo (.closing op outcome .observing act))
  | .observing =>
      (desk.setMetrics (desk.metrics.observeOperation (state.targetId op.target) op.kind.name),
        visit.goTo (act.ending op.kind))

def moveEncoding (visit : Visit) (value : Serialization) : Visit :=
  match serializedResponse .ok value state.maxResponseBytes with
  | .ok response => visit.goTo (.answered (some response))
  | .error error => visit.goTo (.denying error.metricReason error.intoApiError)

def moveVisit (desk : Desk) (visit : Visit) (act : VisitAct) : Option (Desk × Visit) :=
  match visit.stage with
  | .operating commands op => moveOperating desk visit commands op act
  | .authenticating =>
      match act with
      | .step => state.moveAuthenticating desk visit
      | _ => none
  | .screening route =>
      match act with
      | .step => some (state.moveScreening desk visit route)
      | _ => none
  | .denying reason error =>
      match act with
      | .step => some (moveDenying desk visit reason error)
      | _ => none
  | .closing op outcome closing ended =>
      match act with
      | .step => some (state.moveClosing desk visit op outcome closing ended)
      | _ => none
  | .encoding value =>
      match act with
      | .step => some (desk, state.moveEncoding visit value)
      | _ => none
  | .answered _ => none
  | .panicked _ => none

/-- Time passes at the desk. -/
def passDeskTime (desk : Desk) (later : Instant) : Option Desk :=
  (passTime desk.hall later).map fun hall => { desk with hall := hall }

/-- Requests at the command routes, side by side. -/
def visitProgram : Program Desk Visit Visitor VisitAct Instant where
  enter := state.visit crates
  move := state.moveVisit
  drift := passDeskTime

/-- The desk before any request. -/
def openDesk (clock : Instant) : Threads Desk Visit :=
  ⟨⟨⟨freshCells, clock⟩, OperationPermits.limit state.targets⟩, []⟩

/-- What a step of a request hands to Redis. -/
def handovers (_ : Desk) (visit : Visit) (act : VisitAct) : List Handover :=
  match visit.stage, act with
  | .operating commands op, .sent => [⟨op.target, ⟨op.kind, commands⟩⟩]
  | _, _ => []

/-- Everything one step of a request can do. -/
inductive VisitMoves (desk : Desk) (visit : Visit) : VisitAct → Desk → Visit → Prop
  | authenticates (attempt : Attempt) (hall : Hall) (hstage : visit.stage = .authenticating)
      (hmove : state.moveAttempt desk.hall visit.attempt = some (hall, attempt)) :
      VisitMoves desk visit .step { desk with hall := hall } { visit with attempt := attempt }
  | panics (panic : Panic) (hstage : visit.stage = .authenticating)
      (hleft : visit.attempt.left = some (.error panic)) :
      VisitMoves desk visit .step desk (visit.goTo (.panicked panic))
  | refuses (error : ApiError) (hstage : visit.stage = .authenticating)
      (hleft : visit.attempt.left = some (.ok (.error error))) :
      VisitMoves desk visit .step desk (visit.goTo (.denying "auth" error))
  | passes (route : AuthRoute) (hstage : visit.stage = .authenticating)
      (hleft : visit.attempt.left = some (.ok (.ok (some route)))) :
      VisitMoves desk visit .step desk (visit.goTo (.screening route))
  | rejects (route : AuthRoute) (hstage : visit.stage = .screening route)
      (hcheck : visit.visitor.posted.check state.security route.tokenType =
        .error .invalidJson) :
      VisitMoves desk visit .step desk
        (visit.goTo (.denying "invalid_json" (.badRequest "Invalid JSON body")))
  | disallows (route : AuthRoute) (message : String) (hstage : visit.stage = .screening route)
      (hcheck : visit.visitor.posted.check state.security route.tokenType =
        .error (.policy message)) :
      VisitMoves desk visit .step
        (desk.setMetrics (desk.metrics.commandDenied (state.targetId route.target)
          visit.visitor.posted.deniedKind))
        { visit with
          tally := { visit.tally with disallowed := some route.target }
          stage := .denying "policy" (.badRequest message) }
  | begins (route : AuthRoute) (commands : List RedisCommand)
      (hstage : visit.stage = .screening route)
      (hcheck : visit.visitor.posted.check state.security route.tokenType = .ok commands) :
      VisitMoves desk visit .step
        (desk.setMetrics (desk.metrics.beginOperation (state.targetId route.target) visit.label))
        (visit.goTo (.operating commands
          ⟨route.target, visit.visitor.posted.kind, .acquiring, .unsent⟩))
  | denies (reason : String) (error : ApiError) (hstage : visit.stage = .denying reason error) :
      VisitMoves desk visit .step
        (desk.setMetrics (desk.metrics.requestDenied visit.label reason))
        { visit with
          tally := { visit.tally with denied := some reason }
          stage := .answered (some error.intoResponse) }
  | operates (commands : List RedisCommand) (op op' : Operation) (act : VisitAct)
      (opAct : OperationPermits.Act) (hstage : visit.stage = .operating commands op)
      (hact : act.operation = some opAct) (hadvance : op.advance opAct = some op')
      (hpermits : desk.Permits op op') (hunfinished : op'.isFinished = false) :
      VisitMoves desk visit act
        { desk with available := Operations.movePermits desk.available op op' }
        (visit.goTo (.operating commands op'))
  | finishes (commands : List RedisCommand) (op op' : Operation) (act : VisitAct)
      (opAct : OperationPermits.Act) (outcome : Outcome)
      (hstage : visit.stage = .operating commands op)
      (hact : act.operation = some opAct) (hadvance : op.advance opAct = some op')
      (hpermits : desk.Permits op op') (hfinished : op'.phase = .finished outcome) :
      VisitMoves desk visit act
        { desk with available := Operations.movePermits desk.available op op' }
        (visit.goTo (.closing op' outcome .counting act))
  | counts (op : Operation) (outcome : Outcome) (ended : VisitAct)
      (hstage : visit.stage = .closing op outcome .counting ended) :
      VisitMoves desk visit .step
        (desk.setMetrics (desk.metrics.countOperation (state.targetId op.target) op.kind.name
          outcome.name))
        { visit with
          tally := { visit.tally with ended := some (op.target, outcome) }
          stage := .closing op outcome .falling ended }
  | falls (op : Operation) (outcome : Outcome) (ended : VisitAct)
      (hstage : visit.stage = .closing op outcome .falling ended) :
      VisitMoves desk visit .step
        (desk.setMetrics (desk.metrics.moveInflight (state.targetId op.target) op.kind.name (-1)))
        (visit.goTo (.closing op outcome .observing ended))
  | observes (op : Operation) (outcome : Outcome) (ended : VisitAct)
      (hstage : visit.stage = .closing op outcome .observing ended) :
      VisitMoves desk visit .step
        (desk.setMetrics (desk.metrics.observeOperation (state.targetId op.target) op.kind.name))
        (visit.goTo (ended.ending op.kind))
  | replies (value : Serialization) (response : Response) (hstage : visit.stage = .encoding value)
      (hencode : serializedResponse .ok value state.maxResponseBytes = .ok response) :
      VisitMoves desk visit .step desk (visit.goTo (.answered (some response)))
  | overflows (value : Serialization) (error : ResponseError)
      (hstage : visit.stage = .encoding value)
      (hencode : serializedResponse .ok value state.maxResponseBytes = .error error) :
      VisitMoves desk visit .step desk
        (visit.goTo (.denying error.metricReason error.intoApiError))

theorem moveAuthenticating_moves (desk desk' : Desk) (visit visit' : Visit)
    (hstage : visit.stage = .authenticating)
    (h : state.moveAuthenticating desk visit = some (desk', visit')) :
    VisitMoves state desk visit .step desk' visit' := by
  unfold moveAuthenticating at h
  split at h
  · split at h
    · cases h
    · rename_i hall attempt hmove
      cases h
      exact .authenticates attempt hall hstage hmove
  · rename_i panic hleft
    cases h
    exact .panics panic hstage hleft
  · rename_i error hleft
    cases h
    exact .refuses error hstage hleft
  · cases h
  · rename_i route hleft
    cases h
    exact .passes route hstage hleft

theorem moveScreening_moves (desk : Desk) (visit : Visit) (route : AuthRoute)
    (hstage : visit.stage = .screening route) :
    VisitMoves state desk visit .step (state.moveScreening desk visit route).1
      (state.moveScreening desk visit route).2 := by
  unfold moveScreening
  split
  · rename_i hcheck
    exact .rejects route hstage hcheck
  · rename_i message hcheck
    exact .disallows route message hstage hcheck
  · rename_i commands hcheck
    exact .begins route commands hstage hcheck

theorem moveOperating_moves (desk desk' : Desk) (visit visit' : Visit)
    (commands : List RedisCommand) (op : Operation) (act : VisitAct)
    (hstage : visit.stage = .operating commands op)
    (h : moveOperating desk visit commands op act = some (desk', visit')) :
    VisitMoves state desk visit act desk' visit' := by
  unfold moveOperating at h
  split at h
  · cases h
  · rename_i op' hbind
    obtain ⟨opAct, hact, hadvance⟩ := Option.bind_eq_some_iff.mp hbind
    split at h
    · rename_i hpermits
      dsimp only at h
      split at h
      · rename_i outcome hfinished
        cases h
        exact .finishes commands op op' act opAct outcome hstage hact hadvance hpermits hfinished
      · rename_i hphase
        cases h
        refine .operates commands op op' act opAct hstage hact hadvance hpermits ?_
        unfold Operation.isFinished
        split
        · rename_i outcome hfinished
          exact absurd hfinished (hphase outcome)
        · rfl
    · cases h

theorem moveVisit_moves (desk desk' : Desk) (visit visit' : Visit) (act : VisitAct)
    (h : state.moveVisit desk visit act = some (desk', visit')) :
    VisitMoves state desk visit act desk' visit' := by
  unfold moveVisit at h
  split at h
  · rename_i commands op hstage
    exact moveOperating_moves state desk desk' visit visit' commands op act hstage h
  · rename_i hstage
    split at h
    · exact moveAuthenticating_moves state desk desk' visit visit' hstage h
    · cases h
  · rename_i route hstage
    split at h
    · have hmoves := moveScreening_moves state desk visit route hstage
      rw [Option.some.inj h] at hmoves
      exact hmoves
    · cases h
  · rename_i reason error hstage
    split at h
    · cases h
      exact .denies reason error hstage
    · cases h
  · rename_i op outcome closing ended hstage
    split at h
    · cases closing with
      | counting =>
        cases h
        exact .counts op outcome ended hstage
      | falling =>
        cases h
        exact .falls op outcome ended hstage
      | observing =>
        cases h
        exact .observes op outcome ended hstage
    · cases h
  · rename_i value hstage
    split at h
    · cases h
      unfold moveEncoding
      split
      · rename_i response hencode
        exact .replies value response hstage hencode
      · rename_i error hencode
        exact .overflows value error hstage hencode
    · cases h
  · cases h
  · cases h

end AppState

end RedisBridge.App
