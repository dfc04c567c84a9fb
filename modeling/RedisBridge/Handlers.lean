import RedisBridge.AuthRequests
import RedisBridge.RedisExecution

/-!
The command routes. Each authenticates the request, looks at its body, checks
every command against the policy under the route's capabilities and hands the
accepted commands to the route's target; the first step that fails answers the
request. The three routes differ in their body, their labels and their executor.
-/
namespace RedisBridge.App

open ClientAddress IpAddress Responses RustText Security Targets TokenType

/-- A request with its decoded body; a body that was rejected is absent. -/
structure Request (β : Type) where
  peer : IpAddr
  headers : HeaderMap
  body : Option β
  clock : Readings

/-- What a request comes to: its response, unless the client went away, and what
was handed to Redis. -/
structure Answer where
  response : Option Response
  handed : List Handover

/-- What sets a command route apart: the labels of its route and of its policy
rejections, its kind of packet, the policy check of its body, the commands of a
checked body, and its executor with the schedule of the operation. The executor
hands over those commands to the target it is given, or nothing. -/
structure CommandRoute (β γ ρ : Type) where
  route : String
  deniedKind : String
  kind : PacketKind
  parse : SecurityPolicy → β → TokenCaps → Except String γ
  commands : γ → List RedisCommand
  execute : ℕ → γ → Execution ρ
  encode : ρ → Bool → Serialization
  sends : ∀ target checked, (execute target checked).handed = [] ∨
    (execute target checked).handed = [⟨target, ⟨kind, commands checked⟩⟩]

namespace AppState

def denyRequest (cells : Cells) (route reason : String) : Cells :=
  { cells with metrics := cells.metrics.requestDenied route reason }

def targetId (state : AppState) (target : ℕ) : String :=
  ((state.targets[target]?).map Redis.rrbId).getD ""

def responseOrDenied (cells : Cells) (route : String) (result : Except ResponseError Response) :
    Response × Cells :=
  match result with
  | .ok response => (response, cells)
  | .error error => (error.intoApiError.intoResponse, denyRequest cells route error.metricReason)

end AppState

variable {β γ ρ : Type}

namespace CommandRoute

/-- The end of an operation, as a response. -/
def finish (spec : CommandRoute β γ ρ) (state : AppState) (cells : Cells) (base64Encoding : Bool)
    (execution : Execution ρ) : Answer × Cells :=
  match execution.ended with
  | .dropped => (⟨none, execution.handed⟩, cells)
  | .timedOut =>
      (⟨some (ApiError.timeout (timeoutMessage spec.kind)).intoResponse, execution.handed⟩, cells)
  | .ready (.error error) => (⟨some error.intoResponse, execution.handed⟩, cells)
  | .ready (.ok value) =>
      let result := AppState.responseOrDenied cells spec.route
        (serializedResponse .ok (spec.encode value base64Encoding) state.maxResponseBytes)
      (⟨some result.1, execution.handed⟩, result.2)

/-- The operation of checked commands, counted from its begin to its end. -/
def perform (spec : CommandRoute β γ ρ) (state : AppState) (cells : Cells)
    (base64Encoding : Bool) (target : ℕ) (checked : γ) : Answer × Cells :=
  let execution := spec.execute target checked
  let metrics := cells.metrics.beginOperation (state.targetId target) spec.kind.name
  let metrics := metrics.endOperation (state.targetId target) spec.kind.name
    execution.ended.outcome
  spec.finish state { cells with metrics := metrics } base64Encoding execution

/-- A request whose credentials were accepted for a route. -/
def serve (spec : CommandRoute β γ ρ) (state : AppState) (cells : Cells) (request : Request β)
    (route : AuthRoute) : Answer × Cells :=
  match request.body with
  | none =>
      (⟨some (ApiError.badRequest "Invalid JSON body").intoResponse, []⟩,
        AppState.denyRequest cells spec.route "invalid_json")
  | some body =>
      match spec.parse state.security body route.tokenType with
      | .error error =>
          let metrics := cells.metrics.commandDenied (state.targetId route.target) spec.deniedKind
          (⟨some (ApiError.badRequest error).intoResponse, []⟩,
            AppState.denyRequest { cells with metrics := metrics } spec.route "policy")
      | .ok checked =>
          spec.perform state cells (AppState.base64 request.headers) route.target checked

def handle (spec : CommandRoute β γ ρ) (state : AppState) (crates : Crates) (cells : Cells)
    (request : Request β) : Step Answer :=
  let clientIp := state.clientIp request.headers request.peer
  (state.commandAuth crates cells request.headers clientIp request.clock).andThen
    fun result cells =>
      match result with
      | .error error =>
          (.ok ⟨some error.intoResponse, []⟩, AppState.denyRequest cells spec.route "auth")
      | .ok route =>
          let outcome := spec.serve state cells request route
          (.ok outcome.1, outcome.2)

end CommandRoute

/-! The three routes. -/

/-- What a route meets outside the bridge: the schedule of its operation, and
the serializer of its reply. -/
structure Backend (raw ρ : Type) where
  schedule : Schedule raw
  encode : ρ → Bool → Serialization

variable {Value : Type}

def commandRoute (backend : Backend Value Value) :
    CommandRoute (List CommandArg) RedisCommand Value where
  route := "command"
  deniedKind := "single"
  kind := .command
  parse := SecurityPolicy.parseCommand
  commands := fun command => [command]
  execute := fun target command => executeCommand target command backend.schedule
  encode := backend.encode
  sends := fun target _ => executeOperation_handed target _ backend.schedule _

def pipelineRoute
    (backend : Backend (List (Except RedisError Value)) (List (RedisResponse Value))) :
    CommandRoute (List (List CommandArg)) (List RedisCommand) (List (RedisResponse Value)) where
  route := "pipeline"
  deniedKind := "pipeline"
  kind := .pipeline
  parse := SecurityPolicy.parseCommandList
  commands := id
  execute := fun target commands => executePipeline target commands backend.schedule
  encode := backend.encode
  sends := fun target _ => executeOperation_handed target _ backend.schedule _

def multiExecRoute (backend : Backend (List Value) (List Value)) :
    CommandRoute (List (List CommandArg)) (List RedisCommand) (List Value) where
  route := "multi_exec"
  deniedKind := "multi_exec"
  kind := .multiExec
  parse := SecurityPolicy.parseCommandList
  commands := id
  execute := fun target commands => executeTransaction target commands backend.schedule
  encode := backend.encode
  sends := fun target _ => executeOperation_handed target _ backend.schedule _

def command (state : AppState) (crates : Crates) (backend : Backend Value Value) (cells : Cells)
    (request : Request (List CommandArg)) : Step Answer :=
  (commandRoute backend).handle state crates cells request

def pipeline (state : AppState) (crates : Crates)
    (backend : Backend (List (Except RedisError Value)) (List (RedisResponse Value)))
    (cells : Cells) (request : Request (List (List CommandArg))) : Step Answer :=
  (pipelineRoute backend).handle state crates cells request

def multiExec (state : AppState) (crates : Crates) (backend : Backend (List Value) (List Value))
    (cells : Cells) (request : Request (List (List CommandArg))) : Step Answer :=
  (multiExecRoute backend).handle state crates cells request

end RedisBridge.App
