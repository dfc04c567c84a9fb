import RedisBridge.AppState

/-!
Handing accepted commands to Redis. An operation waits for a permit of its
target, then for a connection, and only then is its packet handed over; the
reply, the request timeout or the end of the client's request close it. What
happens at each wait is decided outside, by a schedule.
-/
namespace RedisBridge.App

open Responses RustText Security

/-! Errors of the client library, `redis/error.rs`. -/

inductive ErrorKind
  | authenticationFailed
  | invalidClientConfig
  | other
  deriving DecidableEq

/-- A Redis error as far as the bridge looks at it. -/
structure RedisError where
  isIoError : Bool
  isConnectionDropped : Bool
  isConnectionRefusal : Bool
  isTimeout : Bool
  kind : ErrorKind
  code : Option String
  display : String
  deriving DecidableEq

def backendUnavailable (error : RedisError) : Bool :=
  error.isIoError || error.isConnectionDropped || error.isConnectionRefusal || error.isTimeout ||
    error.kind == .authenticationFailed || error.kind == .invalidClientConfig ||
    error.code ∈ ["LOADING", "TRYAGAIN", "CLUSTERDOWN", "MASTERDOWN"].map some

def stripResponsePrefix (message : String) : String :=
  (stripLead "ResponseError: " message).getD message

def redisErrorMessage (error : RedisError) : String :=
  let message := stripResponsePrefix error.display
  match error.code with
  | none => message
  | some code =>
      if (stripLead code message).isSome then message
      else
        match splitOnceAt ": " message with
        | some (_, detail) => s!"{code} {detail}"
        | none => s!"{code} {message}"

def redisApiError (error : RedisError) : ApiError :=
  if backendUnavailable error then .unavailable "Redis backend unavailable"
  else .badRequest (redisErrorMessage error)

/-! Operations, `redis/execute.rs`. -/

inductive PacketKind
  | command
  | pipeline
  | multiExec
  deriving DecidableEq

def PacketKind.name : PacketKind → String
  | .command => "command"
  | .pipeline => "pipeline"
  | .multiExec => "multi_exec"

/-- What one operation writes to a connection. -/
structure Packet where
  kind : PacketKind
  commands : List RedisCommand
  deriving DecidableEq

/-- A packet with the target that it was handed to. -/
structure Handover where
  target : ℕ
  packet : Packet
  deriving DecidableEq

/-- How a wait ends: with what was waited for, by the request timeout, or
because the request was dropped. -/
inductive Wait (α : Type)
  | ready (value : α)
  | timedOut
  | dropped

inductive Permit
  | granted
  | saturated
  | closed

/-- The events of one operation: its permit, whether a connection was obtained,
and the answer of Redis. -/
structure Schedule (ρ : Type) where
  permit : Wait Permit
  connection : Wait Bool
  reply : Wait (Except RedisError ρ)

/-- How an operation ended, and what it handed over. -/
structure Execution (ρ : Type) where
  handed : List Handover
  ended : Wait (Except ApiError ρ)

variable {ρ σ : Type}

/-- Up to the hand-over, and from there on, the same timeout holds. -/
def executeOperation (target : ℕ) (packet : Packet) (schedule : Schedule ρ) (convert : ρ → σ) :
    Execution σ :=
  match schedule.permit with
  | .timedOut => ⟨[], .timedOut⟩
  | .dropped => ⟨[], .dropped⟩
  | .ready .saturated =>
      ⟨[], .ready (.error (.tooManyRequests "Redis operation capacity exhausted"))⟩
  | .ready .closed => ⟨[], .ready (.error (.unavailable "Redis backend unavailable"))⟩
  | .ready .granted =>
      match schedule.connection with
      | .timedOut => ⟨[], .timedOut⟩
      | .dropped => ⟨[], .dropped⟩
      | .ready false => ⟨[], .ready (.error (.unavailable "Redis backend unavailable"))⟩
      | .ready true =>
          match schedule.reply with
          | .timedOut => ⟨[⟨target, packet⟩], .timedOut⟩
          | .dropped => ⟨[⟨target, packet⟩], .dropped⟩
          | .ready (.error error) => ⟨[⟨target, packet⟩], .ready (.error (redisApiError error))⟩
          | .ready (.ok value) => ⟨[⟨target, packet⟩], .ready (.ok (convert value))⟩

/-- One answer within a pipeline. -/
inductive RedisResponse (ρ : Type)
  | result (value : ρ)
  | error (message : String)

def pipelineItem : Except RedisError ρ → RedisResponse ρ
  | .ok value => .result value
  | .error error => .error (redisErrorMessage error)

def executeCommand (target : ℕ) (command : RedisCommand) (schedule : Schedule ρ) : Execution ρ :=
  executeOperation target ⟨.command, [command]⟩ schedule id

def executePipeline (target : ℕ) (commands : List RedisCommand)
    (schedule : Schedule (List (Except RedisError ρ))) : Execution (List (RedisResponse ρ)) :=
  executeOperation target ⟨.pipeline, commands⟩ schedule (List.map pipelineItem)

def executeTransaction (target : ℕ) (commands : List RedisCommand)
    (schedule : Schedule (List ρ)) : Execution (List ρ) :=
  executeOperation target ⟨.multiExec, commands⟩ schedule id

/-- The message of the request timeout. -/
def timeoutMessage : PacketKind → String
  | .command => "Redis command timed out"
  | .pipeline => "Redis pipeline timed out"
  | .multiExec => "Redis transaction timed out"

/-- The label under which an operation is counted when it ends. -/
def Wait.outcome : Wait (Except ApiError ρ) → String
  | .ready (.ok _) => "ok"
  | .ready (.error _) => "error"
  | .timedOut => "timeout"
  | .dropped => "cancelled"

/-- An operation hands over nothing, or its own packet to its own target. -/
theorem executeOperation_handed (target : ℕ) (packet : Packet) (schedule : Schedule ρ)
    (convert : ρ → σ) :
    (executeOperation target packet schedule convert).handed = [] ∨
      (executeOperation target packet schedule convert).handed = [⟨target, packet⟩] := by
  unfold executeOperation
  split
  · exact Or.inl rfl
  · exact Or.inl rfl
  · exact Or.inl rfl
  · exact Or.inl rfl
  · split
    · exact Or.inl rfl
    · exact Or.inl rfl
    · exact Or.inl rfl
    · split
      · exact Or.inr rfl
      · exact Or.inr rfl
      · exact Or.inr rfl
      · exact Or.inr rfl

example : redisErrorMessage ⟨false, false, false, false, .other, some "WRONGTYPE",
    "ResponseError: ERR: wrong kind of value"⟩ =
    "WRONGTYPE wrong kind of value" := by decide

end RedisBridge.App
