import RedisBridge.RustText

/-!
HTTP answers. An error is a status with a message; a Redis reply is serialized
into a body of limited length, by a writer that refuses the first piece that
does not fit.
-/
namespace RedisBridge.Responses

open RustText

inductive StatusCode
  | ok
  | badRequest
  | unauthorized
  | forbidden
  | tooManyRequests
  | badGateway
  | serviceUnavailable
  | gatewayTimeout
  deriving DecidableEq

structure ApiError where
  status : StatusCode
  message : String
  deriving DecidableEq

namespace ApiError

def badRequest (message : String) : ApiError := ⟨.badRequest, message⟩

def unauthorized (message : String) : ApiError := ⟨.unauthorized, message⟩

def forbidden (message : String) : ApiError := ⟨.forbidden, message⟩

def unavailable (message : String) : ApiError := ⟨.serviceUnavailable, message⟩

def timeout (message : String) : ApiError := ⟨.gatewayTimeout, message⟩

def tooManyRequests (message : String) : ApiError := ⟨.tooManyRequests, message⟩

def responseTooLarge (message : String) : ApiError := ⟨.badGateway, message⟩

end ApiError

/-- A body is the JSON object of one error message, or serialized bytes. -/
inductive Body
  | errorObject (message : String)
  | bytes (content : List UInt8)
  deriving DecidableEq

structure Response where
  status : StatusCode
  contentType : String
  body : Body
  deriving DecidableEq

def ApiError.intoResponse (error : ApiError) : Response :=
  ⟨error.status, "application/json", .errorObject error.message⟩

inductive ResponseError
  | tooLarge (maxResponseBytes : Usize)
  | encode
  deriving DecidableEq

namespace ResponseError

def metricReason : ResponseError → String
  | .tooLarge _ => "response_too_large"
  | .encode => "response_encode"

def intoApiError : ResponseError → ApiError
  | .tooLarge maxResponseBytes => .responseTooLarge (s!"Redis response is too large. " ++
      s!"Maximum allowed bytes: {maxResponseBytes.val}.")
  | .encode => .unavailable "Failed to encode Redis response"

end ResponseError

structure LimitBody where
  body : List UInt8
  written : ℕ
  max : Usize
  exceeded : Bool

namespace LimitBody

def new (max : Usize) : LimitBody := ⟨[], 0, max, false⟩

/-- `Write::write`; `false` stands for the error. -/
def write (limit : LimitBody) (buf : List UInt8) : Bool × LimitBody :=
  if limit.max.val - limit.written < buf.length then (false, { limit with exceeded := true })
  else (true, { limit with
    written := limit.written + buf.length
    body := limit.body ++ buf })

/-- Pieces are written until one is refused. -/
def writeAll (limit : LimitBody) : List (List UInt8) → Bool × LimitBody
  | [] => (true, limit)
  | buf :: rest =>
      match limit.write buf with
      | (true, limit) => limit.writeAll rest
      | (false, limit) => (false, limit)

end LimitBody

/-- What a serializer does to its writer: the pieces it writes, and whether it
then fails by itself. -/
structure Serialization where
  pieces : List (List UInt8)
  fails : Bool

def serializedResponse (status : StatusCode) (value : Serialization) (maxResponseBytes : Usize) :
    Except ResponseError Response :=
  let outcome := (LimitBody.new maxResponseBytes).writeAll value.pieces
  if outcome.1 && !value.fails then .ok ⟨status, "application/json", .bytes outcome.2.body⟩
  else if outcome.2.exceeded then .error (.tooLarge maxResponseBytes)
  else .error .encode

example : serializedResponse .ok ⟨[[0x5B], [0x31, 0x5D]], false⟩ 3 =
    .ok ⟨.ok, "application/json", .bytes [0x5B, 0x31, 0x5D]⟩ := by decide

end RedisBridge.Responses
