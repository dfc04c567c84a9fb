import RedisBridge.AuthRequests
import RedisBridge.EventFraming
import RedisBridge.Utf8Text

/-!
The realtime route. A subscription is opened for a checked channel and then
streams events: one that confirms it, and one for each message received, over
any number of lost connections. An event is the text that is handed to the
writer of the event stream. The channel is checked for what the framing of a
message cannot carry; the payload is not.
-/
namespace RedisBridge.App

open ClientAddress EventFraming Instants IpAddress Responses RustText Security Targets Utf8Text

/-- What the channel of a subscription may not contain. -/
def isDelimiter (c : Char) : Bool := c == ',' || c == '\r' || c == '\n' || c.toNat == 0

def validateChannel (channel : String) (maxBytes : Usize) : Except ApiError Unit :=
  if channel = "" then .error (.badRequest "Realtime channel cannot be empty")
  else if maxBytes.val < (asBytes channel).length then
    .error (.badRequest (s!"Realtime channel is too large. " ++
      s!"Maximum allowed bytes: {maxBytes.val}."))
  else if channel.toList.any isDelimiter then
    .error (.badRequest
      "Realtime channel contains a character unsupported by the Upstash event protocol")
  else .ok ()

/-- How opening the Redis subscription ends. -/
inductive Setup
  | subscribed
  | failed
  | timedOut

/-- A request for a subscription with its decoded body; a body that was rejected
is absent. Of the body only its length is read. -/
structure SubscribeRequest where
  peer : IpAddr
  headers : HeaderMap
  channel : String
  body : Option (List CommandArg)
  clock : Readings

/-- The state that the stream carries along: the channel, whether its Redis
connection is there, and the sleep that the next failed attempt to reconnect
ends in. -/
structure Subscription where
  channel : String
  connected : Bool
  backoff : Duration

namespace AppState

/-- The route up to the start of its stream. A free permit and the end of the
setup come from outside. -/
def subscribe (state : AppState) (crates : Crates) (cells : Cells) (request : SubscribeRequest)
    (permitted : Bool) (setup : Setup) : Step (Except Response Subscription) :=
  let deny (cells : Cells) (reason : String) (error : ApiError) :
      Step (Except Response Subscription) :=
    (.ok (.error error.intoResponse),
      { cells with metrics := cells.metrics.requestDenied "subscribe" reason })
  let clientIp := state.clientIp request.headers request.peer
  (state.realtimeAuth crates cells request.headers clientIp request.clock).andThen
    fun result cells =>
      match result with
      | .error error => deny cells "auth" error
      | .ok _ =>
          match request.body with
          | none => deny cells "invalid_json" (.badRequest "Invalid JSON body")
          | some body =>
              if body ≠ [] then
                deny cells "invalid_body"
                  (.badRequest "Subscription body must be an empty command array")
              else
                match validateChannel request.channel state.security.maxArgBytes with
                | .error error => deny cells "channel" error
                | .ok () =>
                    if permitted = false then
                      deny cells "capacity"
                        (.tooManyRequests "Realtime connection capacity exhausted")
                    else
                      match setup with
                      | .failed =>
                          deny cells "backend" (.unavailable "Redis backend unavailable")
                      | .timedOut =>
                          deny cells "timeout" (.timeout "Redis subscription setup timed out")
                      | .subscribed =>
                          (.ok (.ok ⟨request.channel, true, Duration.fromMillis 250⟩), cells)

end AppState

/-- What happens to an open stream. A message names its channel. -/
inductive Happening
  | message (channel : String) (payload : List UInt8)
  | disconnected
  | reconnected
  | reconnectFailed

namespace Subscription

/-- One turn of the stream, with the text of the event that it yields. -/
def turn (subscription : Subscription) : Happening → Option (Option String × Subscription)
  | .message channel payload =>
      if subscription.connected = true then
        some (some ("message," ++ (channel ++ "," ++ fromUtf8Lossy payload)), subscription)
      else none
  | .disconnected =>
      if subscription.connected = true then some (none, { subscription with connected := false })
      else none
  | .reconnected =>
      if subscription.connected = true then none
      else some (none,
        { subscription with connected := true, backoff := Duration.fromMillis 250 })
  | .reconnectFailed =>
      if subscription.connected = true then none
      else some (none, { subscription with
        backoff := min (subscription.backoff.saturatingMul 2) (Duration.fromSecs 5) })

/-- `sleep(backoff)`, before the backoff doubles: what a turn sleeps. -/
def slept (subscription : Subscription) : Happening → Option Duration
  | .reconnectFailed =>
      if subscription.connected = true then none else some subscription.backoff
  | _ => none

/-- The turns in order, with what they sleep. -/
def sleeps (subscription : Subscription) : List Happening → List Duration
  | [] => []
  | happening :: rest =>
      match subscription.turn happening with
      | none => []
      | some (_, next) => (subscription.slept happening).toList ++ next.sleeps rest

/-- The turns in order, with the texts of all events that they yield. -/
def turns (subscription : Subscription) : List Happening → Option (List String × Subscription)
  | [] => some ([], subscription)
  | happening :: rest =>
      match subscription.turn happening with
      | none => none
      | some (event, next) =>
          match next.turns rest with
          | none => none
          | some (events, last) => some (event.toList ++ events, last)

/-- The texts of the stream: the confirmation first. -/
def stream (subscription : Subscription) (happenings : List Happening) :
    Option (List String) :=
  (subscription.turns happenings).map
    (fun run => ("subscribe," ++ (subscription.channel ++ "," ++ "1")) :: run.1)

end Subscription

/-- The messages among what happens, with their channels. -/
def received (happenings : List Happening) : List (String × List UInt8) :=
  happenings.filterMap fun
    | .message channel payload => some (channel, payload)
    | _ => none

end RedisBridge.App
