import RedisBridge.Base64
import RedisBridge.Utf8Text

/-!
Redis replies as JSON. Every constructor of a reply decides for itself what it
becomes and whether the base64 flag concerns it. A map becomes an object when
all its keys have a text and the texts are distinct, and a tagged list of pairs
otherwise. JSON is a tree here; its text is the serializer's.
-/
namespace RedisBridge.Replies

open Base64 RustText Utf8Text

/-- An `f64` by its bits. -/
structure F64 where
  bits : BitVec 64
  deriving DecidableEq

namespace F64

def isFinite (value : F64) : Bool := value.bits.extractLsb' 52 11 != BitVec.allOnes 11

/-- `to_string` of an infinity or a NaN. -/
def nonFiniteText (value : F64) : String :=
  if value.bits.extractLsb' 0 52 ≠ 0 then "NaN"
  else if value.bits.msb then "-inf" else "inf"

end F64

/-- `redis::Value`. Formats, kinds and errors are held as their texts, which is
all that is read of them; the last constructor is any variant added later. -/
inductive Value
  | nil
  | int (value : ℤ)
  | bulkString (bytes : List UInt8)
  | array (values : List Value)
  | simpleString (value : String)
  | okay
  | map (entries : List (Value × Value))
  | attribute (data : Value) (attributes : List (Value × Value))
  | set (values : List Value)
  | double (value : F64)
  | boolean (value : Bool)
  | verbatimString (format text : String)
  | bigNumber (value : ℤ)
  | push (kind : String) (data : List Value)
  | serverError (error : String)
  | other

inductive Json
  | null
  | bool (value : Bool)
  | int (value : ℤ)
  | float (value : F64)
  | string (value : String)
  | array (items : List Json)
  | object (members : List (String × Json))

/-- The encodings that the serializer takes from elsewhere: base64, and the text
of a finite number. -/
structure Encoders where
  base64 : Codec
  floatText : F64 → String

variable (encoders : Encoders) (base64Encoding : Bool)

def serializeF64 (value : F64) : Json :=
  if value.isFinite then .float value
  else .object [("type", .string "double"), ("value", .string value.nonFiniteText)]

def serializeBytes (bytes : List UInt8) : Json :=
  if base64Encoding then .string (encoders.base64.encode bytes)
  else
    match fromUtf8 bytes with
    | some value => .string value
    | none => .object [("type", .string "binary"), ("encoding", .string "base64"),
        ("value", .string (encoders.base64.encode bytes))]

def serializeString (value : String) : Json :=
  if base64Encoding && value != "OK" then .string (encoders.base64.encode (asBytes value))
  else .string value

def objectKey : Value → Option String
  | .nil => some "null"
  | .int value => some (toString value)
  | .boolean value => some (if value then "true" else "false")
  | .simpleString value =>
      if base64Encoding && value != "OK" then some (encoders.base64.encode (asBytes value))
      else some value
  | .bulkString bytes =>
      if base64Encoding then some (encoders.base64.encode bytes) else fromUtf8 bytes
  | .bigNumber value => some (toString value)
  | .double value => if value.isFinite then some (encoders.floatText value) else none
  | _ => none

/-- The texts of the keys, unless one has none or was seen before. -/
def objectKeysFrom (seen : List String) : List (Value × Value) → Option (List String)
  | [] => some []
  | (key, _) :: rest => do
      let text ← objectKey encoders base64Encoding key
      if text ∈ seen then none
      else
        let keys ← objectKeysFrom (text :: seen) rest
        pure (text :: keys)

def objectKeys (entries : List (Value × Value)) : Option (List String) :=
  objectKeysFrom encoders base64Encoding [] entries

/-- A map of serialized entries, under the texts of its keys or as pairs. -/
def mapJson (keys : Option (List String)) (entries : List (Json × Json)) : Json :=
  match keys with
  | some keys => .object (keys.zip (entries.map Prod.snd))
  | none => .object [("type", .string "map"),
      ("value", .array (entries.map (fun entry => .array [entry.1, entry.2])))]

mutual

def serializeRedis : Value → Json
  | .nil => .null
  | .int value => .int value
  | .bulkString bytes => serializeBytes encoders base64Encoding bytes
  | .array values => .array (serializeArray values)
  | .simpleString value => serializeString encoders base64Encoding value
  | .okay => .string "OK"
  | .map entries =>
      mapJson (objectKeys encoders base64Encoding entries) (serializeEntries entries)
  | .set values => .array (serializeArray values)
  | .double value => serializeF64 value
  | .boolean value => .bool value
  | .bigNumber value => .string (toString value)
  | .attribute data attributes =>
      .object [("type", .string "attribute"), ("data", serializeRedis data),
        ("attributes", mapJson (objectKeys encoders base64Encoding attributes)
          (serializeEntries attributes))]
  | .verbatimString format text =>
      .object [("type", .string "verbatim_string"), ("format", .string format),
        ("value", .string text)]
  | .push kind data =>
      .object [("type", .string "push"), ("kind", .string kind),
        ("data", .array (serializeArray data))]
  | .serverError error =>
      .object [("type", .string "server_error"), ("error", .string error)]
  | .other => .object [("type", .string "unsupported_redis_value")]

def serializeArray : List Value → List Json
  | [] => []
  | value :: rest => serializeRedis value :: serializeArray rest

def serializeEntries : List (Value × Value) → List (Json × Json)
  | [] => []
  | (key, value) :: rest =>
      (serializeRedis key, serializeRedis value) :: serializeEntries rest

end

/-! `redis/response.rs`. -/

/-- The reply of one command. -/
def commandResponse (result : Value) : Json :=
  .object [("result", serializeRedis encoders base64Encoding result)]

/-- One item of a pipeline: its reply or its error. -/
def pipelineItem : Except String Value → Json
  | .ok value => .object [("result", serializeRedis encoders base64Encoding value)]
  | .error error => .object [("error", .string error)]

def pipelineResponse (items : List (Except String Value)) : Json :=
  .array (items.map (pipelineItem encoders base64Encoding))

def transactionResponse (values : List Value) : Json :=
  .array (values.map (commandResponse encoders base64Encoding))

end RedisBridge.Replies
