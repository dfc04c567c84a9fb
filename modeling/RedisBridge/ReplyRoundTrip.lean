import RedisBridge.ReplyEncoding

/-!
Reading a RESP2 reply back from its JSON. A reply says a tree in which a string
is its bytes, whichever constructor carried it. The two modes share the reading
of nulls, integers and arrays and differ in how a string is written, so one
induction over the reply serves both. The two letters of the unencoded OK are
not four characters, so no encoding is mistaken for them.
-/
namespace RedisBridge.Replies

open Base64 RustText Utf8Text

inductive Tree
  | nil
  | int (value : ℤ)
  | bytes (bytes : List UInt8)
  | array (items : List Tree)

/-- The replies of RESP2, arrays nested to any depth. -/
inductive Resp2 : Value → Prop
  | nil : Resp2 .nil
  | int (value : ℤ) : Resp2 (.int value)
  | bulkString (bytes : List UInt8) : Resp2 (.bulkString bytes)
  | simpleString (value : String) : Resp2 (.simpleString value)
  | okay : Resp2 .okay
  | array (values : List Value) (hvalues : ∀ value ∈ values, Resp2 value) : Resp2 (.array values)

mutual

/-- What a reply says; only RESP2 replies are given a tree. -/
def Value.tree : Value → Option Tree
  | .nil => some .nil
  | .int value => some (.int value)
  | .bulkString bytes => some (.bytes bytes)
  | .simpleString value => some (.bytes (asBytes value))
  | .okay => some (.bytes (asBytes "OK"))
  | .array values => (Value.trees values).map .array
  | _ => none

def Value.trees : List Value → Option (List Tree)
  | [] => some []
  | value :: rest =>
      match value.tree, Value.trees rest with
      | some item, some items => some (item :: items)
      | _, _ => none

end

mutual

/-- A decoder, given how it reads the bytes of a string. -/
def decodeWith (readBytes : Json → Option (List UInt8)) : Json → Option Tree
  | .null => some .nil
  | .int value => some (.int value)
  | .array items => (decodeItems readBytes items).map .array
  | json => (readBytes json).map .bytes

def decodeItems (readBytes : Json → Option (List UInt8)) : List Json → Option (List Tree)
  | [] => some []
  | json :: rest =>
      match decodeWith readBytes json, decodeItems readBytes rest with
      | some item, some items => some (item :: items)
      | _, _ => none

end

/-- A string as it is, or an object tagged as binary. -/
def plainBytes (base64 : Codec) : Json → Option (List UInt8)
  | .string value => some (asBytes value)
  | .object members =>
      match members with
      | [("type", .string "binary"), ("encoding", .string "base64"), ("value", .string value)] =>
          base64.decode value
      | _ => none
  | _ => none

/-- OK, or the decoding of any other string. -/
def base64Bytes (base64 : Codec) : Json → Option (List UInt8)
  | .string value => if value = "OK" then some (asBytes "OK") else base64.decode value
  | _ => none

def decodePlain (base64 : Codec) : Json → Option Tree := decodeWith (plainBytes base64)

def decodeBase64 (base64 : Codec) : Json → Option Tree := decodeWith (base64Bytes base64)

theorem exists_trees (values : List Value)
    (hvalues : ∀ value ∈ values, ∃ tree, value.tree = some tree) :
    ∃ items, Value.trees values = some items := by
  induction values with
  | nil => exact ⟨[], rfl⟩
  | cons value rest ih =>
    obtain ⟨item, hitem⟩ := hvalues value (List.mem_cons_self ..)
    obtain ⟨items, hitems⟩ := ih (fun v hv => hvalues v (List.mem_cons_of_mem _ hv))
    exact ⟨item :: items, by rw [Value.trees, hitem, hitems]⟩

theorem Resp2.exists_tree (value : Value) (hresp : Resp2 value) :
    ∃ tree, value.tree = some tree := by
  induction hresp with
  | nil => exact ⟨_, rfl⟩
  | int value => exact ⟨_, rfl⟩
  | bulkString bytes => exact ⟨_, rfl⟩
  | simpleString value => exact ⟨_, rfl⟩
  | okay => exact ⟨_, rfl⟩
  | array values _ ih =>
    obtain ⟨items, hitems⟩ := exists_trees values ih
    exact ⟨.array items, by rw [Value.tree, hitems]; rfl⟩

section

variable (encoders : Encoders) (base64Encoding : Bool) (readBytes : Json → Option (List UInt8))

/-- Strings that are written in a mode are read as their bytes. -/
structure ReadsStrings : Prop where
  bulk : ∀ bytes, readBytes (serializeBytes encoders base64Encoding bytes) = some bytes
  simple : ∀ value,
    readBytes (serializeString encoders base64Encoding value) = some (asBytes value)

theorem decodeWith_serializeBytes (bytes : List UInt8) :
    decodeWith readBytes (serializeBytes encoders base64Encoding bytes) =
      (readBytes (serializeBytes encoders base64Encoding bytes)).map .bytes := by
  unfold serializeBytes
  split
  · rw [decodeWith]
    all_goals simp
  · split <;> rw [decodeWith] <;> simp

theorem decodeWith_serializeString (value : String) :
    decodeWith readBytes (serializeString encoders base64Encoding value) =
      (readBytes (serializeString encoders base64Encoding value)).map .bytes := by
  unfold serializeString
  split <;> rw [decodeWith] <;> simp

theorem serializeString_okay :
    serializeString encoders base64Encoding "OK" = .string "OK" := by
  unfold serializeString
  rw [bne_self_eq_false, Bool.and_false, if_neg Bool.false_ne_true]

theorem decodeItems_serializeArray (values : List Value)
    (hvalues : ∀ value ∈ values,
      decodeWith readBytes (serializeRedis encoders base64Encoding value) = value.tree) :
    decodeItems readBytes (serializeArray encoders base64Encoding values) =
      Value.trees values := by
  induction values with
  | nil => rfl
  | cons value rest ih =>
    have hhead := hvalues value (List.mem_cons_self ..)
    have htail := ih (fun v hv => hvalues v (List.mem_cons_of_mem _ hv))
    rw [serializeArray, decodeItems, Value.trees, hhead, htail]

variable (hreads : ReadsStrings encoders base64Encoding readBytes)

include hreads

/-- A mode whose strings are read back reads back whole replies. -/
theorem decodeWith_serializeRedis (value : Value) (hresp : Resp2 value) :
    decodeWith readBytes (serializeRedis encoders base64Encoding value) = value.tree := by
  induction hresp with
  | nil => rfl
  | int value => rfl
  | bulkString bytes =>
    rw [serializeRedis, decodeWith_serializeBytes, hreads.bulk]
    rfl
  | simpleString value =>
    rw [serializeRedis, decodeWith_serializeString, hreads.simple]
    rfl
  | okay =>
    rw [serializeRedis, ← serializeString_okay encoders base64Encoding,
      decodeWith_serializeString, hreads.simple]
    rfl
  | array values _ ih =>
    rw [serializeRedis, decodeWith,
      decodeItems_serializeArray encoders base64Encoding readBytes values ih, Value.tree]

end

theorem plain_readsStrings (encoders : Encoders) :
    ReadsStrings encoders false (plainBytes encoders.base64) where
  bulk bytes := by
    unfold serializeBytes
    rw [if_neg Bool.false_ne_true]
    cases htext : fromUtf8 bytes with
    | some value => exact congrArg some ((fromUtf8_eq_some bytes value).mp htext)
    | none => exact encoders.base64.decode_encode bytes
  simple value := rfl

theorem base64Bytes_encode (base64 : Codec) (bytes : List UInt8) :
    base64Bytes base64 (.string (base64.encode bytes)) = some bytes := by
  rw [base64Bytes, if_neg (base64.encode_ne_of_length bytes "OK" (by decide)), base64.decode_encode]

theorem base64_readsStrings (encoders : Encoders) :
    ReadsStrings encoders true (base64Bytes encoders.base64) where
  bulk bytes := base64Bytes_encode encoders.base64 bytes
  simple value := by
    by_cases hok : value = "OK"
    · rw [hok, serializeString_okay]
      rw [base64Bytes, if_pos rfl]
    · have hwritten : serializeString encoders true value =
          .string (encoders.base64.encode (asBytes value)) := by
        unfold serializeString
        rw [bne_iff_ne.mpr hok]
        rfl
      rw [hwritten, base64Bytes_encode]

/-- Both modes give every RESP2 reply back. -/
theorem read_back (encoders : Encoders) (value : Value) (hresp : Resp2 value) :
    ∃ tree, value.tree = some tree ∧
      decodePlain encoders.base64 (serializeRedis encoders false value) = some tree ∧
      decodeBase64 encoders.base64 (serializeRedis encoders true value) = some tree := by
  obtain ⟨tree, htree⟩ := hresp.exists_tree
  have hplain :=
    decodeWith_serializeRedis encoders false _ (plain_readsStrings encoders) value hresp
  have hbase64 :=
    decodeWith_serializeRedis encoders true _ (base64_readsStrings encoders) value hresp
  exact ⟨tree, htree, hplain.trans htree, hbase64.trans htree⟩

/-- Two bytes OK, whether a bulk string or a status, beside bytes that are no text. -/
theorem read_back_okays : ∃ tree,
    Value.tree (.array [.bulkString [0x4F, 0x4B], .array [.okay, .nil], .bulkString [0xFF]]) =
      some tree ∧
    decodePlain standard (serializeRedis ⟨standard, fun _ => ""⟩ false
      (.array [.bulkString [0x4F, 0x4B], .array [.okay, .nil], .bulkString [0xFF]])) =
        some tree ∧
    decodeBase64 standard (serializeRedis ⟨standard, fun _ => ""⟩ true
      (.array [.bulkString [0x4F, 0x4B], .array [.okay, .nil], .bulkString [0xFF]])) =
        some tree := by
  have hinner : Resp2 (.array [.okay, .nil]) :=
    .array _ (List.forall_mem_cons.mpr ⟨.okay, List.forall_mem_singleton.mpr .nil⟩)
  have hresp : Resp2 (.array [.bulkString [0x4F, 0x4B], .array [.okay, .nil],
      .bulkString [0xFF]]) :=
    .array _ (List.forall_mem_cons.mpr ⟨.bulkString _,
      List.forall_mem_cons.mpr ⟨hinner, List.forall_mem_singleton.mpr (.bulkString _)⟩⟩)
  exact read_back ⟨standard, fun _ => ""⟩ _ hresp

end RedisBridge.Replies
