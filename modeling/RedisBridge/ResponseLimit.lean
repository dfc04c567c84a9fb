import RedisBridge.ReplyEncoding
import RedisBridge.Responses

/-!
The size limit of a response. The serializer writes its text in pieces of any
size, and the writer refuses the first piece that would go past the limit. What
was written before is always the start of the text, so a response is the whole
text or nothing, and nothing exactly when the text is longer than the limit.
-/
namespace RedisBridge.Replies

open Base64 Responses RustText

/-- A value in serde's data model, where a member may be named by any value. -/
inductive Content
  | unit
  | bool (value : Bool)
  | int (value : ℤ)
  | float (value : F64)
  | str (value : String)
  | seq (items : List Content)
  | map (members : List (Content × Content))

/-- Every member of every map is named by a string. -/
inductive StringKeyed : Content → Prop
  | unit : StringKeyed .unit
  | bool (value : Bool) : StringKeyed (.bool value)
  | int (value : ℤ) : StringKeyed (.int value)
  | float (value : F64) : StringKeyed (.float value)
  | str (value : String) : StringKeyed (.str value)
  | seq (items : List Content) (hitems : ∀ item ∈ items, StringKeyed item) :
      StringKeyed (.seq items)
  | map (members : List (Content × Content))
      (hnames : ∀ member ∈ members, ∃ name, member.1 = .str name)
      (hmembers : ∀ member ∈ members, StringKeyed member.2) : StringKeyed (.map members)

mutual

/-- What the serializer is told of a JSON tree. -/
def Json.content : Json → Content
  | .null => .unit
  | .bool value => .bool value
  | .int value => .int value
  | .float value => .float value
  | .string value => .str value
  | .array items => .seq (contentItems items)
  | .object members => .map (contentMembers members)

def contentItems : List Json → List Content
  | [] => []
  | json :: rest => json.content :: contentItems rest

def contentMembers : List (String × Json) → List (Content × Content)
  | [] => []
  | (name, json) :: rest => (.str name, json.content) :: contentMembers rest

end

mutual

theorem stringKeyed_content : ∀ json : Json, StringKeyed json.content
  | .null => .unit
  | .bool value => .bool value
  | .int value => .int value
  | .float value => .float value
  | .string value => .str value
  | .array items => .seq _ (stringKeyed_items items)
  | .object members => .map _ (fun member hmember => (stringKeyed_members members member hmember).1)
      (fun member hmember => (stringKeyed_members members member hmember).2)

theorem stringKeyed_items : ∀ items : List Json, ∀ item ∈ contentItems items, StringKeyed item
  | [] => fun _ h => absurd h List.not_mem_nil
  | json :: rest => List.forall_mem_cons.mpr ⟨stringKeyed_content json, stringKeyed_items rest⟩

theorem stringKeyed_members : ∀ members : List (String × Json),
    ∀ member ∈ contentMembers members, (∃ name, member.1 = .str name) ∧ StringKeyed member.2
  | [] => fun _ h => absurd h List.not_mem_nil
  | (name, json) :: rest => List.forall_mem_cons.mpr
      ⟨⟨⟨name, rfl⟩, stringKeyed_content json⟩, stringKeyed_members rest⟩

end

/-- `serde_json::to_writer`: the text of a value, and how it is handed to a writer.
It fails by itself only where a member is not named by a string. -/
structure JsonWriter where
  text : Content → List UInt8
  toWriter : Content → Serialization
  complete : ∀ content, (toWriter content).fails = false →
    (toWriter content).pieces.flatten = text content
  stringKeyed : ∀ content, StringKeyed content → (toWriter content).fails = false

/-- The replies of the three command routes. -/
inductive Reply
  | command (result : Value)
  | pipeline (items : List (Except String Value))
  | transaction (values : List Value)

def Reply.json (encoders : Encoders) (base64Encoding : Bool) : Reply → Json
  | .command result => commandResponse encoders base64Encoding result
  | .pipeline items => pipelineResponse encoders base64Encoding items
  | .transaction values => transactionResponse encoders base64Encoding values

end RedisBridge.Replies

namespace RedisBridge.Responses

open RustText

namespace LimitBody

/-- What holds of the writer at every point: its body is the start of the text, the
counter is the length of the body and within the limit. -/
structure Sound (limit : LimitBody) (max : Usize) (text : List UInt8) : Prop where
  max_eq : limit.max = max
  body : limit.body <+: text
  written : limit.written = limit.body.length
  within : limit.written ≤ max.val

/-- A piece that fits is written whole, with a counter that still fits its type,
and any other is refused. -/
theorem write_cases (limit : LimitBody) (buf : List UInt8)
    (h : limit.written ≤ limit.max.val) :
    (limit.written + buf.length ≤ limit.max.val ∧
      limit.write buf = (true, { limit with
        written := limit.written + buf.length
        body := limit.body ++ buf })) ∨
    (limit.max.val < limit.written + buf.length ∧
      limit.write buf = (false, { limit with exceeded := true })) := by
  unfold write
  split_ifs with hroom
  · exact Or.inr ⟨by omega, rfl⟩
  · exact Or.inl ⟨by omega, rfl⟩

/-- Pieces that fit together are all written. -/
theorem writeAll_fits (pieces : List (List UInt8)) (limit : LimitBody)
    (h : limit.written + pieces.flatten.length ≤ limit.max.val) :
    limit.writeAll pieces = (true, { limit with
      written := limit.written + pieces.flatten.length
      body := limit.body ++ pieces.flatten }) := by
  induction pieces generalizing limit with
  | nil => simp [writeAll]
  | cons buf rest ih =>
    rw [List.flatten_cons, List.length_append] at h
    rcases limit.write_cases buf (by omega) with ⟨hfits, hwrite⟩ | ⟨hfull, -⟩
    · rw [writeAll, hwrite]
      dsimp only
      rw [ih _ (by dsimp only; omega)]
      simp [Nat.add_assoc]
    · omega

/-- Pieces that do not fit together end in a refusal, which raises the flag. -/
theorem writeAll_exceeds (pieces : List (List UInt8)) (limit : LimitBody)
    (hwithin : limit.written ≤ limit.max.val)
    (h : limit.max.val < limit.written + pieces.flatten.length) :
    (limit.writeAll pieces).1 = false ∧ (limit.writeAll pieces).2.exceeded = true := by
  induction pieces generalizing limit with
  | nil =>
    rw [List.flatten_nil, List.length_nil] at h
    omega
  | cons buf rest ih =>
    rw [List.flatten_cons, List.length_append] at h
    rcases limit.write_cases buf hwithin with ⟨hfits, hwrite⟩ | ⟨-, hwrite⟩
    · rw [writeAll, hwrite]
      exact ih _ hfits (by dsimp only; omega)
    · rw [writeAll, hwrite]
      exact ⟨rfl, rfl⟩

/-- Whatever was written so far is the start of the text. -/
theorem writeAll_sound (pieces : List (List UInt8)) (late : List UInt8) (limit : LimitBody)
    (max : Usize) (h : limit.Sound max (limit.body ++ pieces.flatten ++ late)) :
    (limit.writeAll pieces).2.Sound max (limit.body ++ pieces.flatten ++ late) := by
  induction pieces generalizing limit with
  | nil => exact h
  | cons buf rest ih =>
    obtain ⟨hmax, hbody, hwritten, hwithin⟩ := h
    rcases limit.write_cases buf (by rw [hmax]; exact hwithin) with ⟨hfits, hwrite⟩ | ⟨-, hwrite⟩
    · rw [writeAll, hwrite]
      dsimp only
      have htext : limit.body ++ (buf :: rest).flatten ++ late =
          limit.body ++ buf ++ rest.flatten ++ late := by
        simp
      rw [htext]
      apply ih { limit with
        written := limit.written + buf.length
        body := limit.body ++ buf }
      refine ⟨hmax, ?_, ?_, ?_⟩
      · exact ⟨rest.flatten ++ late, by simp⟩
      · rw [List.length_append, ← hwritten]
      · rw [← hmax]
        exact hfits
    · rw [writeAll, hwrite]
      exact ⟨hmax, hbody, hwritten, hwithin⟩

end LimitBody

end RedisBridge.Responses

namespace RedisBridge.Replies

open Base64 Responses RustText

/-- The limit is exact for every reply. The response is the whole text where that
is within the limit, and `TooLarge` everywhere else; the writer holds the start of
the text at every point, counted without overflow. -/
theorem limit_exact (writer : JsonWriter) (encoders : Encoders) (base64Encoding : Bool)
    (reply : Reply) (status : StatusCode) (max : Usize) :
    (∀ response, serializedResponse status
        (writer.toWriter (reply.json encoders base64Encoding).content) max = .ok response ↔
      (writer.text (reply.json encoders base64Encoding).content).length ≤ max.val ∧
        response = ⟨status, "application/json",
          .bytes (writer.text (reply.json encoders base64Encoding).content)⟩) ∧
    (max.val < (writer.text (reply.json encoders base64Encoding).content).length →
      serializedResponse status
        (writer.toWriter (reply.json encoders base64Encoding).content) max =
          .error (.tooLarge max)) ∧
    ∀ early late, (writer.toWriter (reply.json encoders base64Encoding).content).pieces =
        early ++ late →
      ((LimitBody.new max).writeAll early).2.Sound max
        (writer.text (reply.json encoders base64Encoding).content) := by
  generalize hcontent : (reply.json encoders base64Encoding).content = content
  have hkeyed : StringKeyed content := hcontent ▸ stringKeyed_content _
  have hfails := writer.stringKeyed content hkeyed
  have htext := writer.complete content hfails
  have hstart : (LimitBody.new max).written = 0 := rfl
  have hlimit : (LimitBody.new max).max = max := rfl
  have hlarge : max.val < (writer.text content).length →
      serializedResponse status (writer.toWriter content) max = .error (.tooLarge max) := by
    intro hlong
    obtain ⟨hrefused, hflag⟩ := LimitBody.writeAll_exceeds (writer.toWriter content).pieces
      (LimitBody.new max) (Nat.zero_le _) (by rw [htext, hstart, hlimit]; omega)
    rw [serializedResponse, hrefused, hflag]
    rfl
  refine ⟨?_, hlarge, ?_⟩
  · intro response
    by_cases hfits : (writer.text content).length ≤ max.val
    · have hwritten := LimitBody.writeAll_fits (writer.toWriter content).pieces
        (LimitBody.new max) (by rw [htext, hstart, hlimit]; omega)
      have hok : serializedResponse status (writer.toWriter content) max =
          .ok ⟨status, "application/json", .bytes (writer.text content)⟩ := by
        rw [serializedResponse, hwritten, hfails, htext]
        rfl
      rw [hok, Except.ok.injEq, eq_comm]
      exact (and_iff_right hfits).symm
    · rw [hlarge (Nat.lt_of_not_le hfits)]
      constructor
      · intro h
        cases h
      · intro h
        exact absurd h.1 hfits
  · intro early late hpieces
    have hcut : writer.text content = early.flatten ++ late.flatten := by
      rw [← htext, hpieces, List.flatten_append]
    rw [hcut]
    exact LimitBody.writeAll_sound early late.flatten (LimitBody.new max) max
      ⟨rfl, List.nil_prefix, rfl, Nat.zero_le _⟩

/-! The compact writer. -/

def hexDigit (n : UInt8) : UInt8 := if n < 10 then 48 + n else 87 + n

def escapeByte (b : UInt8) : List UInt8 :=
  if b = 34 ∨ b = 92 then [92, b]
  else if b = 8 then [92, 98]
  else if b = 9 then [92, 116]
  else if b = 10 then [92, 110]
  else if b = 12 then [92, 102]
  else if b = 13 then [92, 114]
  else if b < 32 then [92, 117, 48, 48, hexDigit (b / 16), hexDigit (b % 16)]
  else [b]

def comma (first : Bool) : List (List UInt8) := if first then [] else [asBytes ","]

mutual

def compactPieces (floatText : F64 → String) : Content → List (List UInt8)
  | .unit => [asBytes "null"]
  | .bool value => [asBytes (if value then "true" else "false")]
  | .int value => [asBytes (toString value)]
  | .float value => [asBytes (floatText value)]
  | .str value => [[34], (asBytes value).flatMap escapeByte, [34]]
  | .seq items => [[91]] ++ compactItems floatText true items ++ [[93]]
  | .map members => [[123]] ++ compactMembers floatText true members ++ [[125]]

def compactItems (floatText : F64 → String) (first : Bool) : List Content → List (List UInt8)
  | [] => []
  | item :: rest =>
      comma first ++ compactPieces floatText item ++ compactItems floatText false rest

def compactMembers (floatText : F64 → String) (first : Bool) :
    List (Content × Content) → List (List UInt8)
  | [] => []
  | (name, value) :: rest =>
      comma first ++ compactPieces floatText name ++ [asBytes ":"] ++
        compactPieces floatText value ++ compactMembers floatText false rest

end

/-- The writer without spaces, on values whose members are named by strings. -/
def compactWriter (floatText : F64 → String) : JsonWriter where
  text := fun content => (compactPieces floatText content).flatten
  toWriter := fun content => ⟨compactPieces floatText content, false⟩
  complete := fun _ _ => rfl
  stringKeyed := fun _ _ => rfl

/-- A reply of fifteen bytes, under a limit of fifteen and under one of fourteen. -/
theorem limit_exact_boundary :
    serializedResponse .ok ((compactWriter fun _ => "").toWriter
      ((Reply.command (.simpleString "ok")).json ⟨standard, fun _ => ""⟩ false).content) 15 =
        .ok ⟨.ok, "application/json", .bytes (asBytes "\x7b\"result\":\"ok\"\x7d")⟩ ∧
    serializedResponse .ok ((compactWriter fun _ => "").toWriter
      ((Reply.command (.simpleString "ok")).json ⟨standard, fun _ => ""⟩ false).content) 14 =
        .error (.tooLarge 14) := by
  have hlength : ((compactWriter fun _ => "").text ((Reply.command (.simpleString "ok")).json
      ⟨standard, fun _ => ""⟩ false).content).length = 15 := by decide
  constructor
  · refine ((limit_exact (compactWriter fun _ => "") ⟨standard, fun _ => ""⟩ false
      (.command (.simpleString "ok")) .ok 15).1 _).mpr ⟨hlength.le, ?_⟩
    decide
  · refine (limit_exact (compactWriter fun _ => "") ⟨standard, fun _ => ""⟩ false
      (.command (.simpleString "ok")) .ok 14).2.1 ?_
    rw [hlength]
    decide

end RedisBridge.Replies
