import RedisBridge.MapEntries

/-!
Keys against values. The text of a reply as a key is decided apart from its JSON
as a value, and the two agree for every constructor but one: an OK is written as
a string, and has no text as a key. A map with such a key is not written as an
object, whatever its other keys are.
-/
namespace RedisBridge.Replies

open Base64 RustText Utf8Text

/-- The text of a JSON scalar: the content of a string, the literal otherwise. -/
def scalarText (encoders : Encoders) : Json → Option String
  | .null => some "null"
  | .bool value => some (if value then "true" else "false")
  | .int value => some (toString value)
  | .float value => some (encoders.floatText value)
  | .string value => some value
  | .array _ => none
  | .object _ => none

variable (encoders : Encoders) (base64Encoding : Bool)

/-- As a key, a reply has the text of its JSON if that is a scalar, and none
otherwise. -/
def KeyAgrees (key : Value) : Prop :=
  objectKey encoders base64Encoding key =
    scalarText encoders (serializeRedis encoders base64Encoding key)

theorem bulkString_keyAgrees (bytes : List UInt8) :
    KeyAgrees encoders base64Encoding (.bulkString bytes) := by
  unfold KeyAgrees
  rw [serializeRedis, objectKey, serializeBytes]
  split_ifs
  · rfl
  · cases fromUtf8 bytes with
    | none => rfl
    | some value => rfl

theorem simpleString_keyAgrees (value : String) :
    KeyAgrees encoders base64Encoding (.simpleString value) := by
  unfold KeyAgrees
  rw [serializeRedis, objectKey, serializeString]
  split_ifs
  · rfl
  · rfl

theorem double_keyAgrees (value : F64) : KeyAgrees encoders base64Encoding (.double value) := by
  unfold KeyAgrees
  rw [serializeRedis, objectKey, serializeF64]
  split_ifs
  · rfl
  · rfl

theorem map_keyAgrees (entries : List (Value × Value)) :
    KeyAgrees encoders base64Encoding (.map entries) := by
  change none = scalarText encoders (serializeMap encoders base64Encoding entries)
  rcases serializeMap_kept encoders base64Encoding entries with
    ⟨members, hjson, -⟩ | ⟨-, -, hjson⟩
  · rw [hjson]
    rfl
  · rw [hjson]
    rfl

theorem okay_not_keyAgrees : ¬KeyAgrees encoders base64Encoding .okay := by
  intro h
  cases h

/-- Only an OK is told apart by its place. -/
theorem keyAgrees_iff (key : Value) : KeyAgrees encoders base64Encoding key ↔ key ≠ .okay := by
  constructor
  · intro h hokay
    rw [hokay] at h
    exact okay_not_keyAgrees encoders base64Encoding h
  · intro hne
    cases key with
    | okay => exact absurd rfl hne
    | bulkString bytes => exact bulkString_keyAgrees encoders base64Encoding bytes
    | simpleString value => exact simpleString_keyAgrees encoders base64Encoding value
    | double value => exact double_keyAgrees encoders base64Encoding value
    | map entries => exact map_keyAgrees encoders base64Encoding entries
    | _ => rfl

/-- The texts of the keys where all of them are written as scalars. -/
theorem objectKeys_iff_texts (entries : List (Value × Value)) (texts : List String)
    (htexts : entries.map (fun entry =>
      scalarText encoders (serializeRedis encoders base64Encoding entry.1)) = texts.map some) :
    (∃ keys, Keyed encoders base64Encoding entries keys) ↔
      (∀ entry ∈ entries, entry.1 ≠ .okay) ∧ texts.Nodup := by
  constructor
  · intro h
    obtain ⟨keys, hkeys, hnodup⟩ := h
    have hno : ∀ entry ∈ entries, entry.1 ≠ .okay := by
      intro entry hentry hokay
      have hmem : objectKey encoders base64Encoding entry.1 ∈ keys.map some := by
        rw [← hkeys]
        exact List.mem_map_of_mem hentry
      rw [hokay] at hmem
      obtain ⟨text, -, htext⟩ := List.mem_map.mp hmem
      cases htext
    refine ⟨hno, ?_⟩
    have hsame : keys.map some = texts.map some := by
      rw [← hkeys, ← htexts]
      exact List.map_congr_left (fun entry hentry =>
        (keyAgrees_iff encoders base64Encoding entry.1).mpr (hno entry hentry))
    rw [← List.map_injective_iff.mpr (Option.some_injective String) hsame]
    exact hnodup
  · intro h
    obtain ⟨hno, hnodup⟩ := h
    refine ⟨texts, ?_, hnodup⟩
    rw [← htexts]
    exact List.map_congr_left (fun entry hentry =>
      (keyAgrees_iff encoders base64Encoding entry.1).mpr (hno entry hentry))

/-- The key path agrees with the value path on exactly the replies other than OK,
and a map of scalar keys is written as an object of their texts exactly when none
of them is an OK and the texts are distinct. -/
theorem key_path_agrees_iff :
    (∀ key, (objectKey encoders base64Encoding key =
        scalarText encoders (serializeRedis encoders base64Encoding key)) ↔ key ≠ .okay) ∧
      ∀ (entries : List (Value × Value)) (texts : List String), entries.map (fun entry =>
          scalarText encoders (serializeRedis encoders base64Encoding entry.1)) = texts.map some →
        ((∃ members, serializeRedis encoders base64Encoding (.map entries) = .object members ∧
          Keyed encoders base64Encoding entries (members.map Prod.fst)) ↔
            (∀ entry ∈ entries, entry.1 ≠ .okay) ∧ texts.Nodup) := by
  refine ⟨keyAgrees_iff encoders base64Encoding, ?_⟩
  intro entries texts htexts
  rw [← objectKeys_iff_texts encoders base64Encoding entries texts htexts]
  constructor
  · intro h
    obtain ⟨members, -, hkeyed⟩ := h
    exact ⟨_, hkeyed⟩
  · intro h
    obtain ⟨keys, hkeyed⟩ := h
    rcases serializeMap_kept encoders base64Encoding entries with
      ⟨members, hjson, -, hmembers, -⟩ | ⟨hnone, -⟩
    · exact ⟨members, hjson, hmembers⟩
    · exact absurd hkeyed (hnone keys)

/-- A map of the keys null, one and PONG is written as an object. -/
theorem key_path_agrees_scalars : ∃ members,
    serializeRedis ⟨standard, fun _ => ""⟩ true
      (.map [(.nil, .int 1), (.int 1, .okay), (.simpleString "PONG", .nil)]) = .object members ∧
    Keyed ⟨standard, fun _ => ""⟩ true
      [(.nil, .int 1), (.int 1, .okay), (.simpleString "PONG", .nil)] (members.map Prod.fst) := by
  refine ((key_path_agrees_iff ⟨standard, fun _ => ""⟩ true).2 _ ["null", "1", "UE9ORw=="] rfl).mpr
    ⟨?_, by decide⟩
  intro entry hentry hokay
  simp only [List.mem_cons, List.not_mem_nil, or_false] at hentry
  rcases hentry with rfl | rfl | rfl
  · cases hokay
  · cases hokay
  · cases hokay

/-- A key OK keeps a map from being an object, where the same text as any other
string does not. -/
theorem okay_key_tagged :
    serializeRedis ⟨standard, fun _ => ""⟩ false .okay = .string "OK" ∧
    objectKey ⟨standard, fun _ => ""⟩ false .okay = none ∧
    serializeRedis ⟨standard, fun _ => ""⟩ false (.map [(.okay, .int 1)]) =
      .object [("type", .string "map"), ("value", .array [.array [.string "OK", .int 1]])] ∧
    serializeRedis ⟨standard, fun _ => ""⟩ false (.map [(.simpleString "OK", .int 1)]) =
      .object [("OK", .int 1)] ∧
    ¬(objectKey ⟨standard, fun _ => ""⟩ false .okay =
      scalarText ⟨standard, fun _ => ""⟩ (serializeRedis ⟨standard, fun _ => ""⟩ false .okay)) :=
  ⟨rfl, rfl, rfl, rfl, okay_not_keyAgrees _ _⟩

end RedisBridge.Replies
