import RedisBridge.ReplyEncoding

/-!
The two encodings of a scalar reply. A client that asked for base64 decodes every
string other than OK and expects the JSON of the plain mode. A big number is
written as its digits in both modes, and since a decoding is shorter than its
text, the digits never decode to themselves. The modes agree on exactly the
replies without a big number.
-/
namespace RedisBridge.Replies

open Base64 RustText Utf8Text

/-- Replies of texts, numbers and truth values, in arrays and sets of any depth. -/
inductive Scalar : Value → Prop
  | nil : Scalar .nil
  | int (value : ℤ) : Scalar (.int value)
  | bulkString (bytes : List UInt8) (text : String) (htext : fromUtf8 bytes = some text) :
      Scalar (.bulkString bytes)
  | simpleString (value : String) : Scalar (.simpleString value)
  | okay : Scalar .okay
  | boolean (value : Bool) : Scalar (.boolean value)
  | double (value : F64) (hfinite : value.isFinite = true) : Scalar (.double value)
  | bigNumber (value : ℤ) : Scalar (.bigNumber value)
  | array (values : List Value) (hvalues : ∀ value ∈ values, Scalar value) :
      Scalar (.array values)
  | set (values : List Value) (hvalues : ∀ value ∈ values, Scalar value) : Scalar (.set values)

inductive HasBigNumber : Value → Prop
  | bigNumber (value : ℤ) : HasBigNumber (.bigNumber value)
  | array (values : List Value) (value : Value) (hmem : value ∈ values)
      (hbig : HasBigNumber value) : HasBigNumber (.array values)
  | set (values : List Value) (value : Value) (hmem : value ∈ values)
      (hbig : HasBigNumber value) : HasBigNumber (.set values)

/-- What the client makes of a string. -/
def unbase64Text (base64 : Codec) (value : String) : Option String :=
  if value = "OK" then some value else (base64.decode value).bind fromUtf8

mutual

/-- Every string other than OK replaced by its decoding. -/
def unbase64 (base64 : Codec) : Json → Option Json
  | .string value => (unbase64Text base64 value).map .string
  | .array items => (unbase64Items base64 items).map .array
  | .object members => (unbase64Members base64 members).map .object
  | json => some json

def unbase64Items (base64 : Codec) : List Json → Option (List Json)
  | [] => some []
  | json :: rest =>
      match unbase64 base64 json, unbase64Items base64 rest with
      | some item, some items => some (item :: items)
      | _, _ => none

def unbase64Members (base64 : Codec) : List (String × Json) → Option (List (String × Json))
  | [] => some []
  | (name, json) :: rest =>
      match unbase64 base64 json, unbase64Members base64 rest with
      | some item, some members => some ((name, item) :: members)
      | _, _ => none

end

theorem unbase64Text_encode (base64 : Codec) (bytes : List UInt8) :
    unbase64Text base64 (base64.encode bytes) = fromUtf8 bytes := by
  unfold unbase64Text
  rw [if_neg (base64.encode_ne_of_length bytes "OK" (by decide)), base64.decode_encode,
    Option.bind_some]

/-- A decoding is shorter than its text, so only the empty text decodes to itself. -/
theorem decode_ne_self (base64 : Codec) (value : String) (hne : value ≠ "") :
    (base64.decode value).bind fromUtf8 ≠ some value := by
  intro hself
  obtain ⟨bytes, hdecode, htext⟩ := Option.bind_eq_some_iff.mp hself
  have hshort := base64.decode_shortens value bytes hdecode
  have hbytes := (fromUtf8_eq_some bytes value).mp htext
  have hlong := length_le_asBytes value
  rw [hbytes] at hlong
  have hzero : value.toList.length = 0 := by omega
  exact hne (String.toList_eq_nil_iff.mp (List.length_eq_zero_iff.mp hzero))

theorem toString_int_ne_empty (n : ℤ) : toString n ≠ "" := by
  rw [Int.toString_eq_repr, Int.repr_eq_if]
  split
  · exact Nat.repr_ne_empty
  · intro hempty
    have hsign := congrArg String.toList hempty
    rw [String.toList_append] at hsign
    cases hsign

theorem toString_int_ne_okay (n : ℤ) : toString n ≠ "OK" := by
  intro hokay
  have hletter := toString_int_digits n 'O' (by rw [hokay]; decide)
  exact absurd hletter (by decide)

/-- The digits of a number are not what a client reads them as. -/
theorem unbase64_digits (base64 : Codec) (n : ℤ) :
    unbase64Text base64 (toString n) ≠ some (toString n) := by
  unfold unbase64Text
  rw [if_neg (toString_int_ne_okay n)]
  exact decode_ne_self base64 (toString n) (toString_int_ne_empty n)

/-- The client reads the base64 form of a reply as its plain form. -/
def EncodingsAgree (encoders : Encoders) (value : Value) : Prop :=
  unbase64 encoders.base64 (serializeRedis encoders true value) =
    some (serializeRedis encoders false value)

theorem bulkString_agrees (encoders : Encoders) (bytes : List UInt8) (text : String)
    (htext : fromUtf8 bytes = some text) : EncodingsAgree encoders (.bulkString bytes) := by
  have hbase64 : serializeRedis encoders true (.bulkString bytes) =
      .string (encoders.base64.encode bytes) := rfl
  have hplain : serializeRedis encoders false (.bulkString bytes) = .string text := by
    rw [serializeRedis, serializeBytes, if_neg Bool.false_ne_true, htext]
  unfold EncodingsAgree
  rw [hbase64, hplain, unbase64, unbase64Text_encode, htext]
  rfl

theorem okay_agrees (encoders : Encoders) : EncodingsAgree encoders .okay := by
  unfold EncodingsAgree
  rw [serializeRedis, serializeRedis, unbase64, unbase64Text, if_pos rfl]
  rfl

theorem simpleString_agrees (encoders : Encoders) (value : String) :
    EncodingsAgree encoders (.simpleString value) := by
  by_cases hok : value = "OK"
  · rw [hok]
    exact okay_agrees encoders
  · have hbase64 : serializeRedis encoders true (.simpleString value) =
        .string (encoders.base64.encode (asBytes value)) := by
      rw [serializeRedis, serializeString, bne_iff_ne.mpr hok]
      rfl
    have hplain : serializeRedis encoders false (.simpleString value) = .string value := rfl
    unfold EncodingsAgree
    rw [hbase64, hplain, unbase64, unbase64Text_encode, fromUtf8_asBytes]
    rfl

theorem bigNumber_disagrees (encoders : Encoders) (value : ℤ) :
    ¬ EncodingsAgree encoders (.bigNumber value) := by
  intro hagree
  unfold EncodingsAgree at hagree
  rw [serializeRedis, serializeRedis, unbase64] at hagree
  obtain ⟨text, htext, heq⟩ := Option.map_eq_some_iff.mp hagree
  rw [Json.string.inj heq] at htext
  exact unbase64_digits encoders.base64 value htext

/-- The items of an array are read one by one. -/
theorem unbase64Items_serializeArray (encoders : Encoders) (values : List Value) :
    unbase64Items encoders.base64 (serializeArray encoders true values) =
        some (serializeArray encoders false values) ↔
      ∀ value ∈ values, EncodingsAgree encoders value := by
  induction values with
  | nil => exact iff_of_true rfl (fun _ hmem => absurd hmem List.not_mem_nil)
  | cons value rest ih =>
    rw [serializeArray, serializeArray, unbase64Items, List.forall_mem_cons, ← ih]
    unfold EncodingsAgree
    cases unbase64 encoders.base64 (serializeRedis encoders true value) with
    | none => simp
    | some item =>
      cases unbase64Items encoders.base64 (serializeArray encoders true rest) with
      | none => simp
      | some items => simp

theorem array_agrees_iff (encoders : Encoders) (values : List Value) :
    EncodingsAgree encoders (.array values) ↔ ∀ value ∈ values, EncodingsAgree encoders value := by
  rw [← unbase64Items_serializeArray]
  unfold EncodingsAgree
  rw [serializeRedis, serializeRedis, unbase64, Option.map_eq_some_iff]
  constructor
  · intro h
    obtain ⟨items, hitems, heq⟩ := h
    rw [hitems, Json.array.inj heq]
  · intro hitems
    exact ⟨_, hitems, rfl⟩

theorem hasBigNumber_array_iff (values : List Value) :
    HasBigNumber (.array values) ↔ ∃ value ∈ values, HasBigNumber value := by
  constructor
  · rintro (_ | ⟨_, value, hmem, hbig⟩)
    exact ⟨value, hmem, hbig⟩
  · intro h
    obtain ⟨value, hmem, hbig⟩ := h
    exact .array values value hmem hbig

theorem hasBigNumber_set_iff (values : List Value) :
    HasBigNumber (.set values) ↔ ∃ value ∈ values, HasBigNumber value := by
  constructor
  · rintro (_ | _ | ⟨_, value, hmem, hbig⟩)
    exact ⟨value, hmem, hbig⟩
  · intro h
    obtain ⟨value, hmem, hbig⟩ := h
    exact .set values value hmem hbig

/-- The modes agree on the replies that hold no big number. -/
theorem encodings_agree_iff (encoders : Encoders) (value : Value) (hscalar : Scalar value) :
    EncodingsAgree encoders value ↔ ¬ HasBigNumber value := by
  induction hscalar with
  | nil => exact iff_of_true rfl nofun
  | int value => exact iff_of_true rfl nofun
  | bulkString bytes text htext =>
    exact iff_of_true (bulkString_agrees encoders bytes text htext) nofun
  | simpleString value => exact iff_of_true (simpleString_agrees encoders value) nofun
  | okay => exact iff_of_true (okay_agrees encoders) nofun
  | boolean value => exact iff_of_true rfl nofun
  | double value hfinite =>
    have hnumber : serializeF64 value = .float value := if_pos hfinite
    refine iff_of_true ?_ nofun
    unfold EncodingsAgree
    rw [serializeRedis, serializeRedis, hnumber, unbase64]
    all_goals simp
  | bigNumber value =>
    exact iff_of_false (bigNumber_disagrees encoders value) (not_not.mpr (.bigNumber value))
  | array values _ ih =>
    rw [array_agrees_iff, hasBigNumber_array_iff]
    push Not
    exact forall₂_congr ih
  | set values _ ih =>
    have hset : EncodingsAgree encoders (.set values) ↔ EncodingsAgree encoders (.array values) :=
      Iff.rfl
    rw [hset, array_agrees_iff, hasBigNumber_set_iff]
    push Not
    exact forall₂_congr ih

theorem encodings_agree_status :
    EncodingsAgree ⟨standard, fun _ => ""⟩ (.set [.okay, .simpleString "PONG"]) := by
  have hscalar : Scalar (.set [.okay, .simpleString "PONG"]) :=
    .set _ (List.forall_mem_cons.mpr ⟨.okay, List.forall_mem_singleton.mpr (.simpleString "PONG")⟩)
  have hno : ¬ HasBigNumber (.set [.okay, .simpleString "PONG"]) := by
    rw [hasBigNumber_set_iff, List.exists_mem_cons_iff, List.exists_mem_cons_iff]
    rintro (hbig | hbig | ⟨_, hmem, _⟩)
    · nomatch hbig
    · nomatch hbig
    · exact List.not_mem_nil hmem
  exact (encodings_agree_iff ⟨standard, fun _ => ""⟩ _ hscalar).mpr hno

/-- Four digits that are the base64 of a Hebrew point and the digit eight. -/
theorem big_number_garbled :
    Scalar (.bigNumber 1404) ∧
    serializeRedis ⟨standard, fun _ => ""⟩ false (.bigNumber 1404) = .string "1404" ∧
    unbase64 standard (serializeRedis ⟨standard, fun _ => ""⟩ true (.bigNumber 1404)) =
      some (.string (String.ofList [Char.ofNat 0x5CD, '8'])) ∧
    ¬ EncodingsAgree ⟨standard, fun _ => ""⟩ (.bigNumber 1404) := by
  have htext : unbase64Text standard "1404" = some (String.ofList [Char.ofNat 0x5CD, '8']) := by
    have hdecode : standard.decode "1404" = some [0xD7, 0x8D, 0x38] := by decide
    unfold unbase64Text
    rw [if_neg (by decide), hdecode, Option.bind_some, fromUtf8_eq_some]
    decide
  have hbase64 : serializeRedis ⟨standard, fun _ => ""⟩ true (.bigNumber 1404) =
    .string "1404" := rfl
  refine ⟨.bigNumber 1404, rfl, ?_, bigNumber_disagrees _ 1404⟩
  rw [hbase64, unbase64, htext]
  rfl

end RedisBridge.Replies
