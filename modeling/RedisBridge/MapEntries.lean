import RedisBridge.ReplyEncoding

/-!
The entries of a map in JSON. A map whose keys all have a text, no text twice, is
written as an object with one member for each entry. Every other map is a tagged
list with one pair for each entry. Either way all entries are there, in order,
and no object of a reply has two members of one name.
-/
namespace RedisBridge.Replies

open Base64 RustText Utf8Text

/-- No object has two members of the same name, at any depth. -/
inductive DistinctNames : Json → Prop
  | null : DistinctNames .null
  | bool (value : Bool) : DistinctNames (.bool value)
  | int (value : ℤ) : DistinctNames (.int value)
  | float (value : F64) : DistinctNames (.float value)
  | string (value : String) : DistinctNames (.string value)
  | array (items : List Json) (hitems : ∀ item ∈ items, DistinctNames item) :
      DistinctNames (.array items)
  | object (members : List (String × Json)) (hnames : (members.map Prod.fst).Nodup)
      (hmembers : ∀ member ∈ members, DistinctNames member.2) : DistinctNames (.object members)

/-- A reply within a reply. -/
inductive Part (part : Value) : Value → Prop
  | self : Part part part
  | array (values : List Value) (value : Value) (hmem : value ∈ values)
      (hpart : Part part value) : Part part (.array values)
  | set (values : List Value) (value : Value) (hmem : value ∈ values)
      (hpart : Part part value) : Part part (.set values)
  | mapKey (entries : List (Value × Value)) (entry : Value × Value) (hmem : entry ∈ entries)
      (hpart : Part part entry.1) : Part part (.map entries)
  | mapValue (entries : List (Value × Value)) (entry : Value × Value) (hmem : entry ∈ entries)
      (hpart : Part part entry.2) : Part part (.map entries)
  | attributeData (data : Value) (attributes : List (Value × Value)) (hpart : Part part data) :
      Part part (.attribute data attributes)
  | attributeKey (data : Value) (attributes : List (Value × Value)) (entry : Value × Value)
      (hmem : entry ∈ attributes) (hpart : Part part entry.1) :
      Part part (.attribute data attributes)
  | attributeValue (data : Value) (attributes : List (Value × Value)) (entry : Value × Value)
      (hmem : entry ∈ attributes) (hpart : Part part entry.2) :
      Part part (.attribute data attributes)
  | push (kind : String) (data : List Value) (value : Value) (hmem : value ∈ data)
      (hpart : Part part value) : Part part (.push kind data)

/-- A JSON tree within a JSON tree. -/
inductive Occurs (json : Json) : Json → Prop
  | self : Occurs json json
  | item (items : List Json) (item : Json) (hmem : item ∈ items) (hoccurs : Occurs json item) :
      Occurs json (.array items)
  | member (members : List (String × Json)) (member : String × Json) (hmem : member ∈ members)
      (hoccurs : Occurs json member.2) : Occurs json (.object members)

variable (encoders : Encoders) (base64Encoding : Bool)

/-! The texts of the keys. -/

/-- Every key has a text, and no two keys have the same. -/
def Keyed (entries : List (Value × Value)) (keys : List String) : Prop :=
  entries.map (fun entry => objectKey encoders base64Encoding entry.1) = keys.map some ∧
    keys.Nodup

theorem objectKeysFrom_eq_some (entries : List (Value × Value)) (seen keys : List String) :
    objectKeysFrom encoders base64Encoding seen entries = some keys ↔
      Keyed encoders base64Encoding entries keys ∧ ∀ key ∈ keys, key ∉ seen := by
  induction entries generalizing seen keys with
  | nil =>
    cases keys with
    | nil => simp [objectKeysFrom, Keyed]
    | cons key more => simp [objectKeysFrom, Keyed]
  | cons entry rest ih =>
    obtain ⟨key, value⟩ := entry
    rw [objectKeysFrom]
    cases htext : objectKey encoders base64Encoding key with
    | none =>
      cases keys with
      | nil => simp [Keyed]
      | cons text more => simp [Keyed, htext]
    | some text =>
      simp only [Option.bind_eq_bind, Option.bind_some, Option.pure_def]
      by_cases hseen : text ∈ seen
      · rw [if_pos hseen]
        constructor
        · intro h
          cases h
        · intro h
          obtain ⟨⟨hkeys, -⟩, hfresh⟩ := h
          cases keys with
          | nil => simp at hkeys
          | cons first more =>
            simp only [List.map_cons, htext, List.cons.injEq, Option.some.injEq] at hkeys
            exact absurd (hkeys.1 ▸ hseen) (hfresh first List.mem_cons_self)
      · rw [if_neg hseen, Option.bind_eq_some_iff]
        constructor
        · intro h
          obtain ⟨more, hmore, hkeys⟩ := h
          cases hkeys
          obtain ⟨⟨htexts, hnodup⟩, hfresh⟩ := (ih (text :: seen) more).mp hmore
          simp only [List.mem_cons, not_or] at hfresh
          refine ⟨⟨by simp [htext, htexts], ?_⟩, ?_⟩
          · exact List.nodup_cons.mpr ⟨fun hmem => (hfresh text hmem).1 rfl, hnodup⟩
          · intro other hother
            rcases List.mem_cons.mp hother with rfl | hlater
            · exact hseen
            · exact (hfresh other hlater).2
        · intro h
          obtain ⟨⟨hkeys, hnodup⟩, hfresh⟩ := h
          cases keys with
          | nil => simp at hkeys
          | cons first more =>
            simp only [List.map_cons, htext, List.cons.injEq, Option.some.injEq] at hkeys
            obtain ⟨rfl, htexts⟩ := hkeys
            obtain ⟨hnew, hmore⟩ := List.nodup_cons.mp hnodup
            refine ⟨more, (ih (text :: seen) more).mpr ⟨⟨htexts, hmore⟩, ?_⟩, rfl⟩
            intro other hother hold
            rcases List.mem_cons.mp hold with rfl | hold
            · exact hnew hother
            · exact hfresh other (List.mem_cons_of_mem _ hother) hold

/-- The keys are found exactly when every key has a text and the texts are
distinct. -/
theorem objectKeys_eq_some (entries : List (Value × Value)) (keys : List String) :
    objectKeys encoders base64Encoding entries = some keys ↔
      Keyed encoders base64Encoding entries keys := by
  unfold objectKeys
  rw [objectKeysFrom_eq_some]
  exact and_iff_left (fun _ _ => List.not_mem_nil)

theorem Keyed.length {entries : List (Value × Value)} {keys : List String}
    (h : Keyed encoders base64Encoding entries keys) : keys.length = entries.length := by
  have hlength := congrArg List.length h.1
  rw [List.length_map, List.length_map] at hlength
  exact hlength.symm

theorem serializeEntries_eq (entries : List (Value × Value)) :
    serializeEntries encoders base64Encoding entries = entries.map (fun entry =>
      (serializeRedis encoders base64Encoding entry.1,
        serializeRedis encoders base64Encoding entry.2)) := by
  induction entries with
  | nil => rfl
  | cons entry rest ih =>
    obtain ⟨key, value⟩ := entry
    rw [serializeEntries, ih, List.map_cons]

theorem serializeArray_eq (values : List Value) :
    serializeArray encoders base64Encoding values =
      values.map (serializeRedis encoders base64Encoding) := by
  induction values with
  | nil => rfl
  | cons value rest ih => rw [serializeArray, ih, List.map_cons]

theorem serializeRedis_array (values : List Value) :
    serializeRedis encoders base64Encoding (.array values) =
      .array (values.map (serializeRedis encoders base64Encoding)) := by
  rw [serializeRedis, serializeArray_eq]

theorem serializeRedis_set (values : List Value) :
    serializeRedis encoders base64Encoding (.set values) =
      .array (values.map (serializeRedis encoders base64Encoding)) := by
  rw [serializeRedis, serializeArray_eq]

theorem serializeRedis_push (kind : String) (data : List Value) :
    serializeRedis encoders base64Encoding (.push kind data) =
      .object [("type", .string "push"), ("kind", .string kind),
        ("data", .array (data.map (serializeRedis encoders base64Encoding)))] := by
  rw [serializeRedis, serializeArray_eq]

/-- `serialize_map`. -/
def serializeMap (entries : List (Value × Value)) : Json :=
  mapJson (objectKeys encoders base64Encoding entries)
    (serializeEntries encoders base64Encoding entries)

/-- The pairs of a map that is written as a tagged list. -/
def pairsOf (entries : List (Value × Value)) : List Json :=
  entries.map (fun entry => .array [serializeRedis encoders base64Encoding entry.1,
    serializeRedis encoders base64Encoding entry.2])

/-- All entries in order: members under the texts of their keys where these
identify the keys, and pairs everywhere else. -/
def EntriesKept (entries : List (Value × Value)) (json : Json) : Prop :=
  (∃ members, json = .object members ∧ members.length = entries.length ∧
    Keyed encoders base64Encoding entries (members.map Prod.fst) ∧
    members.map Prod.snd =
      entries.map (fun entry => serializeRedis encoders base64Encoding entry.2)) ∨
  ((∀ keys, ¬Keyed encoders base64Encoding entries keys) ∧
    (pairsOf encoders base64Encoding entries).length = entries.length ∧
    json = .object [("type", .string "map"),
      ("value", .array (pairsOf encoders base64Encoding entries))])

theorem serializeMap_pairs (entries : List (Value × Value))
    (hkeys : objectKeys encoders base64Encoding entries = none) :
    serializeMap encoders base64Encoding entries = .object [("type", .string "map"),
      ("value", .array (pairsOf encoders base64Encoding entries))] := by
  rw [serializeMap, hkeys, serializeEntries_eq, mapJson, List.map_map]
  rfl

theorem serializeMap_object (entries : List (Value × Value)) (keys : List String)
    (hkeys : objectKeys encoders base64Encoding entries = some keys) :
    serializeMap encoders base64Encoding entries = .object (keys.zip
      (entries.map (fun entry => serializeRedis encoders base64Encoding entry.2))) := by
  rw [serializeMap, hkeys, serializeEntries_eq, mapJson, List.map_map]
  rfl

theorem serializeMap_kept (entries : List (Value × Value)) :
    EntriesKept encoders base64Encoding entries (serializeMap encoders base64Encoding entries) := by
  cases hkeys : objectKeys encoders base64Encoding entries with
  | none =>
    right
    refine ⟨?_, List.length_map _, serializeMap_pairs encoders base64Encoding entries hkeys⟩
    intro keys hkeyed
    rw [(objectKeys_eq_some encoders base64Encoding entries keys).mpr hkeyed] at hkeys
    cases hkeys
  | some keys =>
    have hkeyed := (objectKeys_eq_some encoders base64Encoding entries keys).mp hkeys
    have hlength := hkeyed.length
    left
    refine ⟨_, serializeMap_object encoders base64Encoding entries keys hkeys, ?_, ?_, ?_⟩
    · rw [List.length_zip, List.length_map, hlength, Nat.min_self]
    · rw [List.map_fst_zip (by rw [List.length_map, hlength])]
      exact hkeyed
    · rw [List.map_snd_zip (by rw [List.length_map, hlength])]

/-! Names are distinct in every object: the fixed ones by sight, those of a map
because they identify its keys. -/

/-- An object of a type and one more member. -/
theorem distinctNames_pair (tag name : String) (json : Json) (hname : ["type", name].Nodup)
    (hjson : DistinctNames json) :
    DistinctNames (.object [("type", .string tag), (name, json)]) := by
  refine .object _ hname ?_
  simp only [List.forall_mem_cons, List.not_mem_nil, false_implies, implies_true, and_true]
  exact ⟨.string tag, hjson⟩

/-- An object of a type and two more members. -/
theorem distinctNames_triple (tag first second : String) (one two : Json)
    (hnames : ["type", first, second].Nodup) (hone : DistinctNames one)
    (htwo : DistinctNames two) :
    DistinctNames (.object [("type", .string tag), (first, one), (second, two)]) := by
  refine .object _ hnames ?_
  simp only [List.forall_mem_cons, List.not_mem_nil, false_implies, implies_true, and_true]
  exact ⟨.string tag, hone, htwo⟩

/-- A map of entries with distinct names has distinct names. -/
theorem distinctNames_serializeMap (entries : List (Value × Value))
    (hkeys : ∀ entry ∈ entries, DistinctNames (serializeRedis encoders base64Encoding entry.1))
    (hvalues : ∀ entry ∈ entries, DistinctNames (serializeRedis encoders base64Encoding entry.2)) :
    DistinctNames (serializeMap encoders base64Encoding entries) := by
  cases hfound : objectKeys encoders base64Encoding entries with
  | none =>
    rw [serializeMap_pairs encoders base64Encoding entries hfound]
    refine distinctNames_pair "map" "value" _ (by decide) (.array _ ?_)
    intro pair hpair
    obtain ⟨entry, hentry, rfl⟩ := List.mem_map.mp hpair
    refine .array _ ?_
    simp only [List.forall_mem_cons, List.not_mem_nil, false_implies, implies_true, and_true]
    exact ⟨hkeys entry hentry, hvalues entry hentry⟩
  | some keys =>
    have hkeyed := (objectKeys_eq_some encoders base64Encoding entries keys).mp hfound
    rw [serializeMap_object encoders base64Encoding entries keys hfound]
    refine .object _ ?_ ?_
    · rw [List.map_fst_zip (by rw [List.length_map, hkeyed.length])]
      exact hkeyed.2
    · intro member hmember
      obtain ⟨entry, hentry, heq⟩ := List.mem_map.mp (List.of_mem_zip hmember).2
      rw [← heq]
      exact hvalues entry hentry

theorem distinctNames_serializeBytes (bytes : List UInt8) :
    DistinctNames (serializeBytes encoders base64Encoding bytes) := by
  unfold serializeBytes
  split_ifs
  · exact .string _
  · split
    · exact .string _
    · exact distinctNames_triple "binary" "encoding" "value" _ _ (by decide) (.string _) (.string _)

theorem distinctNames_serializeF64 (value : F64) : DistinctNames (serializeF64 value) := by
  unfold serializeF64
  split_ifs
  · exact .float _
  · exact distinctNames_pair "double" "value" _ (by decide) (.string _)

theorem distinctNames_serializeString (value : String) :
    DistinctNames (serializeString encoders base64Encoding value) := by
  unfold serializeString
  split_ifs
  · exact .string _
  · exact .string _

mutual

theorem distinctNames_serializeRedis : ∀ value : Value,
    DistinctNames (serializeRedis encoders base64Encoding value)
  | .nil => .null
  | .int value => .int value
  | .bulkString bytes => distinctNames_serializeBytes encoders base64Encoding bytes
  | .array values => by
      rw [serializeRedis_array]
      exact .array _ (List.forall_mem_map.mpr (distinctNames_values values))
  | .simpleString value => distinctNames_serializeString encoders base64Encoding value
  | .okay => .string "OK"
  | .map entries => distinctNames_serializeMap encoders base64Encoding entries
      (fun entry hentry => (distinctNames_entries entries entry hentry).1)
      (fun entry hentry => (distinctNames_entries entries entry hentry).2)
  | .attribute data attributes => distinctNames_triple "attribute" "data" "attributes" _ _
      (by decide) (distinctNames_serializeRedis data)
      (distinctNames_serializeMap encoders base64Encoding attributes
        (fun entry hentry => (distinctNames_entries attributes entry hentry).1)
        (fun entry hentry => (distinctNames_entries attributes entry hentry).2))
  | .set values => by
      rw [serializeRedis_set]
      exact .array _ (List.forall_mem_map.mpr (distinctNames_values values))
  | .double value => distinctNames_serializeF64 value
  | .boolean value => .bool value
  | .verbatimString format text => distinctNames_triple "verbatim_string" "format" "value" _ _
      (by decide) (.string format) (.string text)
  | .bigNumber value => .string (toString value)
  | .push kind data => by
      rw [serializeRedis_push]
      exact distinctNames_triple "push" "kind" "data" _ _ (by decide) (.string kind)
        (.array _ (List.forall_mem_map.mpr (distinctNames_values data)))
  | .serverError error =>
      distinctNames_pair "server_error" "error" _ (by decide) (.string error)
  | .other => .object _ (List.pairwise_singleton _ "type")
      (fun _ hmember => List.mem_singleton.mp hmember ▸ .string _)

theorem distinctNames_values : ∀ values : List Value, ∀ value ∈ values,
    DistinctNames (serializeRedis encoders base64Encoding value)
  | [] => fun _ h => absurd h List.not_mem_nil
  | value :: rest => List.forall_mem_cons.mpr
      ⟨distinctNames_serializeRedis value, distinctNames_values rest⟩

theorem distinctNames_entries : ∀ entries : List (Value × Value), ∀ entry ∈ entries,
    DistinctNames (serializeRedis encoders base64Encoding entry.1) ∧
      DistinctNames (serializeRedis encoders base64Encoding entry.2)
  | [] => fun _ h => absurd h List.not_mem_nil
  | (key, value) :: rest => List.forall_mem_cons.mpr
      ⟨⟨distinctNames_serializeRedis key, distinctNames_serializeRedis value⟩,
        distinctNames_entries rest⟩

end

/-! Replies within replies are written within. -/

/-- A reply with parts has no text as a key. -/
theorem objectKey_of_part (part value : Value) (hpart : Part part value)
    (hnone : objectKey encoders base64Encoding part = none) :
    objectKey encoders base64Encoding value = none := by
  cases hpart with
  | self => exact hnone
  | _ => rfl

/-- What occurs in a value of a map occurs in the map, and so does what occurs in
a key without a text. -/
theorem occurs_serializeMap (entries : List (Value × Value)) (entry : Value × Value) (json : Json)
    (hentry : entry ∈ entries)
    (h : Occurs json (serializeRedis encoders base64Encoding entry.2) ∨
      (objectKey encoders base64Encoding entry.1 = none ∧
        Occurs json (serializeRedis encoders base64Encoding entry.1))) :
    Occurs json (serializeMap encoders base64Encoding entries) := by
  cases hfound : objectKeys encoders base64Encoding entries with
  | none =>
    rw [serializeMap_pairs encoders base64Encoding entries hfound]
    refine .member _ _ (List.mem_cons_of_mem _ List.mem_cons_self) (.item _ _
      (List.mem_map_of_mem hentry) ?_)
    rcases h with hvalue | ⟨-, hkey⟩
    · exact .item _ _ (List.mem_cons_of_mem _ List.mem_cons_self) hvalue
    · exact .item _ _ List.mem_cons_self hkey
  | some keys =>
    have hkeyed := (objectKeys_eq_some encoders base64Encoding entries keys).mp hfound
    rcases h with hvalue | ⟨hkey, -⟩
    · rw [serializeMap_object encoders base64Encoding entries keys hfound]
      obtain ⟨i, hi⟩ := List.mem_iff_getElem?.mp hentry
      have hlt : i < keys.length := by
        rw [hkeyed.length]
        exact (List.getElem?_eq_some_iff.mp hi).1
      have hkeyAt : keys[i]? = some keys[i] := List.getElem?_eq_getElem hlt
      refine .member _ (keys[i], _) (List.mem_of_getElem? (i := i) ?_) hvalue
      rw [List.getElem?_zip_eq_some]
      exact ⟨hkeyAt, by rw [List.getElem?_map, hi]; rfl⟩
    · have hmem : objectKey encoders base64Encoding entry.1 ∈ keys.map some := by
        rw [← hkeyed.1]
        exact List.mem_map_of_mem hentry
      rw [hkey] at hmem
      obtain ⟨text, -, htext⟩ := List.mem_map.mp hmem
      cases htext

/-- Maps and attributes are written within the JSON of any reply that they are
part of. -/
theorem occurs_of_part (part value : Value) (hpart : Part part value)
    (hnone : objectKey encoders base64Encoding part = none) :
    Occurs (serializeRedis encoders base64Encoding part)
      (serializeRedis encoders base64Encoding value) := by
  induction hpart with
  | self => exact .self
  | array values value hmem _ ih =>
    rw [serializeRedis_array]
    exact .item _ _ (List.mem_map_of_mem hmem) ih
  | set values value hmem _ ih =>
    rw [serializeRedis_set]
    exact .item _ _ (List.mem_map_of_mem hmem) ih
  | mapKey entries entry hmem hpart ih =>
    exact occurs_serializeMap encoders base64Encoding entries entry _ hmem
      (Or.inr ⟨objectKey_of_part encoders base64Encoding part entry.1 hpart hnone, ih⟩)
  | mapValue entries entry hmem _ ih =>
    exact occurs_serializeMap encoders base64Encoding entries entry _ hmem (Or.inl ih)
  | attributeData data attributes _ ih =>
    exact .member _ _ (List.mem_cons_of_mem _ List.mem_cons_self) ih
  | attributeKey data attributes entry hmem hpart ih =>
    refine .member _ _ (List.mem_cons_of_mem _ (List.mem_cons_of_mem _ List.mem_cons_self)) ?_
    exact occurs_serializeMap encoders base64Encoding attributes entry _ hmem
      (Or.inr ⟨objectKey_of_part encoders base64Encoding part entry.1 hpart hnone, ih⟩)
  | attributeValue data attributes entry hmem _ ih =>
    refine .member _ _ (List.mem_cons_of_mem _ (List.mem_cons_of_mem _ List.mem_cons_self)) ?_
    exact occurs_serializeMap encoders base64Encoding attributes entry _ hmem (Or.inl ih)
  | push kind data value hmem _ ih =>
    rw [serializeRedis_push]
    refine .member _ _ (List.mem_cons_of_mem _ (List.mem_cons_of_mem _ List.mem_cons_self)) ?_
    exact .item _ _ (List.mem_map_of_mem hmem) ih

/-- No map loses entries. The JSON of a reply repeats no name in any object. Every
map and every list of attributes is written with all its entries, under the texts of
its keys exactly when these identify them; and what is written of one stands in the
JSON of every reply that has it as a part, at any depth. -/
theorem entries_never_lost (value : Value) :
    DistinctNames (serializeRedis encoders base64Encoding value) ∧
      (∀ entries, Part (.map entries) value →
        EntriesKept encoders base64Encoding entries
          (serializeRedis encoders base64Encoding (.map entries)) ∧
        Occurs (serializeRedis encoders base64Encoding (.map entries))
          (serializeRedis encoders base64Encoding value)) ∧
      ∀ data attributes, Part (.attribute data attributes) value →
        EntriesKept encoders base64Encoding attributes
          (serializeRedis encoders base64Encoding (.map attributes)) ∧
        Occurs (.object [("type", .string "attribute"),
          ("data", serializeRedis encoders base64Encoding data),
          ("attributes", serializeRedis encoders base64Encoding (.map attributes))])
          (serializeRedis encoders base64Encoding value) := by
  refine ⟨distinctNames_serializeRedis encoders base64Encoding value, ?_, ?_⟩
  · intro entries hpart
    exact ⟨serializeMap_kept encoders base64Encoding entries,
      occurs_of_part encoders base64Encoding (.map entries) value hpart rfl⟩
  · intro data attributes hpart
    exact ⟨serializeMap_kept encoders base64Encoding attributes,
      occurs_of_part encoders base64Encoding (.attribute data attributes) value hpart rfl⟩

/-- Two keys with one text. -/
def collidingEntries : List (Value × Value) := [(.int 1, .okay), (.simpleString "1", .nil)]

/-- Keys that collide once they are texts: both entries are kept, as pairs. -/
theorem entries_never_lost_collision :
    EntriesKept ⟨standard, fun _ => ""⟩ false collidingEntries
        (serializeRedis ⟨standard, fun _ => ""⟩ false (.map collidingEntries)) ∧
      Occurs (serializeRedis ⟨standard, fun _ => ""⟩ false (.map collidingEntries))
        (serializeRedis ⟨standard, fun _ => ""⟩ false (.array [.map collidingEntries])) :=
  (entries_never_lost ⟨standard, fun _ => ""⟩ false (.array [.map collidingEntries])).2.1 _
    (.array _ _ List.mem_cons_self .self)

end RedisBridge.Replies
