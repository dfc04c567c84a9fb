import RedisBridge.Fallible
import RedisBridge.RustText

/-!
The capabilities of a bearer token, parsed from a comma-separated list. The list
is accepted when each item that is not blank names a capability and there is one
at least; the capabilities are then those that are named.
-/
namespace RedisBridge.TokenType

open Fallible RustText

structure TokenCaps where
  command : Bool
  ratelimit : Bool
  realtime : Bool
  deriving DecidableEq

namespace TokenCaps

/-- The default of a token whose type is not given. -/
def commandOnly : TokenCaps := ⟨true, false, false⟩

def addItem (key : String) (tokenType : TokenCaps) (raw : String) : Except String TokenCaps :=
  let item := toAsciiLowercase (trim raw)
  if item = "" then .ok tokenType
  else if item = "command" then .ok { tokenType with command := true }
  else if item = "ratelimit" then .ok { tokenType with ratelimit := true }
  else if item = "realtime" then .ok { tokenType with realtime := true }
  else .error (s!"{key} contains unsupported token type: {item}. " ++
    "Supported token types: command,ratelimit,realtime")

def parse (value key : String) : Except String TokenCaps :=
  match (split ',' value).foldlM (addItem key) ⟨false, false, false⟩ with
  | .error message => .error message
  | .ok tokenType =>
      if !tokenType.command && !tokenType.ratelimit && !tokenType.realtime then
        .error s!"{key} must include at least one token type"
      else .ok tokenType

def allowsCommand (tokenType : TokenCaps) : Bool := tokenType.command

def allowsRatelimit (tokenType : TokenCaps) : Bool := tokenType.ratelimit

def allowsRealtime (tokenType : TokenCaps) : Bool := tokenType.realtime

def allowsCommandRoute (tokenType : TokenCaps) : Bool :=
  tokenType.command || tokenType.ratelimit || tokenType.realtime

/-- The capabilities that either token has. -/
def union (a b : TokenCaps) : TokenCaps :=
  ⟨a.command || b.command, a.ratelimit || b.ratelimit, a.realtime || b.realtime⟩

def supported : List String := ["command", "ratelimit", "realtime"]

/-- The normal form of an item. -/
def normalItem (raw : String) : String := toAsciiLowercase (trim raw)

/-- The items of a list that are not blank. -/
def items (raws : List String) : List String := (raws.map normalItem).filter (· ≠ "")

/-- The capabilities that items name. -/
def ofItems (items : List String) : TokenCaps :=
  ⟨"command" ∈ items, "ratelimit" ∈ items, "realtime" ∈ items⟩

theorem union_assoc (a b c : TokenCaps) : (a.union b).union c = a.union (b.union c) := by
  simp [union, Bool.or_assoc]

theorem union_none (a : TokenCaps) : a.union (ofItems []) = a := by
  simp [union, ofItems]

theorem union_singleton (a : TokenCaps) (item : String) :
    a.union (ofItems [item]) =
      ⟨a.command || "command" = item, a.ratelimit || "ratelimit" = item,
        a.realtime || "realtime" = item⟩ := by
  simp [union, ofItems]

theorem none_union (a : TokenCaps) : union ⟨false, false, false⟩ a = a := by
  simp [union]

theorem addItem_eq_ok (key raw : String) (tokenType result : TokenCaps) :
    addItem key tokenType raw = .ok result ↔
      (∀ item ∈ items [raw], item ∈ supported) ∧
        result = tokenType.union (ofItems (items [raw])) := by
  have hitems : items [raw] = if normalItem raw = "" then [] else [normalItem raw] := by
    by_cases hblank : normalItem raw = ""
    · simp [items, hblank]
    · simp [items, hblank]
  have hadd : addItem key tokenType raw =
      if normalItem raw = "" then .ok tokenType
      else if normalItem raw = "command" then .ok { tokenType with command := true }
      else if normalItem raw = "ratelimit" then .ok { tokenType with ratelimit := true }
      else if normalItem raw = "realtime" then .ok { tokenType with realtime := true }
      else .error (s!"{key} contains unsupported token type: {normalItem raw}. " ++
        "Supported token types: command,ratelimit,realtime") := rfl
  rw [hitems, hadd]
  generalize normalItem raw = item
  by_cases hblank : item = ""
  · rw [if_pos hblank, if_pos hblank, union_none, Except.ok.injEq, eq_comm (a := result)]
    exact (and_iff_right (fun _ hmem => absurd hmem List.not_mem_nil)).symm
  rw [if_neg hblank, if_neg hblank, List.forall_mem_singleton, union_singleton]
  by_cases hcommand : item = "command"
  · subst hcommand
    rw [if_pos rfl, Except.ok.injEq, eq_comm (a := result)]
    simp [supported]
  by_cases hratelimit : item = "ratelimit"
  · subst hratelimit
    rw [if_neg hcommand, if_pos rfl, Except.ok.injEq, eq_comm (a := result)]
    simp [supported]
  by_cases hrealtime : item = "realtime"
  · subst hrealtime
    rw [if_neg hcommand, if_neg hratelimit, if_pos rfl, Except.ok.injEq, eq_comm (a := result)]
    simp [supported]
  · simp [hcommand, hratelimit, hrealtime, supported]

theorem items_cons (raw : String) (rest : List String) :
    items (raw :: rest) = items [raw] ++ items rest := by
  unfold items
  rw [← List.filter_append, ← List.map_append, List.singleton_append]

theorem ofItems_append (first second : List String) :
    ofItems (first ++ second) = (ofItems first).union (ofItems second) := by
  simp [ofItems, union]

theorem foldlM_addItem_eq_ok (key : String) (raws : List String) (tokenType result : TokenCaps) :
    raws.foldlM (addItem key) tokenType = .ok result ↔
      (∀ item ∈ items raws, item ∈ supported) ∧
        result = tokenType.union (ofItems (items raws)) := by
  induction raws generalizing tokenType with
  | nil =>
    rw [List.foldlM_nil, pure_eq_ok]
    have hnone : tokenType.union (ofItems (items [])) = tokenType := union_none tokenType
    rw [hnone, eq_comm]
    exact (and_iff_right (fun _ hmem => absurd hmem List.not_mem_nil)).symm
  | cons raw rest ih =>
    rw [List.foldlM_cons, bind_eq_ok, items_cons, List.forall_mem_append, ofItems_append,
      ← union_assoc]
    constructor
    · intro h
      obtain ⟨mid, hmid, hrest⟩ := h
      obtain ⟨hraw, rfl⟩ := (addItem_eq_ok key raw tokenType mid).mp hmid
      obtain ⟨hlater, hresult⟩ := (ih _).mp hrest
      exact ⟨⟨hraw, hlater⟩, hresult⟩
    · intro h
      obtain ⟨⟨hraw, hlater⟩, hresult⟩ := h
      exact ⟨_, (addItem_eq_ok key raw tokenType _).mpr ⟨hraw, rfl⟩, (ih _).mpr ⟨hlater, hresult⟩⟩

theorem ofItems_names (items : List String) (hitems : ∀ item ∈ items, item ∈ supported) :
    (ofItems items).allowsCommandRoute = true ↔ items ≠ [] := by
  constructor
  · rintro hnames rfl
    cases hnames
  · intro hne
    obtain ⟨item, hitem⟩ := List.exists_mem_of_ne_nil items hne
    have hname := hitems item hitem
    simp only [supported, List.mem_cons, List.not_mem_nil, or_false] at hname
    rcases hname with rfl | rfl | rfl <;> simp [ofItems, allowsCommandRoute, hitem]

/-- The items of a list name what it grants, and it grants something. -/
theorem parse_eq_ok (value key : String) (tokenType : TokenCaps) :
    parse value key = .ok tokenType ↔
      (∀ item ∈ items (split ',' value), item ∈ supported) ∧ items (split ',' value) ≠ [] ∧
        tokenType = ofItems (items (split ',' value)) := by
  unfold parse
  split
  · next message hfold =>
    constructor
    · intro h
      cases h
    · intro hgiven
      obtain ⟨hitems, -, -⟩ := hgiven
      have hok := (foldlM_addItem_eq_ok key (split ',' value) ⟨false, false, false⟩ _).mpr
        ⟨hitems, rfl⟩
      rw [hfold] at hok
      cases hok
  · next parsed hfold =>
    obtain ⟨hitems, hparsed⟩ := (foldlM_addItem_eq_ok key _ _ parsed).mp hfold
    rw [none_union] at hparsed
    have hnames := ofItems_names _ hitems
    rw [← hparsed] at hnames ⊢
    have hgrants : (!parsed.command && !parsed.ratelimit && !parsed.realtime) =
        !parsed.allowsCommandRoute := by
      rw [allowsCommandRoute, Bool.not_or, Bool.not_or]
    rw [hgrants]
    cases hallows : parsed.allowsCommandRoute with
    | false =>
      rw [Bool.not_false, if_pos rfl]
      constructor
      · intro h
        cases h
      · intro hgiven
        obtain ⟨-, hne, -⟩ := hgiven
        rw [hnames.mpr hne] at hallows
        cases hallows
    | true =>
      rw [Bool.not_true, if_neg Bool.false_ne_true, Except.ok.injEq, eq_comm]
      constructor
      · intro h
        exact ⟨hitems, hnames.mp hallows, h⟩
      · intro hgiven
        obtain ⟨-, -, h⟩ := hgiven
        exact h

example : parse "Command, realtime" "RRB_TOKEN_TYPE" = .ok ⟨true, false, true⟩ := by decide

end TokenCaps

end RedisBridge.TokenType
