import RedisBridge.EffectivePolicy
import RedisBridge.Utf8Text

/-!
The arguments of a command, from the elements of the JSON array to the bytes that
are sent. A string is sent as its bytes, a boolean as its name; a number is first
stored in a word or as a float, and sent as the text that prints it. So an integer
is sent as its digits exactly when a word holds it.
-/
namespace RedisBridge.ArgumentForwarding

open EffectivePolicy Fallible RustText Security TokenType Utf8Text

/-- A number of a JSON text: an integer, by its sign and magnitude, or a number
with a fraction or an exponent. -/
inductive Literal
  | integer (negative : Bool) (magnitude : ℕ)
  | decimal (text : String)
  deriving DecidableEq

inductive Element
  | string (value : String)
  | number (literal : Literal)
  | bool (value : Bool)
  | null
  | array (items : List Element)
  | object (members : List (String × Element))

/-- The untagged `CommandArg`: the first variant that takes the element. -/
def deserialize (readNumber : Literal → Option Number) : Element → Option CommandArg
  | .string value => some (.string value)
  | .number literal => (readNumber literal).map CommandArg.number
  | .bool value => some (.bool value)
  | .null => some .null
  | .array _ => none
  | .object _ => none

/-- The integers that a word holds under their sign. -/
def InWord (negative : Bool) (magnitude : ℕ) : Prop :=
  if negative = true then 1 ≤ magnitude ∧ magnitude ≤ 2 ^ 63 else magnitude < 2 ^ 64

/-- How numbers are read: integers in range are kept in a word, others become
floats, or are refused; a float is printed with a fraction or an exponent. -/
structure StoresNumbers (readNumber : Literal → Option Number) : Prop where
  positive : ∀ value : U64, readNumber (.integer false value.val) = some (.posInt value)
  negative : ∀ value : U64, 1 ≤ value.val → value.val ≤ 2 ^ 63 →
    readNumber (.integer true value.val) = some (.negInt value)
  wide : ∀ sign magnitude number, ¬InWord sign magnitude →
    readNumber (.integer sign magnitude) = some number →
      ∃ printed, number = .float printed ∧ ('.' ∈ printed.toList ∨ 'e' ∈ printed.toList)

/-- The integer that a literal denotes. -/
def integerValue (negative : Bool) (magnitude : ℕ) : ℤ :=
  if negative = true then -(magnitude : ℤ) else magnitude

/-- An integer is held by a word. -/
def FitsWord : Element → Prop
  | .number (.integer negative magnitude) => InWord negative magnitude
  | _ => True

/-- What it takes to forward an element faithfully. -/
def Forwards : Element → List UInt8 → Prop
  | .string value, bytes => bytes = asBytes value
  | .number (.integer negative magnitude), bytes =>
      bytes = asBytes (toString (integerValue negative magnitude))
  | .number (.decimal _), _ => True
  | .bool value, bytes => bytes = asBytes (if value then "true" else "false")
  | _, _ => False

/-- The element is a string, a number or a boolean. -/
def IsScalar : Element → Prop
  | .string _ | .number _ | .bool _ => True
  | _ => False

/-- One argument for each element behind the name, in order and within the limits. -/
structure Faithful (policy : SecurityPolicy) (elements : List Element) (command : RedisCommand) :
    Prop where
  forwarded : List.Forall₂ Forwards (elements.drop 1) command.args
  count : command.args.length ≤ policy.maxCommandArgs.val
  size : ∀ bytes ∈ command.args, bytes.length ≤ policy.maxArgBytes.val

/-! One argument. -/

theorem posInt_text (value : U64) :
    (Number.posInt value).toText = toString (integerValue false value.val) := rfl

theorem negInt_text (value : U64) (h : 1 ≤ value.val) :
    (Number.negInt value).toText = toString (integerValue true value.val) := by
  have hvalue : integerValue true value.val = -(value.val : ℤ) := rfl
  have htext : (Number.negInt value).toText = "-" ++ toString value.val := rfl
  rw [hvalue, htext, Int.toString_eq_repr, Int.repr_eq_if, if_neg (by omega), neg_neg,
    Int.toNat_natCast]
  rfl

/-- The text of an integer has neither a fraction nor an exponent. -/
theorem toString_int_plain (n : ℤ) : '.' ∉ (toString n).toList ∧ 'e' ∉ (toString n).toList := by
  constructor
  · intro h
    exact absurd (toString_int_digits n '.' h) (by decide)
  · intro h
    exact absurd (toString_int_digits n 'e' h) (by decide)

section Arguments

variable (readNumber : Literal → Option Number) (hnumbers : StoresNumbers readNumber)

include hnumbers

/-- An accepted integer is sent as its digits exactly when a word holds it. -/
theorem integer_forwards (negative : Bool) (magnitude : ℕ) (number : Number)
    (hread : readNumber (.integer negative magnitude) = some number) :
    number.toText = toString (integerValue negative magnitude) ↔ InWord negative magnitude := by
  constructor
  · intro htext
    by_contra hwide
    obtain ⟨printed, rfl, hmark⟩ := hnumbers.wide negative magnitude number hwide hread
    obtain ⟨hpoint, hexponent⟩ := toString_int_plain (integerValue negative magnitude)
    rw [← htext] at hpoint hexponent
    exact hmark.elim hpoint hexponent
  · intro hword
    cases negative with
    | false =>
      have hstored := hnumbers.positive ⟨magnitude, hword⟩
      obtain rfl := Option.some.inj (hread.symm.trans hstored)
      exact posInt_text _
    | true =>
      have hbound : magnitude < 2 ^ 64 := Nat.lt_of_le_of_lt hword.2 (by decide)
      have hstored := hnumbers.negative ⟨magnitude, hbound⟩ hword.1 hword.2
      obtain rfl := Option.some.inj (hread.symm.trans hstored)
      exact negInt_text _ hword.1

theorem element_forwards (element : Element) (arg : CommandArg) (bytes : List UInt8)
    (hread : deserialize readNumber element = some arg) (hsent : sentBytes arg = some bytes) :
    IsScalar element ∧ (Forwards element bytes ↔ FitsWord element) := by
  cases element with
  | string value =>
    cases hread
    cases hsent
    exact ⟨trivial, iff_of_true rfl trivial⟩
  | number literal =>
    obtain ⟨number, hnumber, rfl⟩ := Option.map_eq_some_iff.mp hread
    cases hsent
    cases literal with
    | integer negative magnitude =>
      have htext := integer_forwards readNumber hnumbers negative magnitude number hnumber
      refine ⟨trivial, ?_⟩
      rw [FitsWord, ← htext]
      constructor
      · exact asBytes_injective _ _
      · intro h
        rw [h]
        rfl
    | decimal text => exact ⟨trivial, iff_of_true trivial trivial⟩
  | bool value =>
    cases hread
    cases hsent
    exact ⟨trivial, iff_of_true rfl trivial⟩
  | null =>
    cases hread
    cases hsent
  | array items => cases hread
  | object members => cases hread

end Arguments

/-! All arguments of an accepted array. -/

theorem forall₂_forwards (readNumber : Literal → Option Number)
    (hnumbers : StoresNumbers readNumber) (elements : List Element) (args : List CommandArg)
    (sent : List (List UInt8))
    (hread : List.Forall₂ (fun element arg => deserialize readNumber element = some arg)
      elements args)
    (hsent : List.Forall₂ (fun arg bytes => sentBytes arg = some bytes) args sent) :
    (∀ element ∈ elements, IsScalar element) ∧
      (List.Forall₂ Forwards elements sent ↔ ∀ element ∈ elements, FitsWord element) := by
  induction hread generalizing sent with
  | nil =>
    obtain rfl := List.forall₂_nil_left_iff.mp hsent
    exact ⟨fun _ h => absurd h List.not_mem_nil,
      iff_of_true List.Forall₂.nil (fun _ h => absurd h List.not_mem_nil)⟩
  | @cons element arg rest more hhead _ ih =>
    obtain ⟨bytes, others, hbytes, hothers, rfl⟩ := List.forall₂_cons_left_iff.mp hsent
    obtain ⟨hscalar, hforwards⟩ :=
      element_forwards readNumber hnumbers element arg bytes hhead hbytes
    obtain ⟨hscalars, hrest⟩ := ih others hothers
    rw [List.forall_mem_cons, List.forall_mem_cons, List.forall₂_cons, hforwards, hrest]
    exact ⟨⟨hscalar, hscalars⟩, Iff.rfl⟩

/-- For every accepted array: its elements are strings, numbers and booleans, with
one argument for each but the first, within the limits; and the arguments say what
the elements say exactly when every integer among them is held by a word. -/
theorem arguments_forwarded_iff (readNumber : Literal → Option Number)
    (hnumbers : StoresNumbers readNumber) (policy : SecurityPolicy) (tokenType : TokenCaps)
    (elements : List Element) (array : List CommandArg) (command : RedisCommand)
    (hbody : elements.mapM (deserialize readNumber) = some array)
    (haccept : policy.parseCommand array tokenType = .ok command) :
    (∀ element ∈ elements, IsScalar element) ∧
    command.args.length + 1 = elements.length ∧
    command.args.length ≤ policy.maxCommandArgs.val ∧
    (∀ bytes ∈ command.args, bytes.length ≤ policy.maxArgBytes.val) ∧
    (Faithful policy elements command ↔ ∀ element ∈ elements.drop 1, FitsWord element) := by
  obtain ⟨hcommand, _, _, hargs⟩ := (policy.parseCommand_eq_ok _ _ _).mp haccept
  obtain ⟨hlength, _, raw, rest, rfl, _⟩ := (policy.commandName_eq_ok _ _).mp hcommand
  obtain ⟨element, others, hfirst, hothers, rfl⟩ :=
    List.forall₂_cons_right_iff.mp ((mapM_eq_some _ _ _).mp hbody)
  rw [List.drop_one, List.tail_cons, mapM_eq_ok] at hargs
  have hsent := hargs.imp (fun arg bytes h => ((toArgBytes_eq_ok _ arg bytes).mp h).1)
  obtain ⟨hscalars, hforwards⟩ :=
    forall₂_forwards readNumber hnumbers others rest command.args hothers hsent
  have hscalar : IsScalar element := by
    cases element with
    | string value => trivial
    | number literal => trivial
    | bool value => trivial
    | null => cases hfirst
    | array items => cases hfirst
    | object members => cases hfirst
  have hcount : command.args.length ≤ policy.maxCommandArgs.val := by
    have hmax := policy.maxCommandArgs.le_max
    have heq := hargs.length_eq
    rw [List.length_cons] at hlength
    unfold saturatingAdd at hlength
    omega
  have hsize : ∀ bytes ∈ command.args, bytes.length ≤ policy.maxArgBytes.val := by
    intro bytes hbytes
    obtain ⟨arg, _, harg⟩ := exists_left_of_mem hargs bytes hbytes
    exact ((toArgBytes_eq_ok _ arg bytes).mp harg).2
  refine ⟨List.forall_mem_cons.mpr ⟨hscalar, hscalars⟩, ?_, hcount, hsize, ?_⟩
  · rw [List.length_cons, hothers.length_eq, hargs.length_eq]
  · rw [List.drop_one, List.tail_cons, ← hforwards]
    constructor
    · intro h
      exact h.forwarded
    · intro h
      exact ⟨h, hcount, hsize⟩

/-! The floats behind the integers that no word holds. -/

/-- A quotient to the nearest integer, and halfway to the even one. -/
def roundDiv (n unit : ℕ) : ℕ :=
  if unit < 2 * (n % unit) ∨ (2 * (n % unit) = unit ∧ n / unit % 2 = 1) then n / unit + 1
  else n / unit

/-- The nearest number of 53 significant bits. -/
def nearestFloat (n : ℕ) : ℕ := roundDiv n (2 ^ (n.log2 - 52)) * 2 ^ (n.log2 - 52)

/-- The shortest decimal that reads as the float: its digits, and the zeros behind them. -/
def shortestDecimal (value : ℕ) : ℕ × ℕ :=
  let length := (Nat.toDigits 10 value).length
  let ofLength (count : ℕ) : Option (ℕ × ℕ) :=
    let unit := 10 ^ (length - count)
    ([roundDiv value unit, value / unit, value / unit + 1].find?
      (fun digits => nearestFloat (digits * unit) = value)).map
        (fun digits => (digits, length - count))
  ((List.range' 1 17).findSome? ofLength).getD (value, 0)

/-- The text of a float: a digit, its fraction and an exponent, or a zero. -/
def floatText (value : ℕ) : String :=
  if value = 0 then "0.0"
  else
    let digits := Nat.toDigits 10 (shortestDecimal value).1
    let fraction := digits.tail.rdropWhile (· == '0')
    String.ofList (digits.take 1 ++ (if fraction = [] then [] else '.' :: fraction)) ++ "e+" ++
      toString (digits.tail.length + (shortestDecimal value).2)

/-- A number beyond the floats is refused. -/
def readFloat (sign : String) (magnitude : ℕ) : Option Number :=
  if 2 ^ 1024 ≤ nearestFloat magnitude then none
  else some (.float (sign ++ floatText (nearestFloat magnitude)))

def readNumber : Literal → Option Number
  | .integer false magnitude =>
      if h : magnitude < 2 ^ 64 then some (.posInt ⟨magnitude, h⟩) else readFloat "" magnitude
  | .integer true magnitude =>
      if h : 1 ≤ magnitude ∧ magnitude ≤ 2 ^ 63 then
        some (.negInt ⟨magnitude, Nat.lt_of_le_of_lt h.2 (by decide)⟩)
      else readFloat "-" magnitude
  | .decimal text => some (.float text)

theorem mark_mem_floatText (value : ℕ) :
    '.' ∈ (floatText value).toList ∨ 'e' ∈ (floatText value).toList := by
  unfold floatText
  split_ifs
  · exact Or.inl (by decide)
  · right
    rw [String.toList_append, String.toList_append]
    exact List.mem_append_left _ (List.mem_append_right _ (by decide))

theorem readFloat_marked (sign : String) (magnitude : ℕ) (number : Number)
    (h : readFloat sign magnitude = some number) :
    ∃ printed, number = .float printed ∧ ('.' ∈ printed.toList ∨ 'e' ∈ printed.toList) := by
  unfold readFloat at h
  split_ifs at h
  refine ⟨_, (Option.some.inj h).symm, ?_⟩
  rw [String.toList_append, List.mem_append, List.mem_append]
  exact (mark_mem_floatText (nearestFloat magnitude)).imp Or.inr Or.inr

theorem readNumber_stores : StoresNumbers readNumber := by
  refine ⟨fun value => dif_pos value.isLt, fun value hlow hhigh => dif_pos ⟨hlow, hhigh⟩, ?_⟩
  intro negative magnitude number hwide hread
  cases negative with
  | false =>
    have hnot : ¬magnitude < 2 ^ 64 := hwide
    rw [readNumber, dif_neg hnot] at hread
    exact readFloat_marked "" magnitude number hread
  | true =>
    have hnot : ¬(1 ≤ magnitude ∧ magnitude ≤ 2 ^ 63) := hwide
    rw [readNumber, dif_neg hnot] at hread
    exact readFloat_marked "-" magnitude number hread

example : readNumber (.integer true (2 ^ 63 + 1)) = some (.float "-9.223372036854776e+18") := by
  decide +kernel

/-! Two arrays. -/

def setPolicy : SecurityPolicy := ⟨{"SET"}, ∅, 10, 10, 1024⟩

def smallNumbers : List Element :=
  [.string "SET", .string "k", .number (.integer false 42), .number (.integer true 7), .bool true]

/-- `["SET", "k", 42, -7, true]` is sent as it stands. -/
theorem arguments_forwarded_small : ∃ array command,
    smallNumbers.mapM (deserialize readNumber) = some array ∧
      setPolicy.parseCommand array TokenCaps.commandOnly = .ok command ∧
        Faithful setPolicy smallNumbers command := by
  obtain ⟨array, command, hbody, haccept⟩ : ∃ array command,
      smallNumbers.mapM (deserialize readNumber) = some array ∧
        setPolicy.parseCommand array TokenCaps.commandOnly = .ok command := ⟨_, _, rfl, rfl⟩
  refine ⟨array, command, hbody, haccept, ?_⟩
  have hforwarded := arguments_forwarded_iff readNumber readNumber_stores setPolicy
    TokenCaps.commandOnly smallNumbers array command hbody haccept
  apply hforwarded.2.2.2.2.mpr
  intro element helement
  simp only [smallNumbers, List.drop_one, List.tail_cons, List.mem_cons, List.not_mem_nil,
    or_false] at helement
  rcases helement with rfl | rfl | rfl | rfl
  · trivial
  · exact (by decide : 42 < 2 ^ 64)
  · exact (by decide : 1 ≤ 7 ∧ 7 ≤ 2 ^ 63)
  · trivial

def wideNumber : List Element :=
  [.string "SET", .string "k", .number (.integer false (2 ^ 64))]

/-- The integer 18446744073709551616 is sent as `1.8446744073709552e+19`. -/
theorem wide_integer_rounded : ¬∀ (readNumber : Literal → Option Number),
    StoresNumbers readNumber → ∀ (policy : SecurityPolicy) (tokenType : TokenCaps)
      (elements : List Element) (array : List CommandArg) (command : RedisCommand),
      elements.mapM (deserialize readNumber) = some array →
        policy.parseCommand array tokenType = .ok command → Faithful policy elements command := by
  intro h
  have hbody : wideNumber.mapM (deserialize readNumber) =
      some [.string "SET", .string "k", .number (.float "1.8446744073709552e+19")] := by
    decide +kernel
  have haccept : setPolicy.parseCommand
      [.string "SET", .string "k", .number (.float "1.8446744073709552e+19")]
        TokenCaps.commandOnly =
      .ok ⟨"SET", [asBytes "k", asBytes "1.8446744073709552e+19"]⟩ := by decide
  have hfaithful := h readNumber readNumber_stores setPolicy TokenCaps.commandOnly wideNumber _ _
    hbody haccept
  obtain ⟨_, hrest⟩ := List.forall₂_cons.mp hfaithful.forwarded
  obtain ⟨hdigits, _⟩ := List.forall₂_cons.mp hrest
  exact absurd (asBytes_injective _ _ hdigits) (by decide)

end RedisBridge.ArgumentForwarding
