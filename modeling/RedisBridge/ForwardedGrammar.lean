import RedisBridge.AddressText
import RedisBridge.HeaderText

/-!
The grammar of a `Forwarded` field, as its standard has it: elements between commas,
pairs of a name and a value between semicolons, both of which may be missing, and
values that are tokens or quoted strings. Inside quotes commas, semicolons, equals
signs and backslashes are data. The node of a `for` pair is an IPv4 address, or an
IPv6 address in brackets, with an optional port.
-/
namespace RedisBridge.Forwarded

open ClientAddress HeaderText IpAddress RustText

def isTchar (c : Char) : Bool := c.isAlphanum || "!#$%&'*+-.^_`|~".toList.contains c

def isObsText (c : Char) : Bool := 128 ≤ c.toNat && c.toNat ≤ 255

def isQdtext (c : Char) : Bool :=
  c.toNat == 9 || c.toNat == 32 || c.toNat == 33 || (35 ≤ c.toNat && c.toNat ≤ 91) ||
    (93 ≤ c.toNat && c.toNat ≤ 126) || isObsText c

def isEscapable (c : Char) : Bool :=
  c.toNat == 9 || (32 ≤ c.toNat && c.toNat ≤ 126) || isObsText c

/-- Optional white space, spaces and tabs. -/
def isOws (c : Char) : Bool := c == ' ' || c == '\t'

structure Token where
  chars : List Char
  nonempty : chars ≠ []
  tchars : ∀ c ∈ chars, isTchar c = true

/-- A character of a quoted string, as it is or behind a backslash. -/
inductive QuotedChar
  | plain (c : Char) (h : isQdtext c = true)
  | escaped (c : Char) (h : isEscapable c = true)

inductive PairValue
  | token (token : Token)
  | quoted (chars : List QuotedChar)

structure Pair where
  name : Token
  value : PairValue

inductive Separator
  | semicolon
  | comma (before after : List Char) (hbefore : ∀ c ∈ before, isOws c = true)
      (hafter : ∀ c ∈ after, isOws c = true)

/-- A field value: pairs, any of which may be missing, and what stands between them. -/
structure Field where
  first : Option Pair
  rest : List (Separator × Option Pair)

/-! The text of a field. -/

def QuotedChar.text : QuotedChar → List Char
  | .plain c _ => [c]
  | .escaped c _ => ['\\', c]

def PairValue.text : PairValue → List Char
  | .token t => t.chars
  | .quoted chars => '"' :: chars.flatMap QuotedChar.text ++ ['"']

def Pair.text (pair : Pair) : List Char := pair.name.chars ++ '=' :: pair.value.text

def Separator.text : Separator → List Char
  | .semicolon => [';']
  | .comma before after _ _ => before ++ ',' :: after

/-- The text of a pair that may be missing. -/
def slotText : Option Pair → List Char
  | some pair => pair.text
  | none => []

def restText : List (Separator × Option Pair) → List Char
  | [] => []
  | (separator, slot) :: more => separator.text ++ slotText slot ++ restText more

namespace Field

variable (field : Field)

def text : List Char := slotText field.first ++ restText field.rest

/-- A request that carries the field in its header. -/
def headers : HeaderMap := fun name =>
  if name = "forwarded" then some (field.text.map (fun c => UInt8.ofNat c.toNat)) else none

def slots : List (Option Pair) := field.first :: field.rest.map Prod.snd

def pairs : List Pair := field.slots.filterMap id

end Field

/-! What a field says. -/

def QuotedChar.content : QuotedChar → Char
  | .plain c _ => c
  | .escaped c _ => c

/-- The value that a token or a quoted string stands for. -/
def PairValue.content : PairValue → List Char
  | .token t => t.chars
  | .quoted chars => chars.map QuotedChar.content

def isPortChar (c : Char) : Bool := c.isAlphanum || c == '.' || c == '_' || c == '-'

/-- A port is up to five digits, or a name that starts with an underscore. -/
def isPort (port : List Char) : Bool :=
  (1 ≤ port.length && port.length ≤ 5 && port.all Char.isDigit) ||
    (match port with
    | '_' :: name => name ≠ [] && name.all isPortChar
    | _ => false)

def IpAddr.isV4 : IpAddr → Bool
  | .v4 _ => true
  | .v6 _ => false

def IpAddr.isV6 (ip : IpAddr) : Bool := !isV4 ip

/-- What may follow the bracket of an IPv6 address. -/
def isPortTail (tail : List Char) : Bool :=
  match tail with
  | [] => true
  | ':' :: port => isPort port
  | _ => false

/-- The address of a node; none for `unknown`, an obfuscated name or anything else. -/
def nodeAddress (node : List Char) : Option IpAddr :=
  match node with
  | '[' :: rest =>
      (splitOnce (· == ']') (String.ofList rest)).bind (fun parts =>
        if isPortTail parts.2.toList then (parseIpAddr parts.1).filter IpAddr.isV6 else none)
  | _ =>
      match splitOnce (· == ':') (String.ofList node) with
      | none => (parseIpAddr (String.ofList node)).filter IpAddr.isV4
      | some (ip, port) =>
          if isPort port.toList then (parseIpAddr ip).filter IpAddr.isV4 else none

namespace Pair

variable (pair : Pair)

def IsFor : Prop := eqIgnoreAsciiCase (String.ofList pair.name.chars) "for" = true

instance isForDecidable : Decidable pair.IsFor :=
  inferInstanceAs (Decidable (eqIgnoreAsciiCase (String.ofList pair.name.chars) "for" = true))

/-- The address that the pair gives for the client. -/
def forAddress : Option IpAddr := if pair.IsFor then nodeAddress pair.value.content else none

end Pair

/-- The address of the first `for` pair whose node is one. -/
def Field.forAddress (field : Field) : Option IpAddr := field.pairs.findSome? Pair.forAddress

/-! The characters of the text. -/

theorem alphanum_ascii (c : Char) (h : c.isAlphanum = true) : c.toNat < 128 := by
  have hranges : c.isAlphanum = ((decide (c.val ≥ 'A'.val ∧ c.val ≤ 'Z'.val) ||
      (decide (c.val ≥ 'a'.val) && decide (c.val ≤ 'z'.val))) ||
      (decide (c.val ≥ '0'.val) && decide (c.val ≤ '9'.val))) := rfl
  simp only [hranges, Bool.or_eq_true, Bool.and_eq_true, decide_eq_true_eq,
    UInt32.le_iff_toNat_le, ge_iff_le] at h
  have hval : c.toNat = c.val.toNat := rfl
  have hupper : 'Z'.val.toNat = 90 := rfl
  have hlower : 'z'.val.toNat = 122 := rfl
  have hdigit : '9'.val.toNat = 57 := rfl
  omega

theorem tchar_ascii (c : Char) (h : isTchar c = true) : c.toNat < 128 := by
  rw [isTchar, Bool.or_eq_true] at h
  rcases h with hletter | hmark
  · exact alphanum_ascii c hletter
  · have hmarks : "!#$%&'*+-.^_`|~".toList.all (fun c => c.toNat < 128) = true := by decide
    simpa using List.all_eq_true.mp hmarks c (List.contains_iff_mem.mp hmark)

theorem portChar_ascii (c : Char) (h : isPortChar c = true) : c.toNat < 128 := by
  simp only [isPortChar, Bool.or_eq_true, beq_iff_eq] at h
  rcases h with ((hletter | rfl) | rfl) | rfl
  · exact alphanum_ascii c hletter
  · decide
  · decide
  · decide

/-- The characters that end a piece. -/
def isSeparator (c : Char) : Bool := c == ',' || c == ';'

theorem tchar_plain (c : Char) (h : isTchar c = true) :
    isHeaderChar c = true ∧ isWhitespace c = false ∧ isSeparator c = false :=
  of_ascii (fun c => isTchar c = true →
    isHeaderChar c = true ∧ isWhitespace c = false ∧ isSeparator c = false)
    (by decide) c (tchar_ascii c h) h

theorem Token.not_mem (token : Token) (mark : Char) (hmark : isTchar mark = false) :
    mark ∉ token.chars := by
  intro h
  rw [token.tchars mark h] at hmark
  cases hmark

/-- Every character of a field can stand in a header, as text or as other bytes. -/
def InField (c : Char) : Prop := isHeaderChar c = true ∨ isObsText c = true

theorem tchar_inField (c : Char) (h : isTchar c = true) : InField c := Or.inl (tchar_plain c h).1

theorem header_of_visible (c : Char)
    (h : c.toNat = 9 ∨ (32 ≤ c.toNat ∧ c.toNat ≤ 126)) : isHeaderChar c = true := by
  simp only [isHeaderChar, Bool.or_eq_true, Bool.and_eq_true, decide_eq_true_eq, beq_iff_eq]
  omega

theorem quotedChar_inField (quoted : QuotedChar) : ∀ c ∈ quoted.text, InField c := by
  intro c hc
  cases quoted with
  | plain d h =>
    obtain rfl := List.mem_singleton.mp hc
    simp only [isQdtext, Bool.or_eq_true, Bool.and_eq_true, decide_eq_true_eq, beq_iff_eq] at h
    exact h.imp_left (fun hvisible => header_of_visible c (by omega))
  | escaped d h =>
    rcases List.mem_cons.mp hc with rfl | hmem
    · exact Or.inl (by decide)
    · obtain rfl := List.mem_singleton.mp hmem
      simp only [isEscapable, Bool.or_eq_true, Bool.and_eq_true, decide_eq_true_eq, beq_iff_eq] at h
      exact h.imp_left (header_of_visible c)

theorem value_inField (value : PairValue) : ∀ c ∈ value.text, InField c := by
  intro c hc
  cases value with
  | token t => exact tchar_inField c (t.tchars c hc)
  | quoted chars =>
    simp only [PairValue.text, List.cons_append, List.mem_cons, List.mem_append,
      List.mem_flatMap, List.not_mem_nil, or_false] at hc
    rcases hc with rfl | ⟨quoted, _, hmem⟩ | rfl
    · exact Or.inl (by decide)
    · exact quotedChar_inField quoted c hmem
    · exact Or.inl (by decide)

theorem pair_inField (pair : Pair) : ∀ c ∈ pair.text, InField c := by
  intro c hc
  simp only [Pair.text, List.mem_append, List.mem_cons] at hc
  rcases hc with hname | rfl | hvalue
  · exact tchar_inField c (pair.name.tchars c hname)
  · exact Or.inl (by decide)
  · exact value_inField pair.value c hvalue

theorem ows_inField (c : Char) (h : isOws c = true) : isHeaderChar c = true ∧
    isWhitespace c = true ∧ isSeparator c = false := by
  simp only [isOws, Bool.or_eq_true, beq_iff_eq] at h
  rcases h with rfl | rfl
  · decide
  · decide

theorem separator_header (separator : Separator) : ∀ c ∈ separator.text, isHeaderChar c = true := by
  intro c hc
  cases separator with
  | semicolon =>
    obtain rfl := List.mem_singleton.mp hc
    decide
  | comma before after hbefore hafter =>
    simp only [Separator.text, List.mem_append, List.mem_cons] at hc
    rcases hc with hc | rfl | hc
    · exact (ows_inField c (hbefore c hc)).1
    · decide
    · exact (ows_inField c (hafter c hc)).1

end RedisBridge.Forwarded
