import Mathlib.Algebra.Order.Ring.Nat
import Mathlib.Data.List.DropRight

/-!
Rust's text operations on Lean strings: Unicode trimming, ASCII case folding,
splitting, UTF-8 length and the integer parser of `FromStr`. Every operation
works on the list of characters, so that equalities of strings reduce to
equalities of lists.
-/
namespace RedisBridge.RustText

/-- `usize` and `u64` of a 64-bit target. -/
abbrev Usize := Fin (2 ^ 64)

abbrev U64 := Fin (2 ^ 64)

abbrev U16 := Fin (2 ^ 16)

instance wordNeZero : NeZero (2 ^ 64) := ⟨by decide⟩

instance portNeZero : NeZero (2 ^ 16) := ⟨by decide⟩

def usizeMax : ℕ := 2 ^ 64 - 1

/-- What holds of every ASCII character by a table. -/
theorem of_ascii (P : Char → Prop) (table : ∀ n : Fin 128, P (Char.ofNat n.val)) (c : Char)
    (h : c.toNat < 128) : P c := by
  have hc := table ⟨c.toNat, h⟩
  rwa [Char.ofNat_toNat] at hc

theorem Usize.le_max (n : Usize) : n.val ≤ usizeMax := by
  have h := n.isLt
  unfold usizeMax
  omega

/-- `usize::saturating_add`. -/
def saturatingAdd (a b : ℕ) : ℕ := min (a + b) usizeMax

/-- `char::is_whitespace`, the Unicode White_Space property. -/
def isWhitespace (c : Char) : Bool :=
  let n := c.toNat
  (0x9 ≤ n && n ≤ 0xD) || n == 0x20 || n == 0x85 || n == 0xA0 || n == 0x1680 ||
    (0x2000 ≤ n && n ≤ 0x200A) || n == 0x2028 || n == 0x2029 || n == 0x202F ||
    n == 0x205F || n == 0x3000

/-- `str::trim_matches`, which drops matching characters at both ends. -/
def trimMatches (p : Char → Bool) (s : String) : String :=
  String.ofList ((s.toList.dropWhile p).rdropWhile p)

/-- `str::trim`. -/
def trim (s : String) : String := trimMatches isWhitespace s

def toAsciiUppercase (s : String) : String := String.ofList (s.toList.map Char.toUpper)

def toAsciiLowercase (s : String) : String := String.ofList (s.toList.map Char.toLower)

def eqIgnoreAsciiCase (a b : String) : Bool := toAsciiLowercase a == toAsciiLowercase b

/-- `str::split` at one character: always at least one piece. -/
def split (sep : Char) (s : String) : List String :=
  (s.toList.splitOn sep).map String.ofList

/-- `str::split_once`: the text before and after the first matching character. -/
def splitOnce (p : Char → Bool) (s : String) : Option (String × String) :=
  match s.toList.dropWhile (fun c => !p c) with
  | [] => none
  | _ :: rest => some (String.ofList (s.toList.takeWhile (fun c => !p c)), String.ofList rest)

/-- `str::rsplit_once`: the text before and after the last matching character. -/
def rsplitOnce (p : Char → Bool) (s : String) : Option (String × String) :=
  match s.toList.reverse.dropWhile (fun c => !p c) with
  | [] => none
  | _ :: rest =>
      some (String.ofList rest.reverse, String.ofList (s.toList.rtakeWhile (fun c => !p c)))

/-- `str::strip_prefix` with a text. -/
def stripLead (lead s : String) : Option String :=
  if lead.toList.isPrefixOf s.toList then some (String.ofList (s.toList.drop lead.toList.length))
  else none

/-- The characters before and after the first occurrence of a separator. -/
def cutAt (sep : List Char) : List Char → Option (List Char × List Char)
  | [] => none
  | c :: rest =>
      if sep.isPrefixOf (c :: rest) then some ([], (c :: rest).drop sep.length)
      else (cutAt sep rest).map (fun parts => (c :: parts.1, parts.2))

/-- `str::split_once` at a text. -/
def splitOnceAt (sep s : String) : Option (String × String) :=
  (cutAt sep.toList s.toList).map (fun parts => (String.ofList parts.1, String.ofList parts.2))

/-- The UTF-8 bytes of a text, `str::as_bytes`. -/
def asBytes (s : String) : List UInt8 := s.toUTF8.data.toList

theorem size_utf8Encode (chars : List Char) :
    chars.utf8Encode.size = (chars.map Char.utf8Size).sum := by
  induction chars with
  | nil => rfl
  | cons c rest ih =>
    rw [List.utf8Encode_cons, ByteArray.size_append, List.utf8Encode_singleton,
      List.size_toByteArray, String.length_utf8EncodeChar, List.map_cons, List.sum_cons, ih]

/-- A text has the bytes of its characters. -/
theorem length_asBytes (s : String) :
    (asBytes s).length = (s.toList.map Char.utf8Size).sum := by
  have hsize := size_utf8Encode s.toList
  rw [String.utf8Encode_toList] at hsize
  exact hsize

/-- `char::to_digit` for a radix up to 36. -/
def toDigit (radix : ℕ) (c : Char) : Option ℕ :=
  let n := c.toNat
  let value :=
    if 48 ≤ n ∧ n ≤ 57 then some (n - 48)
    else if 97 ≤ n ∧ n ≤ 122 then some (n - 97 + 10)
    else if 65 ≤ n ∧ n ≤ 90 then some (n - 65 + 10)
    else none
  value.filter (fun d => d < radix)

def digitsValue (radix : ℕ) (digits : List ℕ) : ℕ :=
  digits.foldl (fun acc d => acc * radix + d) 0

/-- The unsigned integer parser of `FromStr`: one optional plus sign, then at
least one ASCII digit, and a value that fits the type. -/
def parseUnsigned (bound : ℕ) (s : String) : Option (Fin bound) :=
  let body := match s.toList with
    | '+' :: rest => rest
    | cs => cs
  if body = [] then none
  else
    match body.mapM (toDigit 10) with
    | none => none
    | some digits =>
        if h : digitsValue 10 digits < bound then some ⟨digitsValue 10 digits, h⟩ else none

/-- The text of an integer has digits, and a sign. -/
theorem toString_int_digits (n : ℤ) (c : Char) (hc : c ∈ (toString n).toList) :
    c.isDigit = true ∨ c = '-' := by
  rw [Int.toString_eq_repr, Int.repr_eq_if] at hc
  split at hc
  · rw [Nat.toList_repr] at hc
    exact .inl (Nat.isDigit_of_mem_toDigits (by decide) (le_refl 10) hc)
  · rw [String.toList_append, Nat.toList_repr, List.mem_append] at hc
    rcases hc with hsign | hc
    · exact .inr (List.mem_singleton.mp hsign)
    · exact .inl (Nat.isDigit_of_mem_toDigits (by decide) (le_refl 10) hc)

/-- Trimming and ASCII upper case, the normal form of a command name. -/
def normalise (s : String) : String := toAsciiUppercase (trim s)

example : normalise " get\t" = "GET" := by decide

example : splitOnce (· == '/') "10.0.0.0/8" = some ("10.0.0.0", "8") := by decide

example : parseUnsigned (2 ^ 16) "+8080" = some 8080 := by decide

end RedisBridge.RustText
