import RedisBridge.RustText

/-!
Base64 with the standard alphabet and padding. Three bytes become four digits of
six bits, and a last group of one or two bytes is padded. The decoder accepts
the canonical texts only. A codec is any pair of functions with the laws that
the uses of base64 rest on, and the standard one has them.
-/
namespace RedisBridge.Base64

/-- An encoding of bytes as texts of whole groups of four characters. -/
structure Codec where
  encode : List UInt8 → String
  decode : String → Option (List UInt8)
  decode_encode : ∀ bytes, decode (encode bytes) = some bytes
  encode_groups : ∀ bytes, (encode bytes).toList.length % 4 = 0
  decode_shortens : ∀ text bytes, decode text = some bytes →
    4 * bytes.length ≤ 3 * text.toList.length

/-- A text that does not divide into groups of four is no encoding. -/
theorem Codec.encode_ne_of_length (base64 : Codec) (bytes : List UInt8) (text : String)
    (htext : text.toList.length % 4 ≠ 0) : base64.encode bytes ≠ text := by
  intro heq
  have hgroups := base64.encode_groups bytes
  rw [heq] at hgroups
  exact htext hgroups

/-- The digit of a value below 64. -/
def digit (n : ℕ) : Char :=
  if n < 26 then Char.ofNat (65 + n)
  else if n < 52 then Char.ofNat (97 + (n - 26))
  else if n < 62 then Char.ofNat (48 + (n - 52))
  else if n = 62 then '+' else '/'

def digitValue (c : Char) : Option ℕ :=
  let n := c.toNat
  if 65 ≤ n ∧ n ≤ 90 then some (n - 65)
  else if 97 ≤ n ∧ n ≤ 122 then some (n - 97 + 26)
  else if 48 ≤ n ∧ n ≤ 57 then some (n - 48 + 52)
  else if c = '+' then some 62
  else if c = '/' then some 63
  else none

def encodeChars : List UInt8 → List Char
  | a :: b :: c :: rest =>
      digit (a.toNat / 4) :: digit (a.toNat % 4 * 16 + b.toNat / 16) ::
        digit (b.toNat % 16 * 4 + c.toNat / 64) :: digit (c.toNat % 64) :: encodeChars rest
  | [a, b] =>
      [digit (a.toNat / 4), digit (a.toNat % 4 * 16 + b.toNat / 16), digit (b.toNat % 16 * 4), '=']
  | [a] => [digit (a.toNat / 4), digit (a.toNat % 4 * 16), '=', '=']
  | [] => []

/-- A full group. -/
def decodeGroup (w x y z : Char) : Option (List UInt8) := do
  let w ← digitValue w
  let x ← digitValue x
  let y ← digitValue y
  let z ← digitValue z
  pure [UInt8.ofNat (w * 4 + x / 16), UInt8.ofNat (x % 16 * 16 + y / 4),
    UInt8.ofNat (y % 4 * 64 + z)]

/-- A last group of two bytes; its unused bits are zero. -/
def decodeTwo (w x y : Char) : Option (List UInt8) := do
  let w ← digitValue w
  let x ← digitValue x
  let y ← digitValue y
  if y % 4 = 0 then some [UInt8.ofNat (w * 4 + x / 16), UInt8.ofNat (x % 16 * 16 + y / 4)]
  else none

/-- A last group of one byte; its unused bits are zero. -/
def decodeOne (w x : Char) : Option (List UInt8) := do
  let w ← digitValue w
  let x ← digitValue x
  if x % 16 = 0 then some [UInt8.ofNat (w * 4 + x / 16)] else none

def decodeChars : List Char → Option (List UInt8)
  | [] => some []
  | w :: x :: y :: z :: rest =>
      if z = '=' then
        if rest ≠ [] then none
        else if y = '=' then decodeOne w x
        else decodeTwo w x y
      else
        match decodeGroup w x y z, decodeChars rest with
        | some group, some more => some (group ++ more)
        | _, _ => none
  | _ => none

theorem digitValue_digit (n : ℕ) (hn : n < 64) : digitValue (digit n) = some n := by
  have hall : ∀ k : Fin 64, digitValue (digit k.val) = some k.val := by decide
  exact hall ⟨n, hn⟩

theorem digit_ne_pad (n : ℕ) (hn : n < 64) : digit n ≠ '=' := by
  have hall : ∀ k : Fin 64, digit k.val ≠ '=' := by decide
  exact hall ⟨n, hn⟩

theorem decodeGroup_digit (w x y z : ℕ) (hw : w < 64) (hx : x < 64) (hy : y < 64) (hz : z < 64) :
    decodeGroup (digit w) (digit x) (digit y) (digit z) =
      some [UInt8.ofNat (w * 4 + x / 16), UInt8.ofNat (x % 16 * 16 + y / 4),
        UInt8.ofNat (y % 4 * 64 + z)] := by
  unfold decodeGroup
  rw [digitValue_digit w hw, digitValue_digit x hx, digitValue_digit y hy, digitValue_digit z hz]
  rfl

theorem decodeTwo_digit (w x y : ℕ) (hw : w < 64) (hx : x < 64) (hy : y < 64) (hlow : y % 4 = 0) :
    decodeTwo (digit w) (digit x) (digit y) =
      some [UInt8.ofNat (w * 4 + x / 16), UInt8.ofNat (x % 16 * 16 + y / 4)] := by
  unfold decodeTwo
  rw [digitValue_digit w hw, digitValue_digit x hx, digitValue_digit y hy]
  exact if_pos hlow

theorem decodeOne_digit (w x : ℕ) (hw : w < 64) (hx : x < 64) (hlow : x % 16 = 0) :
    decodeOne (digit w) (digit x) = some [UInt8.ofNat (w * 4 + x / 16)] := by
  unfold decodeOne
  rw [digitValue_digit w hw, digitValue_digit x hx]
  exact if_pos hlow

theorem ofNat_eq (n : ℕ) (b : UInt8) (h : n = b.toNat) : UInt8.ofNat n = b := by
  rw [h]
  exact UInt8.ofNat_toNat

/-- Encoded bytes are decoded group by group. -/
theorem decodeChars_encodeChars (bytes : List UInt8) :
    decodeChars (encodeChars bytes) = some bytes := by
  induction bytes using encodeChars.induct with
  | case1 a b c rest ih =>
    have ha := a.toNat_lt
    have hb := b.toNat_lt
    have hc := c.toNat_lt
    have hgroup := decodeGroup_digit (a.toNat / 4) (a.toNat % 4 * 16 + b.toNat / 16)
      (b.toNat % 16 * 4 + c.toNat / 64) (c.toNat % 64) (by omega) (by omega) (by omega) (by omega)
    rw [ofNat_eq _ a (by omega), ofNat_eq _ b (by omega), ofNat_eq _ c (by omega)] at hgroup
    rw [encodeChars, decodeChars, if_neg (digit_ne_pad _ (by omega)), hgroup, ih]
    rfl
  | case2 a b =>
    have ha := a.toNat_lt
    have hb := b.toNat_lt
    have hgroup := decodeTwo_digit (a.toNat / 4) (a.toNat % 4 * 16 + b.toNat / 16)
      (b.toNat % 16 * 4) (by omega) (by omega) (by omega) (by omega)
    rw [ofNat_eq _ a (by omega), ofNat_eq _ b (by omega)] at hgroup
    rw [encodeChars, decodeChars, if_pos rfl, if_neg (by simp),
      if_neg (digit_ne_pad _ (by omega)), hgroup]
  | case3 a =>
    have ha := a.toNat_lt
    have hgroup := decodeOne_digit (a.toNat / 4) (a.toNat % 4 * 16) (by omega) (by omega)
      (by omega)
    rw [ofNat_eq _ a (by omega)] at hgroup
    rw [encodeChars, decodeChars, if_pos rfl, if_neg (by simp), if_pos rfl, hgroup]
  | case4 => rfl

theorem encodeChars_length (bytes : List UInt8) : (encodeChars bytes).length % 4 = 0 := by
  induction bytes using encodeChars.induct with
  | case1 a b c rest ih =>
    simp only [encodeChars, List.length_cons]
    omega
  | case2 a b => simp only [encodeChars, List.length_cons, List.length_nil]
  | case3 a => simp only [encodeChars, List.length_cons, List.length_nil]
  | case4 => rfl

theorem decodeGroup_length (w x y z : Char) (group : List UInt8)
    (h : decodeGroup w x y z = some group) : group.length = 3 := by
  simp only [decodeGroup, Option.bind_eq_bind, Option.bind_eq_some_iff] at h
  obtain ⟨_, _, _, _, _, _, _, _, h⟩ := h
  cases h
  rfl

theorem decodeTwo_length (w x y : Char) (group : List UInt8) (h : decodeTwo w x y = some group) :
    group.length = 2 := by
  simp only [decodeTwo, Option.bind_eq_bind, Option.bind_eq_some_iff] at h
  obtain ⟨_, _, _, _, _, _, h⟩ := h
  split_ifs at h
  cases h
  rfl

theorem decodeOne_length (w x : Char) (group : List UInt8) (h : decodeOne w x = some group) :
    group.length = 1 := by
  simp only [decodeOne, Option.bind_eq_bind, Option.bind_eq_some_iff] at h
  obtain ⟨_, _, _, _, h⟩ := h
  split_ifs at h
  cases h
  rfl

/-- Four characters make three bytes at most. -/
theorem decodeChars_length (text : List Char) (bytes : List UInt8)
    (h : decodeChars text = some bytes) : 4 * bytes.length ≤ 3 * text.length := by
  fun_induction decodeChars text generalizing bytes with
  | case1 =>
    cases h
    exact le_refl 0
  | case3 w x rest hrest =>
    have hgroup := decodeOne_length w x bytes h
    simp only [List.length_cons]
    omega
  | case4 w x y rest hrest hpad =>
    have hgroup := decodeTwo_length w x y bytes h
    simp only [List.length_cons]
    omega
  | case5 w x y z rest hpad group more hmore hgroup ih =>
    cases h
    have hthree := decodeGroup_length w x y z group hgroup
    have htail := ih more hmore
    simp only [List.length_append, List.length_cons]
    omega
  | case2 | case6 | case7 => cases h

def standard : Codec where
  encode bytes := String.ofList (encodeChars bytes)
  decode text := decodeChars text.toList
  decode_encode bytes := by rw [String.toList_ofList, decodeChars_encodeChars]
  encode_groups bytes := by rw [String.toList_ofList, encodeChars_length]
  decode_shortens text bytes h := decodeChars_length text.toList bytes h

example : standard.encode [0, 159, 146, 150] = "AJ+Slg==" := by decide

end RedisBridge.Base64
