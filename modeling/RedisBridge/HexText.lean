import RedisBridge.RustText

/-!
Hexadecimal text. Each byte is two digits of either case. A text is decoded into a
slice of a given length, so it has exactly two digits for each byte of it.
-/
namespace RedisBridge.HexText

open RustText

def isHexDigit (c : Char) : Bool := (toDigit 16 c).isSome

def hexBytes : List Char → Option (List UInt8)
  | [] => some []
  | high :: low :: rest =>
      match toDigit 16 high, toDigit 16 low, hexBytes rest with
      | some high, some low, some bytes => some (UInt8.ofNat (high * 16 + low) :: bytes)
      | _, _, _ => none
  | [_] => none

/-- `hex::decode_to_slice` for a slice of `n` bytes. -/
def decodeToSlice (n : ℕ) (text : String) : Option (Vector UInt8 n) :=
  match hexBytes text.toList with
  | some bytes => if h : bytes.toArray.size = n then some ⟨bytes.toArray, h⟩ else none
  | none => none

theorem hexBytes_eq_some (chars : List Char) (bytes : List UInt8)
    (h : hexBytes chars = some bytes) :
    chars.length = 2 * bytes.length ∧ ∀ c ∈ chars, isHexDigit c = true := by
  fun_induction hexBytes chars generalizing bytes with
  | case1 =>
    cases h
    exact ⟨rfl, fun c hc => absurd hc List.not_mem_nil⟩
  | case2 high low rest a b more hmore hb ha ih =>
    cases h
    obtain ⟨hlength, hdigits⟩ := ih more hmore
    constructor
    · simp only [List.length_cons, hlength]
      omega
    · intro c hc
      rcases List.mem_cons.mp hc with rfl | hc
      · rw [isHexDigit, ha]
        rfl
      · rcases List.mem_cons.mp hc with rfl | hc
        · rw [isHexDigit, hb]
          rfl
        · exact hdigits c hc
  | case3 | case4 => cases h

theorem hexBytes_of_digits (n : ℕ) (chars : List Char) (hlength : chars.length = 2 * n)
    (hdigits : ∀ c ∈ chars, isHexDigit c = true) :
    ∃ bytes, hexBytes chars = some bytes ∧ bytes.length = n := by
  induction n generalizing chars with
  | zero =>
    obtain rfl := List.length_eq_zero_iff.mp hlength
    exact ⟨[], rfl, rfl⟩
  | succ n ih =>
    match chars with
    | [] => cases hlength
    | [_] =>
      simp only [List.length_singleton] at hlength
      omega
    | high :: low :: rest =>
      simp only [List.length_cons] at hlength
      obtain ⟨a, ha⟩ := Option.isSome_iff_exists.mp (hdigits high (by simp))
      obtain ⟨b, hb⟩ := Option.isSome_iff_exists.mp (hdigits low (by simp))
      obtain ⟨bytes, hbytes, hn⟩ := ih rest (by omega)
        (fun c hc => hdigits c (List.mem_cons_of_mem _ (List.mem_cons_of_mem _ hc)))
      refine ⟨UInt8.ofNat (a * 16 + b) :: bytes, ?_, by rw [List.length_cons, hn]⟩
      rw [hexBytes, ha, hb, hbytes]

/-- A text is decoded when it consists of two digits for each byte. -/
theorem decodeToSlice_isSome (n : ℕ) (text : String) :
    (decodeToSlice n text).isSome = true ↔
      text.toList.length = 2 * n ∧ ∀ c ∈ text.toList, isHexDigit c = true := by
  unfold decodeToSlice
  constructor
  · intro h
    split at h
    · next bytes hbytes =>
      obtain ⟨hlength, hdigits⟩ := hexBytes_eq_some text.toList bytes hbytes
      split at h
      · next hsize =>
        rw [List.size_toArray] at hsize
        exact ⟨by rw [hlength, hsize], hdigits⟩
      · cases h
    · cases h
  · intro hgiven
    obtain ⟨hlength, hdigits⟩ := hgiven
    obtain ⟨bytes, hbytes, hn⟩ := hexBytes_of_digits n text.toList hlength hdigits
    have hsize : bytes.toArray.size = n := by rw [List.size_toArray, hn]
    rw [hbytes]
    simp only [dif_pos hsize, Option.isSome_some]

theorem toNat_toLower (c : Char) :
    c.toLower.toNat = if 65 ≤ c.toNat ∧ c.toNat ≤ 90 then c.toNat + 32 else c.toNat := by
  have hupper : (c.val ≥ 'A'.val ∧ c.val ≤ 'Z'.val) ↔ 65 ≤ c.toNat ∧ c.toNat ≤ 90 := by
    rw [ge_iff_le, UInt32.le_iff_toNat_le, UInt32.le_iff_toNat_le]
    rfl
  unfold Char.toLower
  by_cases h : 65 ≤ c.toNat ∧ c.toNat ≤ 90
  · rw [dif_pos (hupper.mpr h), if_pos h]
    have hsum : (c.val + ('a'.val - 'A'.val)).toNat = (c.toNat + 32) % 4294967296 := rfl
    exact hsum.trans (Nat.mod_eq_of_lt (by omega))
  · rw [dif_neg (fun hc => h (hupper.mp hc)), if_neg h]

/-- The case of a digit does not matter. -/
theorem toDigit_toLower (c : Char) : toDigit 16 c.toLower = toDigit 16 c := by
  simp only [toDigit, toNat_toLower]
  by_cases h : 65 ≤ c.toNat ∧ c.toNat ≤ 90
  · have hshift : c.toNat + 32 - 97 + 10 = c.toNat - 65 + 10 := by omega
    rw [if_pos h, if_neg (by omega), if_pos (by omega), if_neg (by omega), if_neg (by omega),
      if_pos h, hshift]
  · rw [if_neg h]

theorem hexBytes_toLower : ∀ chars, hexBytes (chars.map Char.toLower) = hexBytes chars
  | [] => rfl
  | [_] => rfl
  | high :: low :: rest => by
    rw [List.map_cons, List.map_cons, hexBytes, hexBytes, toDigit_toLower, toDigit_toLower,
      hexBytes_toLower rest]

/-- Both spellings of a text are decoded to the same bytes. -/
theorem decodeToSlice_toAsciiLowercase (n : ℕ) (text : String) :
    decodeToSlice n (toAsciiLowercase text) = decodeToSlice n text := by
  unfold decodeToSlice toAsciiLowercase
  rw [String.toList_ofList, hexBytes_toLower]

theorem utf8Size_of_isHexDigit (c : Char) (h : isHexDigit c = true) : c.utf8Size = 1 := by
  have hascii : c.toNat ≤ 127 := by
    by_contra hlarge
    rw [isHexDigit, toDigit, if_neg (by omega), if_neg (by omega), if_neg (by omega)] at h
    cases h
  rw [Char.utf8Size_eq_one_iff, UInt32.le_iff_toNat_le]
  exact hascii

/-- Every digit is one byte. -/
theorem length_asBytes_of_digits (text : String)
    (h : ∀ c ∈ text.toList, isHexDigit c = true) :
    (asBytes text).length = text.toList.length := by
  have hone : text.toList.map Char.utf8Size = List.replicate text.toList.length 1 := by
    rw [List.map_eq_replicate_iff]
    intro c hc
    exact utf8Size_of_isHexDigit c (h c hc)
  rw [length_asBytes, hone, List.sum_replicate_nat, Nat.mul_one]

end RedisBridge.HexText
