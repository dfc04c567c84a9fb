import RedisBridge.RustText
import Mathlib.Algebra.BigOperators.Group.List.Basic

/-!
Bytes as text. Well-formed UTF-8 is the text that it encodes. Anything else is
read with replacements: each longest start of a character that goes wrong
becomes one replacement character, and reading resumes behind it.
-/
namespace RedisBridge.Utf8Text

open RustText

/-- `str::from_utf8`. -/
def fromUtf8 (bytes : List UInt8) : Option String := String.fromUTF8? ⟨bytes.toArray⟩

theorem fromUtf8_asBytes (s : String) : fromUtf8 (asBytes s) = some s := by
  unfold fromUtf8 asBytes String.fromUTF8?
  rw [Array.toArray_toList, String.toUTF8_eq_toByteArray, dif_pos s.isValidUTF8]
  rfl

/-- Bytes are read as the text that encodes to them. -/
theorem fromUtf8_eq_some (bytes : List UInt8) (s : String) :
    fromUtf8 bytes = some s ↔ asBytes s = bytes := by
  constructor
  · intro h
    unfold fromUtf8 String.fromUTF8? at h
    split at h
    · obtain rfl := Option.some.inj h
      rfl
    · cases h
  · rintro rfl
    exact fromUtf8_asBytes s

/-- A text has at least one byte for each character. -/
theorem length_le_asBytes (s : String) : s.toList.length ≤ (asBytes s).length := by
  have hsum := List.length_le_sum_of_one_le (s.toList.map Char.utf8Size)
    (List.forall_mem_map.mpr (fun c _ => c.utf8Size_pos))
  rw [List.length_map] at hsum
  rw [length_asBytes]
  exact hsum

theorem asBytes_injective (a b : String) (h : asBytes a = asBytes b) : a = b :=
  Option.some.inj ((fromUtf8_asBytes a).symm.trans ((fromUtf8_eq_some (asBytes a) b).mpr h.symm))

/-- A text has the bytes of its characters, one after the other. -/
theorem asBytes_eq_flatMap (s : String) : asBytes s = s.toList.flatMap String.utf8EncodeChar := by
  have hencode : s.toUTF8 = s.toList.utf8Encode := (String.utf8Encode_toList).symm
  unfold asBytes
  rw [hencode, List.utf8Encode, List.data_toByteArray]

theorem toNat_ofNat_byte (n : ℕ) (hn : n < 256) : (UInt8.ofNat n).toNat = n := Nat.mod_eq_of_lt hn

/-- Outside ASCII every byte of a character is high. -/
theorem high_of_mem_utf8EncodeChar (c : Char) (hc : 127 < c.toNat) (b : UInt8)
    (hb : b ∈ String.utf8EncodeChar c) : 128 ≤ b.toNat := by
  have hval : c.val.toNat = c.toNat := rfl
  unfold String.utf8EncodeChar at hb
  dsimp only at hb
  rw [hval, if_neg (by omega)] at hb
  split_ifs at hb
  all_goals
    simp only [List.mem_cons, List.not_mem_nil, or_false] at hb
  · rcases hb with rfl | rfl
    all_goals rw [toNat_ofNat_byte _ (by omega)]; omega
  · rcases hb with rfl | rfl | rfl
    all_goals rw [toNat_ofNat_byte _ (by omega)]; omega
  · rcases hb with rfl | rfl | rfl | rfl
    all_goals rw [toNat_ofNat_byte _ (by omega)]; omega

def replacement : Char := Char.ofNat 0xFFFD

def isContinuation (b : UInt8) : Bool := b &&& 192 == 128

/-- The second bytes of three-byte characters: no overlong forms, no surrogates. -/
def secondOfThree (lead b : UInt8) : Bool :=
  (lead == 0xE0 && 0xA0 ≤ b && b ≤ 0xBF) || (0xE1 ≤ lead && lead ≤ 0xEC && isContinuation b) ||
    (lead == 0xED && 0x80 ≤ b && b ≤ 0x9F) || (0xEE ≤ lead && lead ≤ 0xEF && isContinuation b)

/-- The second bytes of four-byte characters: nothing past U+10FFFF. -/
def secondOfFour (lead b : UInt8) : Bool :=
  (lead == 0xF0 && 0x90 ≤ b && b ≤ 0xBF) || (0xF1 ≤ lead && lead ≤ 0xF3 && isContinuation b) ||
    (lead == 0xF4 && 0x80 ≤ b && b ≤ 0x8F)

/-- The six payload bits of a continuation byte. -/
def low (b : UInt8) : ℕ := b.toNat % 64

/-- One character, or one replacement for a start that goes wrong, and the rest. -/
def readChar (lead : UInt8) (rest : List UInt8) : Char × List UInt8 :=
  if lead < 0x80 then (Char.ofNat lead.toNat, rest)
  else if 0xC2 ≤ lead && lead ≤ 0xDF then
    match rest with
    | b :: rest' =>
        if isContinuation b then (Char.ofNat (lead.toNat % 32 * 64 + low b), rest')
        else (replacement, rest)
    | [] => (replacement, [])
  else if 0xE0 ≤ lead && lead ≤ 0xEF then
    match rest with
    | b :: rest' =>
        if secondOfThree lead b then
          match rest' with
          | c :: rest'' =>
              if isContinuation c then
                (Char.ofNat ((lead.toNat % 16 * 64 + low b) * 64 + low c), rest'')
              else (replacement, rest')
          | [] => (replacement, [])
        else (replacement, rest)
    | [] => (replacement, [])
  else if 0xF0 ≤ lead && lead ≤ 0xF4 then
    match rest with
    | b :: rest' =>
        if secondOfFour lead b then
          match rest' with
          | c :: rest'' =>
              if isContinuation c then
                match rest'' with
                | d :: rest''' =>
                    if isContinuation d then
                      (Char.ofNat (((lead.toNat % 8 * 64 + low b) * 64 + low c) * 64 + low d),
                        rest''')
                    else (replacement, rest'')
                | [] => (replacement, [])
              else (replacement, rest')
          | [] => (replacement, [])
        else (replacement, rest)
    | [] => (replacement, [])
  else (replacement, rest)

/-- Reading with replacements; every step uses up at least one byte. -/
def readLossy : ℕ → List UInt8 → List Char
  | fuel + 1, lead :: rest =>
      (readChar lead rest).1 :: readLossy fuel (readChar lead rest).2
  | _, _ => []

/-- `String::from_utf8_lossy`. -/
def fromUtf8Lossy (bytes : List UInt8) : String :=
  match fromUtf8 bytes with
  | some s => s
  | none => String.ofList (readLossy bytes.length bytes)

/-- Well-formed text is read unchanged. -/
theorem fromUtf8Lossy_asBytes (s : String) : fromUtf8Lossy (asBytes s) = s := by
  unfold fromUtf8Lossy
  rw [fromUtf8_asBytes]

example : readLossy 4 [0x61, 0xE2, 0x82, 0x62] = ['a', replacement, 'b'] := by decide

end RedisBridge.Utf8Text
