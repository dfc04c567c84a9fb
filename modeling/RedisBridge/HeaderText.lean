import RedisBridge.ClientAddress
import RedisBridge.TrimmedText
import RedisBridge.Utf8Text

/-!
Texts as header values. The bytes of a text are read back as that text when all
its characters are visible ASCII, blanks or tabs; any other character makes the
whole value unreadable.
-/
namespace RedisBridge.HeaderText

open ClientAddress RustText Utf8Text

/-- The characters that `HeaderValue::to_str` lets through. -/
def isHeaderChar (c : Char) : Bool := (32 ≤ c.toNat && c.toNat < 127) || c.toNat == 9

/-- The bytes that `HeaderValue::to_str` lets through. -/
def isHeaderByte (b : UInt8) : Bool := (32 ≤ b && b < 127) || b == 9

theorem utf8EncodeChar_of_isHeaderChar (c : Char) (h : isHeaderChar c = true) :
    String.utf8EncodeChar c = [UInt8.ofNat c.toNat] := by
  simp only [isHeaderChar, Bool.or_eq_true, Bool.and_eq_true, decide_eq_true_eq, beq_iff_eq] at h
  have hsmall : c.toNat ≤ 127 := by omega
  exact if_pos hsmall

theorem isHeaderByte_eq (b : UInt8) :
    isHeaderByte b = ((32 ≤ b.toNat && b.toNat < 127) || b.toNat == 9) := by
  have htab : (b == 9) = (b.toNat == 9) := by
    rw [Bool.eq_iff_iff, beq_iff_eq, beq_iff_eq, ← UInt8.toNat_inj]
    rfl
  simp only [isHeaderByte, UInt8.le_iff_toNat_le, UInt8.lt_iff_toNat_lt, htab]
  rfl

theorem isHeaderByte_ofNat (n : ℕ) (hn : n < 256) :
    isHeaderByte (UInt8.ofNat n) = ((32 ≤ n && n < 127) || n == 9) := by
  rw [isHeaderByte_eq, toNat_ofNat_byte n hn]

/-- The bytes of a character pass exactly when the character does. -/
theorem all_utf8EncodeChar (c : Char) :
    (String.utf8EncodeChar c).all isHeaderByte = isHeaderChar c := by
  by_cases hascii : c.toNat ≤ 127
  · have hone : String.utf8EncodeChar c = [UInt8.ofNat c.toNat] := if_pos hascii
    rw [hone, List.all_cons, List.all_nil, Bool.and_true, isHeaderByte_ofNat _ (by omega)]
    rfl
  · have hchar : isHeaderChar c = false := by
      simp only [isHeaderChar, Bool.or_eq_false_iff, Bool.and_eq_false_iff,
        decide_eq_false_iff_not, beq_eq_false_iff_ne]
      omega
    obtain ⟨b, hb⟩ := List.exists_mem_of_ne_nil _ String.utf8EncodeChar_ne_nil
    rw [hchar, List.all_eq_false]
    refine ⟨b, hb, ?_⟩
    have hhigh := high_of_mem_utf8EncodeChar c (by omega) b hb
    rw [isHeaderByte_eq]
    simp only [Bool.or_eq_true, Bool.and_eq_true, decide_eq_true_eq, beq_iff_eq]
    omega

theorem map_ofNat_utf8EncodeChar (c : Char) (h : isHeaderChar c = true) :
    (String.utf8EncodeChar c).map (fun b => Char.ofNat b.toNat) = [c] := by
  rw [utf8EncodeChar_of_isHeaderChar c h]
  simp only [isHeaderChar, Bool.or_eq_true, Bool.and_eq_true, decide_eq_true_eq, beq_iff_eq] at h
  rw [List.map_singleton, toNat_ofNat_byte _ (by omega), Char.ofNat_toNat]

/-- What `to_str` makes of the bytes of a text. -/
theorem toStr_asBytes (s : String) :
    toStr (asBytes s) = if s.toList.all isHeaderChar = true then some s else none := by
  have hall : (asBytes s).all isHeaderByte = s.toList.all isHeaderChar := by
    rw [asBytes_eq_flatMap, List.all_flatMap]
    congr 1
    funext c
    exact all_utf8EncodeChar c
  have hstr : toStr (asBytes s) = if (asBytes s).all isHeaderByte = true then
      some (String.ofList ((asBytes s).map (fun b => Char.ofNat b.toNat))) else none := rfl
  rw [hstr, hall]
  split_ifs with hgood
  · rw [List.all_eq_true] at hgood
    have hchars : s.toList.flatMap
        (fun c => (String.utf8EncodeChar c).map (fun b => Char.ofNat b.toNat)) = s.toList := by
      rw [List.flatMap_congr (g := fun c => [c])
        (fun c hc => map_ofNat_utf8EncodeChar c (hgood c hc)), List.flatMap_singleton']
    rw [asBytes_eq_flatMap, List.map_flatMap, hchars, String.ofList_toList]
  · rfl

end RedisBridge.HeaderText
