import RedisBridge.ClientAddress
import Mathlib.Data.Set.Lattice
import Mathlib.Order.CompletePartialOrder

/-!
The addresses that a configured proxy stands for. Masking two words and
comparing them compares their leading bits, so the mask test decides membership
in the configured range, for every prefix length that the parser accepts.
Outside all ranges the client address is the peer, whatever the headers say.
-/
namespace RedisBridge.ClientAddress

open Fallible IpAddress RustText

/-- The first `len` bits agree. -/
def SharePrefix {w : ℕ} (len : ℕ) (a b : BitVec w) : Prop := ∀ i < len, a.getMsbD i = b.getMsbD i

theorem SharePrefix.trans {w : ℕ} (len : ℕ) (a b c : BitVec w) (h : SharePrefix len a b)
    (h' : SharePrefix len b c) : SharePrefix len a c := fun i hi => (h i hi).trans (h' i hi)

theorem SharePrefix.symm {w : ℕ} (len : ℕ) (a b : BitVec w) (h : SharePrefix len a b) :
    SharePrefix len b a := fun i hi => (h i hi).symm

theorem SharePrefix.shorten {w : ℕ} (len less : ℕ) (a b : BitVec w) (h : SharePrefix len a b)
    (hle : less ≤ len) : SharePrefix less a b := fun i hi => h i (Nat.lt_of_lt_of_le hi hle)

/-- Of two prefixes with a common word, the shorter one is shared by every word
that has the longer one. -/
theorem SharePrefix.nested {w : ℕ} (short long : ℕ) (a b common x : BitVec w)
    (hle : short ≤ long) (ha : SharePrefix short a common) (hb : SharePrefix long b common)
    (hx : SharePrefix long b x) : SharePrefix short a x := by
  have hcommon := hb.symm.trans _ _ _ _ hx
  exact ha.trans _ _ _ _ (hcommon.shorten _ _ _ _ hle)

theorem getMsbD_mask (w len i : ℕ) (hlen : len ≤ w) :
    (BitVec.allOnes w <<< (w - len)).getMsbD i = decide (i < len) := by
  rw [BitVec.getMsbD_shiftLeft, BitVec.getMsbD_allOnes, decide_eq_decide]
  omega

/-- A mask of leading ones leaves the leading bits to compare. -/
theorem and_mask_eq_iff {w : ℕ} (len : ℕ) (hlen : len ≤ w) (a b : BitVec w) :
    a &&& (BitVec.allOnes w <<< (w - len)) = b &&& (BitVec.allOnes w <<< (w - len)) ↔
      SharePrefix len a b := by
  constructor
  · intro h i hi
    have hbit := congrArg (fun x => BitVec.getMsbD x i) h
    simp only [BitVec.getMsbD_and, getMsbD_mask w len i hlen, hi, decide_true,
      Bool.and_true] at hbit
    exact hbit
  · intro h
    apply BitVec.eq_of_getMsbD_eq
    intro i _
    rw [BitVec.getMsbD_and, BitVec.getMsbD_and, getMsbD_mask w len i hlen]
    by_cases hi : i < len
    · rw [h i hi]
    · rw [decide_eq_false hi, Bool.and_false, Bool.and_false]

theorem prefixMaskV4_eq (prefixLen : UInt8) (hlen : prefixLen.toNat ≤ 32) :
    prefixMaskV4 prefixLen = BitVec.allOnes 32 <<< (32 - prefixLen.toNat) := by
  unfold prefixMaskV4
  split
  · rename_i hzero
    rw [hzero]
    decide
  · rw [UInt8.toNat_sub_of_le 32 prefixLen hlen]
    rfl

theorem prefixMaskV6_eq (prefixLen : UInt8) (hlen : prefixLen.toNat ≤ 128) :
    prefixMaskV6 prefixLen = BitVec.allOnes 128 <<< (128 - prefixLen.toNat) := by
  unfold prefixMaskV6
  split
  · rename_i hzero
    rw [hzero]
    decide
  · rw [UInt8.toNat_sub_of_le 128 prefixLen hlen]
    rfl

namespace TrustedProxy

/-- The width of the network's family. -/
def width (proxy : TrustedProxy) : ℕ :=
  match proxy.network with
  | .v4 _ => 32
  | .v6 _ => 128

/-- The address has the family of the network and its leading bits. -/
def Covers (proxy : TrustedProxy) (ip : IpAddr) : Prop :=
  match proxy.network, ip with
  | .v4 network, .v4 ip => SharePrefix proxy.prefixLen.toNat network ip
  | .v6 network, .v6 ip => SharePrefix proxy.prefixLen.toNat network ip
  | _, _ => False

/-- The mask test decides membership in the range. -/
theorem contains_iff_covers (proxy : TrustedProxy) (ip : IpAddr)
    (hlen : proxy.prefixLen.toNat ≤ proxy.width) : proxy.contains ip = true ↔ proxy.Covers ip := by
  obtain ⟨network, prefixLen⟩ := proxy
  cases network with
  | v4 network =>
    cases ip with
    | v4 ip =>
      simp only [contains, Covers, beq_iff_eq, prefixMaskV4_eq prefixLen hlen]
      exact and_mask_eq_iff prefixLen.toNat hlen network ip
    | v6 ip => simp [contains, Covers]
  | v6 network =>
    cases ip with
    | v4 ip => simp [contains, Covers]
    | v6 ip =>
      simp only [contains, Covers, beq_iff_eq, prefixMaskV6_eq prefixLen hlen]
      exact and_mask_eq_iff prefixLen.toNat hlen network ip

/-- The parser lets no prefix through that is longer than the address. -/
theorem parse_prefixLen (value : String) (proxy : TrustedProxy) (h : parse value = .ok proxy) :
    proxy.prefixLen.toNat ≤ proxy.width := by
  unfold parse at h
  split at h
  · rw [bind_eq_ok] at h
    obtain ⟨ip, _, h⟩ := h
    cases h
    cases ip with
    | v4 bits => exact le_refl 32
    | v6 bits => exact le_refl 128
  · simp only [bind_eq_ok] at h
    obtain ⟨network, _, bits, _, _, hcheck, h⟩ := h
    cases h
    cases network with
    | v4 network =>
      simp only [checkPrefix, bailIf_eq_ok] at hcheck
      exact UInt8.not_lt.mp hcheck
    | v6 network =>
      simp only [checkPrefix, bailIf_eq_ok] at hcheck
      exact UInt8.not_lt.mp hcheck

/-- Where an address is in both ranges, that of the shorter prefix has all of the other. -/
theorem covers_nested (proxy other : TrustedProxy) (common ip : IpAddr)
    (hle : proxy.prefixLen ≤ other.prefixLen) (hproxy : proxy.Covers common)
    (hother : other.Covers common) (hip : other.Covers ip) : proxy.Covers ip := by
  obtain ⟨network, prefixLen⟩ := proxy
  obtain ⟨network', prefixLen'⟩ := other
  have hlength := UInt8.le_iff_toNat_le.mp hle
  cases network with
  | v4 a =>
    cases common with
    | v4 common =>
      cases network' with
      | v4 b =>
        cases ip with
        | v4 x => exact SharePrefix.nested _ _ a b common x hlength hproxy hother hip
        | v6 x => exact absurd hip id
      | v6 b => exact absurd hother id
    | v6 common => exact absurd hproxy id
  | v6 a =>
    cases common with
    | v4 common => exact absurd hproxy id
    | v6 common =>
      cases network' with
      | v4 b => exact absurd hother id
      | v6 b =>
        cases ip with
        | v4 x => exact absurd hip id
        | v6 x => exact SharePrefix.nested _ _ a b common x hlength hproxy hother hip

/-- The addresses that the mask test admits. -/
def range (proxy : TrustedProxy) : Set IpAddr := {ip | proxy.contains ip = true}

theorem range_nested (proxy other : TrustedProxy) (hproxy : proxy.prefixLen.toNat ≤ proxy.width)
    (hother : other.prefixLen.toNat ≤ other.width) (hle : proxy.prefixLen ≤ other.prefixLen) :
    other.range ⊆ proxy.range ∨ Disjoint proxy.range other.range := by
  by_cases hmeet : ∃ common, proxy.contains common = true ∧ other.contains common = true
  · left
    obtain ⟨common, hcommon, hcommon'⟩ := hmeet
    intro ip hip
    apply (proxy.contains_iff_covers ip hproxy).mpr
    exact proxy.covers_nested other common ip hle
      ((proxy.contains_iff_covers common hproxy).mp hcommon)
      ((other.contains_iff_covers common hother).mp hcommon')
      ((other.contains_iff_covers ip hother).mp hip)
  · right
    rw [Set.disjoint_left]
    intro ip hip hip'
    exact hmeet ⟨ip, hip, hip'⟩

/-- A subtraction that does not wrap leaves a shift below the width. -/
theorem shift_lt (width prefixLen : UInt8) (hle : prefixLen ≤ width) (hne : prefixLen ≠ 0) :
    (width - prefixLen).toNat < width.toNat := by
  have hpos : prefixLen.toNat ≠ 0 := fun hzero => hne (UInt8.toNat_inj.mp hzero)
  have hbound := UInt8.le_iff_toNat_le.mp hle
  rw [UInt8.toNat_sub_of_le width _ hle]
  omega

/-- For every accepted entry: the mask test is membership in its range, the mask
is made by a subtraction that does not wrap and a shift below the word width, and
the range of any other accepted entry is nested with it or apart from it. -/
theorem cidr_exact (value : String) (proxy : TrustedProxy) (h : parse value = .ok proxy) :
    (∀ ip, proxy.contains ip = true ↔ proxy.Covers ip) ∧
    (∀ bits, proxy.network = .v4 bits → proxy.prefixLen ≤ 32 ∧
      (proxy.prefixLen ≠ 0 → (32 - proxy.prefixLen).toNat < 32)) ∧
    (∀ bits, proxy.network = .v6 bits → proxy.prefixLen ≤ 128 ∧
      (proxy.prefixLen ≠ 0 → (128 - proxy.prefixLen).toNat < 128)) ∧
    ∀ value' other, parse value' = .ok other →
      other.range ⊆ proxy.range ∨ proxy.range ⊆ other.range ∨
        Disjoint proxy.range other.range := by
  have hlen := parse_prefixLen value proxy h
  refine ⟨fun ip => proxy.contains_iff_covers ip hlen, ?_, ?_, ?_⟩
  · intro bits hbits
    rw [width, hbits] at hlen
    have hle : proxy.prefixLen ≤ 32 := UInt8.le_iff_toNat_le.mpr hlen
    exact ⟨hle, shift_lt 32 _ hle⟩
  · intro bits hbits
    rw [width, hbits] at hlen
    have hle : proxy.prefixLen ≤ 128 := UInt8.le_iff_toNat_le.mpr hlen
    exact ⟨hle, shift_lt 128 _ hle⟩
  · intro value' other hother
    have hlen' := parse_prefixLen value' other hother
    rcases UInt8.le_total proxy.prefixLen other.prefixLen with hle | hle
    · rcases proxy.range_nested other hlen hlen' hle with hsub | happart
      · exact Or.inl hsub
      · exact Or.inr (Or.inr happart)
    · rcases other.range_nested proxy hlen' hlen hle with hsub | happart
      · exact Or.inr (Or.inl hsub)
      · exact Or.inr (Or.inr happart.symm)

/-- `10.1.2.3/8` has host bits, and holds `10.200.0.1` but not `11.0.0.1`. -/
theorem cidr_exact_eight : ∃ proxy, parse "10.1.2.3/8" = .ok proxy ∧
    proxy.contains (.v4 0x0AC80001) = true ∧ proxy.contains (.v4 0x0B000001) = false := by
  have hparse : parse "10.1.2.3/8" = .ok ⟨.v4 0x0A010203, 8⟩ := by decide
  have hexact := (cidr_exact _ _ hparse).1
  have hshare : ∀ i < 8, BitVec.getMsbD (0x0A010203 : BitVec 32) i =
      BitVec.getMsbD (0x0AC80001 : BitVec 32) i := by decide
  refine ⟨_, hparse, (hexact _).mpr hshare, Bool.eq_false_iff.mpr fun h => ?_⟩
  have hother := (hexact _).mp h
  exact absurd (hother 7 (by decide)) (by decide)

end TrustedProxy

namespace TrustedProxies

/-- The entries of a configuration text: what stands between its commas. -/
def items (value : String) : List String := ((split ',' value).map trim).filter (· ≠ "")

/-- The address lies in the range of one of the configured entries. -/
def Configured (value : String) (ip : IpAddr) : Prop :=
  ∃ item ∈ items value, ∃ entry, TrustedProxy.parse item = .ok entry ∧ entry.Covers ip

/-- A peer is trusted when it lies in a configured range. -/
theorem isTrusted_iff (value : String) (proxies : TrustedProxies) (ip : IpAddr)
    (h : parse value = .ok proxies) : proxies.isTrusted ip = true ↔ Configured value ip := by
  unfold parse at h
  rw [bind_eq_ok] at h
  obtain ⟨entries, hentries, h⟩ := h
  cases h
  rw [mapM_eq_ok] at hentries
  change List.Forall₂ _ (items value) entries at hentries
  rw [isTrusted, List.any_eq_true]
  constructor
  · intro hgiven
    obtain ⟨entry, hmem, hcontains⟩ := hgiven
    obtain ⟨item, hitem, hparse⟩ := exists_left_of_mem hentries entry hmem
    refine ⟨item, hitem, entry, hparse, ?_⟩
    exact (entry.contains_iff_covers ip (TrustedProxy.parse_prefixLen item entry hparse)).mp
      hcontains
  · intro hgiven
    obtain ⟨item, hitem, entry, hparse, hcovers⟩ := hgiven
    obtain ⟨entry', hmem, hparse'⟩ := exists_right_of_mem hentries item hitem
    obtain rfl : entry = entry' := Except.ok.inj (hparse.symm.trans hparse')
    exact ⟨entry, hmem, (entry.contains_iff_covers ip
      (TrustedProxy.parse_prefixLen item entry hparse)).mpr hcovers⟩

theorem resolve_of_untrusted (proxies : TrustedProxies) (headers : HeaderMap) (peer : IpAddr)
    (h : proxies.isTrusted peer = false) : proxies.resolve headers peer = peer := by
  unfold resolve
  rw [if_pos h]

end TrustedProxies

end RedisBridge.ClientAddress
