import Mathlib.Data.Int.CardIntervalMod
import Mathlib.Data.List.Range

/-!
Numbers below a length in cyclic order. From a starting point every number has a
distance, and the number at a distance; a search along the cycle ends at the
number of least distance that it accepts. Numbers in a row fall on the residues
of a length evenly: two residues are met equally often, but for one time.
-/
namespace RedisBridge.CyclicOrder

/-- The number that stands `offset` steps behind the start. -/
def position (start len offset : ℕ) : ℕ := (start % len + offset) % len

/-- The steps from the start to a number. -/
def distance (start len index : ℕ) : ℕ := (index + len - start % len) % len

theorem position_lt (start len offset : ℕ) (hlen : 0 < len) : position start len offset < len :=
  Nat.mod_lt _ hlen

theorem distance_lt (start len index : ℕ) (hlen : 0 < len) : distance start len index < len :=
  Nat.mod_lt _ hlen

theorem position_zero (start len : ℕ) : position start len 0 = start % len := by
  unfold position
  rw [Nat.add_zero, Nat.mod_mod]

/-- The distance of a number leads to it. -/
theorem position_distance (start len index : ℕ) (h : index < len) :
    position start len (distance start len index) = index := by
  have hstart : start % len < len := Nat.mod_lt start (by omega)
  have hsum : start % len + (index + len - start % len) = index + len := by omega
  unfold position distance
  rw [Nat.add_mod_mod, hsum, Nat.add_mod_right, Nat.mod_eq_of_lt h]

theorem distance_position (start len offset : ℕ) (h : offset < len) :
    distance start len (position start len offset) = offset := by
  have hstart : start % len < len := Nat.mod_lt start (by omega)
  unfold distance position
  rw [Nat.add_sub_assoc hstart.le, Nat.mod_add_mod]
  have hsum : start % len + offset + (len - start % len) = offset + len := by omega
  rw [hsum, Nat.add_mod_right, Nat.mod_eq_of_lt h]

/-! Searching along the cycle. -/

section Search

variable (start len : ℕ) (accept : ℕ → Bool)

theorem find?_position_eq_none :
    ((List.range len).map (position start len)).find? accept = none ↔
      ∀ index < len, accept index = false := by
  rw [List.find?_eq_none]
  constructor
  · intro h index hindex
    have hmem : index ∈ (List.range len).map (position start len) :=
      List.mem_map.mpr ⟨distance start len index,
        List.mem_range.mpr (distance_lt start len index (by omega)),
        position_distance start len index hindex⟩
    exact Bool.eq_false_iff.mpr (h index hmem)
  · intro h index hmem
    obtain ⟨offset, hoffset, rfl⟩ := List.mem_map.mp hmem
    have hlen : 0 < len := Nat.lt_of_le_of_lt (Nat.zero_le _) (List.mem_range.mp hoffset)
    rw [h _ (position_lt start len offset hlen)]
    exact Bool.false_ne_true

/-- What is found is the accepted number of least distance. -/
theorem find?_position_eq_some (index : ℕ) :
    ((List.range len).map (position start len)).find? accept = some index ↔
      index < len ∧ accept index = true ∧ ∀ other < len, accept other = true →
        distance start len index ≤ distance start len other := by
  rw [List.find?_map, Option.map_eq_some_iff]
  simp only [List.find?_range_eq_some, List.mem_range, Function.comp_apply, Bool.not_eq_true']
  constructor
  · intro h
    obtain ⟨offset, ⟨haccept, hoffset, hbefore⟩, rfl⟩ := h
    refine ⟨position_lt start len offset (by omega), haccept, ?_⟩
    intro other hother hgood
    rw [distance_position start len offset hoffset]
    by_contra hless
    have hbad := hbefore _ (Nat.lt_of_not_le hless)
    rw [position_distance start len other hother, hgood] at hbad
    cases hbad
  · intro h
    obtain ⟨hindex, haccept, hleast⟩ := h
    have hposition := position_distance start len index hindex
    refine ⟨distance start len index, ⟨?_, distance_lt start len index (by omega), ?_⟩, hposition⟩
    · rw [hposition]
      exact haccept
    · intro offset hoffset
      have hlt := distance_lt start len index (by omega)
      rw [Bool.eq_false_iff]
      intro hgood
      have hle := hleast _ (position_lt start len offset (by omega)) hgood
      rw [distance_position start len offset (by omega)] at hle
      omega

end Search

/-! Numbers in a row. -/

theorem count_residue (len residue n : ℕ) (h : residue < len) :
    n.count (fun k => k % len = residue) = n / len + if residue < n % len then 1 else 0 := by
  have hmod := Nat.count_modEq_card n (r := len) (by omega) residue
  simp only [Nat.ModEq, Nat.mod_eq_of_lt h] at hmod
  exact hmod

/-- How often numbers in a row meet a residue, from two counts that begin at zero. -/
theorem countP_range'_residue (len residue first count : ℕ) :
    first.count (fun k => k % len = residue) +
      (List.range' first count).countP (fun k => k % len = residue) =
        (first + count).count (fun k => k % len = residue) := by
  rw [Nat.count_add, List.range'_eq_map_range, List.countP_map]
  rfl

/-- Any two residues are met equally often, but for one time. -/
theorem residues_balanced (len first count i j : ℕ) (hi : i < len) (hj : j < len) :
    (List.range' first count).countP (fun k => k % len = i) ≤
      (List.range' first count).countP (fun k => k % len = j) + 1 := by
  have hwindow_i := countP_range'_residue len i first count
  have hwindow_j := countP_range'_residue len j first count
  rw [count_residue len i _ hi, count_residue len i _ hi] at hwindow_i
  rw [count_residue len j _ hj, count_residue len j _ hj] at hwindow_j
  split_ifs at hwindow_i hwindow_j <;> omega

end RedisBridge.CyclicOrder
