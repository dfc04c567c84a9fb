import Mathlib.Data.List.AList
import Mathlib.Data.Set.Card

/-!
Finite tables with one value for each key, as association lists. The library
has lookup, insertion and erasure; this module adds the operations of a hash
map that filter and count entries, with their effect on every lookup. The order
of the entries is never observed by `lookup`, `len` or `countValues`.
-/
namespace RedisBridge.AssocTables

variable {α β : Type*} [DecidableEq α]

/-- A finite map from `α` to `β`. -/
abbrev Table (α β : Type*) := AList (fun _ : α => β)

namespace Table

def len (t : Table α β) : ℕ := t.entries.length

/-- Keep the entries that satisfy the predicate. -/
def retain (p : α → β → Bool) (t : Table α β) : Table α β :=
  ⟨t.entries.filter (fun e => p e.1 e.2), by
    have h := t.nodupKeys
    rw [List.nodupKeys_iff_pairwise] at h ⊢
    exact h.filter _⟩

/-- How many stored values satisfy the predicate. -/
def countValues (p : β → Bool) (t : Table α β) : ℕ := t.entries.countP (fun e => p e.2)

theorem lookup_eq_some_iff (t : Table α β) (a : α) (b : β) :
    t.lookup a = some b ↔ (⟨a, b⟩ : Sigma fun _ : α => β) ∈ t.entries :=
  AList.mem_lookup_iff

theorem lookup_retain (p : α → β → Bool) (t : Table α β) (a : α) :
    (retain p t).lookup a = (t.lookup a).filter (p a) := by
  apply Option.ext
  intro b
  rw [lookup_eq_some_iff, Option.filter_eq_some_iff, lookup_eq_some_iff]
  simp only [retain, List.mem_filter]

omit [DecidableEq α] in
theorem len_retain (p : β → Bool) (t : Table α β) :
    (retain (fun _ => p) t).len = t.countValues p := by
  unfold len retain countValues
  rw [List.countP_eq_length_filter]

omit [DecidableEq α] in
theorem countValues_retain (p q : β → Bool) (t : Table α β) :
    (retain (fun _ => p) t).countValues q = t.countValues (fun b => q b && p b) := by
  unfold countValues retain
  rw [List.countP_filter]

omit [DecidableEq α] in
/-- Each counted value satisfies a second predicate or does not. -/
theorem countValues_split (p q : β → Bool) (t : Table α β) :
    t.countValues p =
      t.countValues (fun b => p b && q b) + t.countValues (fun b => p b && !q b) := by
  unfold countValues
  rw [List.countP_eq_countP_filter_add t.entries _ (fun e => q e.2), List.countP_filter,
    List.countP_filter]

/-- Counting values counts the keys that hold them. -/
theorem encard_lookup (p : β → Bool) (t : Table α β) :
    {a | ∃ b, t.lookup a = some b ∧ p b = true}.encard = t.countValues p := by
  have hnodup : ((t.entries.filter (fun e => p e.2)).map Sigma.fst).Nodup :=
    (retain (fun _ => p) t).nodupKeys
  have hset : {a | ∃ b, t.lookup a = some b ∧ p b = true} =
      (((t.entries.filter (fun e => p e.2)).map Sigma.fst).toFinset : Set α) := by
    ext a
    simp only [Set.mem_ofPred_eq, List.coe_toFinset, List.mem_map, List.mem_filter]
    constructor
    · rintro ⟨b, hb, hp⟩
      exact ⟨⟨a, b⟩, ⟨(lookup_eq_some_iff t a b).mp hb, hp⟩, rfl⟩
    · rintro ⟨⟨a', b⟩, ⟨hmem, hp⟩, rfl⟩
      exact ⟨b, (lookup_eq_some_iff t a' b).mpr hmem, hp⟩
  rw [hset, Set.encard_coe_eq_coe_finsetCard, List.toFinset_card_of_nodup hnodup, List.length_map,
    countValues, List.countP_eq_length_filter]

/-- A table that holds nothing for any key is empty. -/
theorem len_eq_zero_of_lookup (t : Table α β) (h : ∀ a, t.lookup a = none) : t.len = 0 := by
  by_contra hne
  obtain ⟨e, he⟩ := List.exists_mem_of_length_pos (Nat.pos_of_ne_zero hne)
  have hlook : t.lookup e.1 = some e.2 := (lookup_eq_some_iff t e.1 e.2).mpr he
  rw [h e.1] at hlook
  cases hlook

theorem mem_of_lookup (t : Table α β) (a : α) (b : β) (h : t.lookup a = some b) : a ∈ t := by
  rw [← AList.lookup_isSome, h]
  rfl

theorem len_insert_of_mem (t : Table α β) (a : α) (b : β) (h : a ∈ t) :
    len (t.insert a b : Table α β) = t.len := by
  have hmem : ∃ e ∈ t.entries, a = e.1 := by
    obtain ⟨b', hb⟩ := Option.isSome_iff_exists.mp (AList.lookup_isSome.mpr h)
    exact ⟨⟨a, b'⟩, (lookup_eq_some_iff t a b').mp hb, rfl⟩
  obtain ⟨e, he, hkey⟩ := hmem
  have hpos := List.length_pos_of_mem he
  unfold len
  rw [AList.entries_insert, List.length_cons, List.kerase,
    List.length_eraseP_of_mem he (by simp [hkey])]
  omega

theorem len_insert_le (t : Table α β) (a : α) (b : β) :
    len (t.insert a b : Table α β) ≤ t.len + 1 := by
  by_cases h : a ∈ t
  · rw [len_insert_of_mem t a b h]
    omega
  · unfold len
    rw [AList.entries_insert_of_notMem h, List.length_cons]

omit [DecidableEq α] in
theorem len_retain_le (p : α → β → Bool) (t : Table α β) : (retain p t).len ≤ t.len :=
  List.length_filter_le _ _

theorem len_erase_le (t : Table α β) (a : α) : len (t.erase a : Table α β) ≤ t.len :=
  List.length_eraseP_le

end Table

end RedisBridge.AssocTables
