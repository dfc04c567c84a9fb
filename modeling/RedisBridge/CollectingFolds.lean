import RedisBridge.Fallible
import Mathlib.Data.Finset.Dedup
import Mathlib.Data.Finset.Lattice.Lemmas

/-!
Folds that collect one item for each input and stop at an item whose keys were
met before. Keys are fresh when they are distinct and none of them was met. A
collector says what is asked of a list of items in a state and which state it
leads to, so that a fold accepts a list exactly when each input has its item and
the collector accepts the items, all at once.
-/
namespace RedisBridge.CollectingFolds

open Fallible

variable {κ : Type}

/-- Distinct keys, none of them met before. -/
def Fresh (seen : Finset κ) (keys : List κ) : Prop := keys.Nodup ∧ ∀ key ∈ keys, key ∉ seen

theorem fresh_nil (seen : Finset κ) : Fresh seen [] :=
  ⟨List.nodup_nil, fun _ hmem => absurd hmem List.not_mem_nil⟩

theorem fresh_singleton (seen : Finset κ) (key : κ) : Fresh seen [key] ↔ key ∉ seen := by
  unfold Fresh
  rw [List.forall_mem_singleton]
  exact and_iff_right (List.nodup_singleton key)

theorem fresh_empty (keys : List κ) : Fresh ∅ keys ↔ keys.Nodup :=
  and_iff_left (fun key _ => Finset.notMem_empty key)

/-- Keys are fresh in two parts when the second part is fresh after the first. -/
theorem fresh_append [DecidableEq κ] (seen : Finset κ) (first second : List κ) :
    Fresh seen (first ++ second) ↔ Fresh seen first ∧ Fresh (seen ∪ first.toFinset) second := by
  unfold Fresh
  rw [List.nodup_append, List.forall_mem_append]
  constructor
  · intro h
    obtain ⟨⟨hfirst, hsecond, hne⟩, hnew, hlater⟩ := h
    refine ⟨⟨hfirst, hnew⟩, hsecond, ?_⟩
    intro key hkey hmet
    rcases Finset.mem_union.mp hmet with hseen | hearlier
    · exact hlater key hkey hseen
    · exact hne key (List.mem_toFinset.mp hearlier) key hkey rfl
  · intro h
    obtain ⟨⟨hfirst, hnew⟩, hsecond, hlater⟩ := h
    refine ⟨⟨hfirst, hsecond, ?_⟩, hnew, ?_⟩
    · rintro key hkey other hother rfl
      exact hlater key hother (Finset.mem_union_right _ (List.mem_toFinset.mpr hkey))
    · intro key hkey hseen
      exact hlater key hkey (Finset.mem_union_left _ hseen)

theorem union_append [DecidableEq κ] (seen : Finset κ) (first second : List κ) :
    seen ∪ (first ++ second).toFinset = seen ∪ first.toFinset ∪ second.toFinset := by
  rw [List.toFinset_append, Finset.union_assoc]

theorem union_singleton [DecidableEq κ] (seen : Finset κ) (key : κ) :
    seen ∪ [key].toFinset = insert key seen := by
  rw [List.toFinset_cons, List.toFinset_nil, Finset.union_comm, Finset.insert_union,
    Finset.empty_union]

variable {ε α β σ : Type}

structure Collector (σ β : Type) where
  accepts : σ → List β → Prop
  after : σ → List β → σ
  accepts_nil : ∀ s, accepts s []
  after_nil : ∀ s, after s [] = s
  accepts_cons : ∀ s b bs, accepts s (b :: bs) ↔ accepts s [b] ∧ accepts (after s [b]) bs
  after_cons : ∀ s b bs, after s (b :: bs) = after (after s [b]) bs

/-- A fold whose steps follow a collector follows it as a whole. -/
theorem foldlM_collects (collector : Collector σ β) (f : σ × List β → α → Except ε (σ × List β))
    (R : α → β → Prop)
    (hf : ∀ s out a result, f (s, out) a = .ok result ↔
      ∃ b, R a b ∧ collector.accepts s [b] ∧ result = (collector.after s [b], out ++ [b]))
    (xs : List α) (s : σ) (out : List β) (result : σ × List β) :
    xs.foldlM f (s, out) = .ok result ↔
      ∃ ys, List.Forall₂ R xs ys ∧ collector.accepts s ys ∧
        result = (collector.after s ys, out ++ ys) := by
  induction xs generalizing s out with
  | nil =>
    rw [List.foldlM_nil, pure_eq_ok]
    constructor
    · rintro rfl
      exact ⟨[], .nil, collector.accepts_nil s, by rw [collector.after_nil, List.append_nil]⟩
    · intro h
      obtain ⟨ys, hys, -, rfl⟩ := h
      obtain rfl := List.forall₂_nil_left_iff.mp hys
      rw [collector.after_nil, List.append_nil]
  | cons x rest ih =>
    rw [List.foldlM_cons, bind_eq_ok]
    constructor
    · intro h
      obtain ⟨mid, hmid, hrest⟩ := h
      obtain ⟨y, hxy, hy, rfl⟩ := (hf s out x mid).mp hmid
      obtain ⟨ys, hall, hys, rfl⟩ := (ih (collector.after s [y]) (out ++ [y])).mp hrest
      exact ⟨y :: ys, .cons hxy hall, (collector.accepts_cons s y ys).mpr ⟨hy, hys⟩,
        by rw [collector.after_cons s y ys, List.append_assoc, List.singleton_append]⟩
    · intro h
      obtain ⟨_, hall, haccepts, rfl⟩ := h
      obtain ⟨y, ys, hxy, hrest, rfl⟩ := List.forall₂_cons_left_iff.mp hall
      obtain ⟨hy, hys⟩ := (collector.accepts_cons s y ys).mp haccepts
      refine ⟨_, (hf s out x _).mpr ⟨y, hxy, hy, rfl⟩, ?_⟩
      rw [ih]
      exact ⟨ys, hrest, hys, by
        rw [collector.after_cons s y ys, List.append_assoc, List.singleton_append]⟩

end RedisBridge.CollectingFolds
