import Mathlib.Data.List.Basic

/-!
Scans of a separated text: the first piece that reads as something. Separators
split a scan, padding that no reading minds can be left out, and splitting at one
separator and then at another is splitting at both. Two scans of a list agree when
they agree on every element up to the first one that counts.
-/
namespace RedisBridge.SeparatedText

variable {α β : Type*} (sep : α → Bool) (read : List α → Option β)

/-- The first of the pieces between separators that reads as something. -/
def scan (cs : List α) : Option β := (cs.splitOnP sep).findSome? read

theorem scan_append_cons (left right : List α) (c : α) (hc : sep c = true) :
    scan sep read (left ++ c :: right) = (scan sep read left).or (scan sep read right) := by
  unfold scan
  rw [List.splitOnP_append_cons left right hc, List.findSome?_append]

/-- What is no separator joins the first piece. -/
theorem splitOnP_free_append (front cs : List α) (h : ∀ c ∈ front, sep c = false) :
    (front ++ cs).splitOnP sep = (cs.splitOnP sep).modifyHead (front ++ ·) := by
  induction front with
  | nil =>
    obtain ⟨piece, rest, hsplit⟩ := List.exists_cons_of_ne_nil (List.splitOnP_ne_nil sep cs)
    rw [List.nil_append, hsplit]
    rfl
  | cons c front ih =>
    obtain ⟨hc, hfront⟩ := List.forall_mem_cons.mp h
    rw [List.cons_append, List.splitOnP_cons_eq_if_modifyHead, hc, if_neg Bool.false_ne_true,
      ih hfront, List.modifyHead_modifyHead]
    rfl

theorem scan_free_append (front cs : List α) (h : ∀ c ∈ front, sep c = false)
    (hread : ∀ piece, read (front ++ piece) = read piece) :
    scan sep read (front ++ cs) = scan sep read cs := by
  obtain ⟨piece, rest, hsplit⟩ := List.exists_cons_of_ne_nil (List.splitOnP_ne_nil sep cs)
  unfold scan
  rw [splitOnP_free_append sep front cs h, hsplit, List.modifyHead_cons, List.findSome?_cons,
    List.findSome?_cons, hread]

/-- A scan, with the part of the piece at hand that was passed already. -/
def scanFrom : List α → List α → Option β
  | passed, [] => read passed
  | passed, c :: rest =>
      if sep c = true then (read passed).or (scanFrom [] rest) else scanFrom (passed ++ [c]) rest

theorem findSome?_cons_or (x : α) (xs : List α) (f : α → Option β) :
    (x :: xs).findSome? f = (f x).or (xs.findSome? f) := by
  rw [List.findSome?_cons]
  cases f x <;> rfl

theorem findSome?_flatMap {γ δ : Type*} (xs : List γ) (pieces : γ → List δ) (f : δ → Option β) :
    (xs.flatMap pieces).findSome? f = xs.findSome? (fun x => (pieces x).findSome? f) := by
  induction xs with
  | nil => rfl
  | cons x rest ih =>
    rw [List.flatMap_cons, List.findSome?_append, ih, findSome?_cons_or]

theorem scanFrom_eq (passed cs : List α) :
    scanFrom sep read passed cs = ((cs.splitOnP sep).modifyHead (passed ++ ·)).findSome? read := by
  induction cs generalizing passed with
  | nil => simp [scanFrom]
  | cons c rest ih =>
    rw [scanFrom, List.splitOnP_cons_eq_if_modifyHead]
    split_ifs
    · obtain ⟨piece, more, hsplit⟩ := List.exists_cons_of_ne_nil (List.splitOnP_ne_nil sep rest)
      rw [ih, hsplit]
      simp only [List.modifyHead_cons, List.append_nil, List.nil_append]
      exact (findSome?_cons_or passed (piece :: more) read).symm
    · rw [ih, List.modifyHead_modifyHead]
      simp [Function.comp_def]

theorem scan_eq_scanFrom (cs : List α) : scan sep read cs = scanFrom sep read [] cs := by
  obtain ⟨piece, rest, hsplit⟩ := List.exists_cons_of_ne_nil (List.splitOnP_ne_nil sep cs)
  rw [scanFrom_eq, scan, hsplit]
  rfl

theorem scanFrom_append_free (passed cs back : List α) (h : ∀ c ∈ back, sep c = false)
    (hread : ∀ piece, read (piece ++ back) = read piece) :
    scanFrom sep read passed (cs ++ back) = scanFrom sep read passed cs := by
  induction cs generalizing passed with
  | nil =>
    rw [List.nil_append, scanFrom_eq, List.splitOnP_eq_singleton h]
    simp only [List.modifyHead_cons, List.findSome?_singleton]
    exact hread passed
  | cons c rest ih =>
    rw [List.cons_append, scanFrom, scanFrom, ih, ih]

theorem scan_append_free (cs back : List α) (h : ∀ c ∈ back, sep c = false)
    (hread : ∀ piece, read (piece ++ back) = read piece) :
    scan sep read (cs ++ back) = scan sep read cs := by
  rw [scan_eq_scanFrom, scan_eq_scanFrom, scanFrom_append_free sep read [] cs back h hread]

/-- Pieces of pieces are the pieces at both separators. -/
theorem flatMap_splitOnP (other : α → Bool) (cs : List α) :
    (cs.splitOnP sep).flatMap (List.splitOnP other) = cs.splitOnP (fun c => sep c || other c) := by
  induction cs with
  | nil => rfl
  | cons c rest ih =>
    obtain ⟨piece, more, hsplit⟩ := List.exists_cons_of_ne_nil (List.splitOnP_ne_nil sep rest)
    rw [hsplit, List.flatMap_cons] at ih
    rw [List.splitOnP_cons_eq_if_modifyHead, List.splitOnP_cons_eq_if_modifyHead, ← ih, hsplit]
    cases hsep : sep c with
    | true => simp
    | false =>
      obtain ⟨first, others, hfirst⟩ :=
        List.exists_cons_of_ne_nil (List.splitOnP_ne_nil other piece)
      cases hother : other c with
      | true => simp [List.splitOnP_cons_eq_if_modifyHead, hother]
      | false => simp [List.splitOnP_cons_eq_if_modifyHead, hother, hfirst]

/-! Two searches of one list. -/

variable {γ : Type*} (f g : γ → Option β)

theorem findSome?_eq_find? (xs : List γ) :
    xs.findSome? f = (xs.find? (fun x => (f x).isSome)).bind f := by
  induction xs with
  | nil => rfl
  | cons x rest ih =>
    rw [List.findSome?_cons, List.find?_cons]
    cases hx : f x with
    | none => exact ih
    | some b => exact hx.symm

/-- Two searches agree on the answer, and on the element that gives it, exactly when
they agree on every element up to the first one that the second search takes. -/
theorem search_agree_iff (xs : List γ) :
    (xs.findSome? f = xs.findSome? g ∧
      xs.find? (fun x => (f x).isSome) = xs.find? (fun x => (g x).isSome)) ↔
    ∀ before x after, xs = before ++ x :: after → (∀ y ∈ before, g y = none) → f x = g x := by
  induction xs with
  | nil =>
    refine iff_of_true ⟨rfl, rfl⟩ ?_
    intro before x after h
    exact absurd h (List.append_ne_nil_of_right_ne_nil before (List.cons_ne_nil x after)).symm
  | cons x rest ih =>
    simp only [List.findSome?_cons, List.find?_cons]
    have hsplit : (∀ before y after, x :: rest = before ++ y :: after →
        (∀ z ∈ before, g z = none) → f y = g y) ↔
          f x = g x ∧ (g x = none → ∀ before y after, rest = before ++ y :: after →
            (∀ z ∈ before, g z = none) → f y = g y) := by
      constructor
      · intro h
        refine ⟨h [] x rest rfl (fun _ hz => absurd hz List.not_mem_nil), ?_⟩
        intro hx before y after hrest hbefore
        exact h (x :: before) y after (by rw [hrest]; rfl)
          (List.forall_mem_cons.mpr ⟨hx, hbefore⟩)
      · intro h before y after heq hbefore
        cases before with
        | nil =>
          obtain ⟨rfl, _⟩ := List.cons.inj heq
          exact h.1
        | cons z before =>
          obtain ⟨rfl, hrest⟩ := List.cons.inj heq
          obtain ⟨hx, hmore⟩ := List.forall_mem_cons.mp hbefore
          exact h.2 hx before y after hrest hmore
    rw [hsplit, ← ih]
    -- an element that one search takes cannot be the first of the other behind it
    have htaken (h : γ → Option β) (hx : h x = none) :
        rest.find? (fun y => (h y).isSome) ≠ some x := by
      intro hfind
      have hsome := List.find?_some hfind
      rw [hx] at hsome
      cases hsome
    cases hf : f x with
    | none =>
      cases hg : g x with
      | none => simp
      | some b => simp [htaken f hf]
    | some a =>
      cases hg : g x with
      | none => simp [(htaken g hg).symm]
      | some b => simp

end RedisBridge.SeparatedText
