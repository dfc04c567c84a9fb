import Mathlib.Data.List.Forall2

/-!
Rules for computations that stop at their first error: what an accepted
sequence says about each of its parts. `bailIf` is the guard that stops under a
condition, `okOr` the reading of an option that must be present.
-/
namespace RedisBridge.Fallible

variable {ε α β : Type}

def bailIf (c : Prop) [Decidable c] (e : ε) : Except ε Unit :=
  if c then .error e else .ok ⟨⟩

def okOr (o : Option α) (e : ε) : Except ε α :=
  match o with
  | some a => .ok a
  | none => .error e

theorem bind_eq_ok (x : Except ε α) (f : α → Except ε β) (b : β) :
    (x >>= f) = .ok b ↔ ∃ a, x = .ok a ∧ f a = .ok b := by
  cases x with
  | error e =>
    constructor
    · intro h
      cases h
    · rintro ⟨_, h, _⟩
      cases h
  | ok a =>
    constructor
    · intro h
      exact ⟨a, rfl, h⟩
    · rintro ⟨_, h, hb⟩
      cases h
      exact hb

/-- A check that yields nothing passes before what follows it is read. -/
theorem check_eq_ok (x : Except ε Unit) (f : Unit → Except ε β) (b : β) :
    (x >>= f) = .ok b ↔ x = .ok () ∧ f () = .ok b := by
  rw [bind_eq_ok]
  constructor
  · rintro ⟨_, hx, hf⟩
    exact ⟨hx, hf⟩
  · rintro ⟨hx, hf⟩
    exact ⟨(), hx, hf⟩

theorem pure_eq_ok (a b : α) : (pure a : Except ε α) = .ok b ↔ a = b := by
  constructor
  · intro h
    cases h
    rfl
  · rintro rfl
    rfl

/-- A sequence fails where its first failing part fails. -/
theorem bind_eq_error (x : Except ε α) (f : α → Except ε β) (e : ε) :
    (x >>= f) = .error e ↔ x = .error e ∨ ∃ a, x = .ok a ∧ f a = .error e := by
  cases x with
  | error e' =>
    constructor
    · intro h
      exact Or.inl (congrArg Except.error (Except.error.inj h))
    · rintro (h | ⟨_, h, _⟩)
      · exact congrArg Except.error (Except.error.inj h)
      · cases h
  | ok a =>
    constructor
    · intro h
      exact Or.inr ⟨a, rfl, h⟩
    · rintro (h | ⟨_, h, hf⟩)
      · cases h
      · cases h
        exact hf

theorem bailIf_eq_error (c : Prop) [Decidable c] (e e' : ε) :
    bailIf c e = .error e' ↔ c ∧ e = e' := by
  unfold bailIf
  by_cases hc : c
  · simp [hc]
  · simp [hc]

theorem bailIf_eq_ok (c : Prop) [Decidable c] (e : ε) (u : Unit) :
    bailIf c e = .ok u ↔ ¬ c := by
  unfold bailIf
  by_cases hc : c
  · simp [hc]
  · simp [hc]

theorem mapError_eq_ok {δ : Type} (x : Except ε α) (f : ε → δ) (a : α) :
    x.mapError f = .ok a ↔ x = .ok a := by
  cases x with
  | error e => simp [Except.mapError]
  | ok b => simp [Except.mapError]

theorem okOr_eq_ok (o : Option α) (e : ε) (a : α) : okOr o e = .ok a ↔ o = some a := by
  cases o with
  | none => simp [okOr]
  | some b => simp [okOr]

/-- A list is accepted exactly when each element is, with one result each, in order. -/
theorem mapM_eq_ok (f : α → Except ε β) (xs : List α) (ys : List β) :
    xs.mapM f = .ok ys ↔ List.Forall₂ (fun x y => f x = .ok y) xs ys := by
  induction xs generalizing ys with
  | nil =>
    rw [List.mapM_nil, pure_eq_ok, List.forall₂_nil_left_iff]
    exact eq_comm
  | cons x rest ih =>
    rw [List.mapM_cons, bind_eq_ok, List.forall₂_cons_left_iff]
    constructor
    · rintro ⟨y, hy, htail⟩
      obtain ⟨more, hmore, hys⟩ := (bind_eq_ok _ _ _).mp htail
      exact ⟨y, more, hy, (ih more).mp hmore, ((pure_eq_ok _ _).mp hys).symm⟩
    · rintro ⟨y, more, hy, hmore, rfl⟩
      exact ⟨y, hy, (bind_eq_ok _ _ _).mpr ⟨more, (ih more).mpr hmore, rfl⟩⟩

theorem mapM_eq_some (f : α → Option β) (xs : List α) (ys : List β) :
    xs.mapM f = some ys ↔ List.Forall₂ (fun x y => f x = some y) xs ys := by
  induction xs generalizing ys with
  | nil =>
    rw [List.mapM_nil, List.forall₂_nil_left_iff]
    exact Option.some_inj.trans eq_comm
  | cons x rest ih =>
    rw [List.mapM_cons, List.forall₂_cons_left_iff, Option.bind_eq_bind, Option.bind_eq_some_iff]
    constructor
    · intro h
      obtain ⟨y, hy, htail⟩ := h
      obtain ⟨more, hmore, hys⟩ := Option.bind_eq_some_iff.mp htail
      exact ⟨y, more, hy, (ih more).mp hmore, (Option.some.inj hys).symm⟩
    · intro h
      obtain ⟨y, more, hy, hmore, rfl⟩ := h
      exact ⟨y, hy, Option.bind_eq_some_iff.mpr ⟨more, (ih more).mpr hmore, rfl⟩⟩

theorem mapM_ok_of_forall (f : α → Except ε β) (xs : List α)
    (h : ∀ x ∈ xs, ∃ y, f x = .ok y) : ∃ ys, xs.mapM f = .ok ys := by
  induction xs with
  | nil => exact ⟨[], List.mapM_nil⟩
  | cons x rest ih =>
    obtain ⟨y, hy⟩ := h x List.mem_cons_self
    obtain ⟨ys, hys⟩ := ih (fun x' hx' => h x' (List.mem_cons_of_mem x hx'))
    have hall := (mapM_eq_ok f rest ys).mp hys
    exact ⟨y :: ys, (mapM_eq_ok f (x :: rest) (y :: ys)).mpr (List.Forall₂.cons hy hall)⟩

/-- What every accepted step keeps of the part that is done holds at the end of
an accepted fold. -/
theorem foldlM_prefix_invariant (f : β → α → Except ε β) (inv : List α → β → Prop)
    (hstep : ∀ done b a b', inv done b → f b a = .ok b' → inv (done ++ [a]) b')
    (done xs : List α) (b b' : β) (hb : inv done b) (h : xs.foldlM f b = .ok b') :
    inv (done ++ xs) b' := by
  induction xs generalizing done b with
  | nil =>
    rw [List.foldlM_nil, pure_eq_ok] at h
    rw [List.append_nil]
    exact h ▸ hb
  | cons x rest ih =>
    rw [List.foldlM_cons, bind_eq_ok] at h
    obtain ⟨mid, hmid, hrest⟩ := h
    rw [List.append_cons]
    exact ih (done ++ [x]) mid (hstep done b x mid hb hmid) hrest

theorem foldlM_invariant (f : β → α → Except ε β) (inv : β → Prop)
    (hstep : ∀ b a b', inv b → f b a = .ok b' → inv b') (xs : List α) (b b' : β)
    (hb : inv b) (h : xs.foldlM f b = .ok b') : inv b' :=
  foldlM_prefix_invariant f (fun _ => inv) (fun _ => hstep) [] xs b b' hb h

/-- A fold that fails has an accepted part and a first element that fails. -/
theorem foldlM_eq_error (f : β → α → Except ε β) (xs : List α) (b : β) (e : ε)
    (h : xs.foldlM f b = .error e) :
    ∃ done x rest mid, xs = done ++ x :: rest ∧ done.foldlM f b = .ok mid ∧
      f mid x = .error e := by
  induction xs generalizing b with
  | nil => cases h
  | cons x rest ih =>
    rw [List.foldlM_cons] at h
    cases hx : f b x with
    | error e' =>
      rw [hx] at h
      obtain rfl : e' = e := Except.error.inj h
      exact ⟨[], x, rest, b, rfl, rfl, hx⟩
    | ok mid =>
      rw [hx] at h
      obtain ⟨done, y, more, last, rfl, hdone, hy⟩ := ih mid h
      refine ⟨x :: done, y, more, last, rfl, ?_, hy⟩
      rw [List.foldlM_cons, bind_eq_ok]
      exact ⟨mid, hx, hdone⟩

variable {R : α → β → Prop} {xs : List α} {ys : List β}

/-- Every input of a matched pair of lists has its result. -/
theorem exists_right_of_mem (h : List.Forall₂ R xs ys) (x : α) (hx : x ∈ xs) :
    ∃ y ∈ ys, R x y := by
  obtain ⟨i, hi, rfl⟩ := List.getElem_of_mem hx
  have hi' : i < ys.length := h.length_eq ▸ hi
  exact ⟨ys[i], List.getElem_mem hi', h.get hi hi'⟩

/-- Every result of a matched pair of lists comes from an input. -/
theorem exists_left_of_mem (h : List.Forall₂ R xs ys) (y : β) (hy : y ∈ ys) :
    ∃ x ∈ xs, R x y := by
  obtain ⟨i, hi, rfl⟩ := List.getElem_of_mem hy
  have hi' : i < xs.length := h.length_eq ▸ hi
  exact ⟨xs[i], List.getElem_mem hi', h.get hi' hi⟩

theorem exists_forall₂ {R : α → β → Prop} (xs : List α) (h : ∀ x ∈ xs, ∃ y, R x y) :
    ∃ ys, List.Forall₂ R xs ys := by
  induction xs with
  | nil => exact ⟨[], .nil⟩
  | cons x rest ih =>
    obtain ⟨y, hy⟩ := h x List.mem_cons_self
    obtain ⟨ys, hys⟩ := ih (fun x' hx' => h x' (List.mem_cons_of_mem x hx'))
    exact ⟨y :: ys, .cons hy hys⟩

end RedisBridge.Fallible
