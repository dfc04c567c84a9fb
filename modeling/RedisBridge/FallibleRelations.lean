import Mathlib.Data.List.Forall2
import RedisBridge.Fallible

/-!
Two computations side by side that may stop at an error. They agree if they stop
at the same error, or both yield and the results are related. Agreement goes
through every step of a sequence and along folds over matched lists, so that what
two inputs have in common can be followed to what is made of them.
-/
namespace RedisBridge.FallibleRelations

open Fallible

variable {ε δ α β γ κ : Type}

def Agrees (R : α → β → Prop) : Except ε α → Except ε β → Prop
  | .error e, .error e' => e = e'
  | .ok a, .ok b => R a b
  | _, _ => False

theorem agrees_of_eq (x y : Except ε α) (h : x = y) : Agrees Eq x y := by
  subst h
  cases x with
  | error e => exact rfl
  | ok a => exact rfl

theorem eq_of_agrees (x y : Except ε α) (h : Agrees Eq x y) : x = y := by
  cases x with
  | error e =>
    cases y with
    | error e' => exact congrArg Except.error h
    | ok b => exact h.elim
  | ok a =>
    cases y with
    | error e' => exact h.elim
    | ok b => exact congrArg Except.ok h

/-- A sequence agrees where its first parts agree and its rests agree on all
related results. -/
theorem Agrees.bind {R : α → β → Prop} {S : γ → κ → Prop} {x : Except ε α} {y : Except ε β}
    {f : α → Except ε γ} {g : β → Except ε κ} (hfirst : Agrees R x y)
    (hrest : ∀ a b, R a b → Agrees S (f a) (g b)) : Agrees S (x >>= f) (y >>= g) := by
  cases x with
  | error e =>
    cases y with
    | error e' => exact hfirst
    | ok b => exact hfirst.elim
  | ok a =>
    cases y with
    | error e' => exact hfirst.elim
    | ok b => exact hrest a b hfirst

theorem Agrees.mapError {R : α → β → Prop} {x : Except ε α} {y : Except ε β} (h : Agrees R x y)
    (f : ε → δ) : Agrees R (x.mapError f) (y.mapError f) := by
  cases x with
  | error e =>
    cases y with
    | error e' => exact congrArg f h
    | ok b => exact h.elim
  | ok a =>
    cases y with
    | error e' => exact h.elim
    | ok b => exact h

theorem agrees_bailIf (c c' : Prop) [Decidable c] [Decidable c'] (e : ε) (h : c ↔ c') :
    Agrees Eq (bailIf c e) (bailIf c' e) := by
  have hsame : bailIf c e = bailIf c' e := by
    unfold bailIf
    by_cases hc : c
    · rw [if_pos hc, if_pos (h.mp hc)]
    · rw [if_neg hc, if_neg (fun hc' => hc (h.mpr hc'))]
  exact agrees_of_eq _ _ hsame

theorem agrees_okOr (R : α → β → Prop) (x : Option α) (y : Option β) (e : ε)
    (h : Option.Rel R x y) : Agrees R (okOr x e) (okOr y e) := by
  cases h with
  | some hrel => exact hrel
  | none => exact rfl

/-- Options that are present alike are related where their values are. -/
theorem rel_of_isSome (R : α → β → Prop) (x : Option α) (y : Option β)
    (hsame : y.isSome = x.isSome) (h : ∀ a b, x = some a → y = some b → R a b) :
    Option.Rel R x y := by
  cases x with
  | none =>
    cases y with
    | none => exact .none
    | some b => cases hsame
  | some a =>
    cases y with
    | none => cases hsame
    | some b => exact .some (h a b rfl rfl)

/-- Folds over matched lists agree where every step agrees. -/
theorem Agrees.foldlM {P : γ → κ → Prop} {R : α → β → Prop} {f : α → γ → Except ε α}
    {g : β → κ → Except ε β}
    (hstep : ∀ a b x y, R a b → P x y → Agrees R (f a x) (g b y))
    {xs : List γ} {ys : List κ} (hmatched : List.Forall₂ P xs ys) {a : α} {b : β} (hstart : R a b) :
    Agrees R (xs.foldlM f a) (ys.foldlM g b) := by
  induction hmatched generalizing a b with
  | nil => exact hstart
  | cons hhead _ ih =>
    rw [List.foldlM_cons, List.foldlM_cons]
    exact Agrees.bind (hstep a b _ _ hstart hhead) (fun a' b' hrel => ih hrel)

end RedisBridge.FallibleRelations
