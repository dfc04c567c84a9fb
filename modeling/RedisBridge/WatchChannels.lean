import Mathlib.Order.Basic

/-!
A watch channel keeps its latest value under a version that every send
increases. A receiver remembers the version that it has marked as seen, and
waits until the channel's version is another one.

Where writers change some shared state first and announce the change through
the channel afterwards, an observer that marks the version before it looks may
rely on what it finds until something newer is announced, as long as no writer
is between its change and its announcement.
-/
namespace RedisBridge.WatchChannels

variable {α : Type*}

structure Watch (α : Type*) where
  value : α
  version : ℕ
  deriving DecidableEq

namespace Watch

def channel (value : α) : Watch α := ⟨value, 0⟩

def sendModify (watch : Watch α) (modify : α → α) : Watch α :=
  ⟨modify watch.value, watch.version + 1⟩

/-- Nothing is sent where the modification declines. -/
def sendIfModified (watch : Watch α) (modify : α → Option α) : Watch α × Bool :=
  match modify watch.value with
  | some value => (⟨value, watch.version + 1⟩, true)
  | none => (watch, false)

def hasChanged (watch : Watch α) (seen : ℕ) : Bool := watch.version ≠ seen

theorem hasChanged_eq_true (watch : Watch α) (seen : ℕ) :
    watch.hasChanged seen = true ↔ seen ≠ watch.version := by
  simp only [hasChanged, decide_eq_true_eq]
  exact ne_comm

end Watch

/-- A fact found after `seen` was marked, as far as it may be relied on. -/
def Observed (seen version : ℕ) (quiet fact : Prop) : Prop :=
  seen ≤ version ∧ (seen = version → quiet → fact)

namespace Observed

variable {quiet quiet' fact fact' : Prop}

theorem intro (version : ℕ) (h : quiet → fact) : Observed version version quiet fact :=
  ⟨Nat.le_refl version, fun _ => h⟩

theorem imp (seen version : ℕ) (h : Observed seen version quiet fact)
    (himp : (quiet → fact) → quiet' → fact') : Observed seen version quiet' fact' :=
  ⟨h.1, fun heq => himp (h.2 heq)⟩

/-- A writer that has not announced its change yet suspends every observation. -/
theorem written (seen version : ℕ) (h : Observed seen version quiet fact) (hnot : ¬quiet') :
    Observed seen version quiet' fact' :=
  ⟨h.1, fun _ hquiet => absurd hquiet hnot⟩

/-- An announcement makes every earlier mark an old one. -/
theorem announced (seen version : ℕ) (h : Observed seen version quiet fact) :
    Observed seen (version + 1) quiet' fact' := by
  have hle := h.1
  refine ⟨by omega, fun heq => ?_⟩
  omega

end Observed

end RedisBridge.WatchChannels
