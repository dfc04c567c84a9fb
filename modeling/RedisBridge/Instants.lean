import Mathlib.Algebra.Order.Group.Int
import Mathlib.Algebra.Order.Ring.Nat

/-!
Readings of the monotonic clock and time spans, as the standard library keeps
them on Unix: an instant is a signed 64-bit count of seconds with nanoseconds,
a duration an unsigned one. Both are held as their number of nanoseconds
together with the range that the seconds leave. Adding fails outside the range
and subtracting saturates at zero.
-/
namespace RedisBridge.Instants

@[ext] structure Instant where
  nanos : ℤ
  lower : -(2 ^ 63 * 10 ^ 9) ≤ nanos
  upper : nanos < 2 ^ 63 * 10 ^ 9
  deriving DecidableEq

@[ext] structure Duration where
  nanos : ℕ
  bound : nanos < 2 ^ 64 * 10 ^ 9
  deriving DecidableEq

instance : LinearOrder Instant :=
  LinearOrder.lift' Instant.nanos (fun _ _ h => Instant.ext h)

instance : LinearOrder Duration :=
  LinearOrder.lift' Duration.nanos (fun _ _ h => Duration.ext h)

theorem Instant.le_iff (s t : Instant) : s ≤ t ↔ s.nanos ≤ t.nanos := Iff.rfl

theorem Instant.lt_iff (s t : Instant) : s < t ↔ s.nanos < t.nanos := Iff.rfl

theorem Duration.le_iff (a b : Duration) : a ≤ b ↔ a.nanos ≤ b.nanos := Iff.rfl

/-- `Duration::from_secs`. -/
def Duration.fromSecs (secs : Fin (2 ^ 64)) : Duration :=
  ⟨secs.val * 10 ^ 9, by have h := secs.isLt; omega⟩

/-- `Duration::from_millis`. -/
def Duration.fromMillis (millis : Fin (2 ^ 64)) : Duration :=
  ⟨millis.val * 10 ^ 6, by have h := millis.isLt; omega⟩

/-- `Duration::saturating_mul`. -/
def Duration.saturatingMul (d : Duration) (factor : ℕ) : Duration :=
  ⟨min (d.nanos * factor) (2 ^ 64 * 10 ^ 9 - 1), by omega⟩

/-- `Instant::checked_add`; the operator `+` panics where this is `none`. -/
def Instant.checkedAdd (t : Instant) (d : Duration) : Option Instant :=
  if h : t.nanos + d.nanos < 2 ^ 63 * 10 ^ 9 then
    some ⟨t.nanos + d.nanos, by have hl := t.lower; omega, h⟩
  else none

/-- `Instant::duration_since`, zero when the argument is later. -/
def Instant.durationSince (now earlier : Instant) : Duration :=
  ⟨(now.nanos - earlier.nanos).toNat, by
    have h1 := now.upper
    have h2 := earlier.lower
    omega⟩

theorem Instant.checkedAdd_eq_some (t u : Instant) (d : Duration) :
    t.checkedAdd d = some u ↔ u.nanos = t.nanos + d.nanos := by
  unfold Instant.checkedAdd
  constructor
  · intro h
    split at h
    · cases h
      rfl
    · cases h
  · intro h
    have hu := u.upper
    rw [dif_pos (by omega)]
    exact congrArg some (Instant.ext h.symm)

theorem Instant.le_durationSince (d : Duration) (now earlier : Instant) :
    d ≤ now.durationSince earlier ↔ d.nanos ≤ (now.nanos - earlier.nanos).toNat := Iff.rfl

/-- The least reading a clock can give. -/
def Instant.earliest : Instant := ⟨-(2 ^ 63 * 10 ^ 9), le_refl _, by omega⟩

theorem Instant.earliest_le (t : Instant) : Instant.earliest ≤ t := t.lower

instance secondsNeZero : NeZero (2 ^ 32) := ⟨by decide⟩

/-- A whole number of seconds after the clock's zero. -/
def Instant.ofSecs (secs : Fin (2 ^ 32)) : Instant :=
  ⟨secs.val * 10 ^ 9, by omega, by have h := secs.isLt; omega⟩

end RedisBridge.Instants
