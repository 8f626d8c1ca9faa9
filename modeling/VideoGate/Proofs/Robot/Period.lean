import Mathlib.Tactic.Ring
import VideoGate.Robot.Run

/-!
# The time between two positions

A robot cannot run without any time between two positions.  That time is rounded twice, to a number
of binary64 and then to whole nanoseconds, and half a nanosecond counts as none.  Except at half a
nanosecond itself the first rounding is far too fine to matter, so there is a highest rate
(`period_eq_zero_iff`).
-/

namespace VideoGate

namespace Decimal

/-- Rounding moves a quotient by half at most. -/
theorem roundHalfEven_near (a : Nat) {b : Nat} (hb : 0 < b) :
    2 * a ≤ 2 * (b * roundHalfEven a b) + b ∧ 2 * (b * roundHalfEven a b) ≤ 2 * a + b := by
  have hdiv := Nat.div_add_mod a b
  have hmod := Nat.mod_lt a hb
  have hsucc : b * (a / b + 1) = b * (a / b) + b := Nat.mul_succ ..
  unfold roundHalfEven
  dsimp only
  split_ifs <;> omega

/-- A half at most is rounded to nothing. -/
theorem roundHalfEven_eq_zero_iff (a : Nat) {b : Nat} (hb : 0 < b) :
    roundHalfEven a b = 0 ↔ 2 * a ≤ b := by
  constructor
  · intro h
    have hnear := (roundHalfEven_near a hb).1
    rw [h] at hnear
    omega
  · intro h
    have hless : a < b := by omega
    simp [roundHalfEven, Nat.div_eq_of_lt hless, Nat.mod_eq_of_lt hless, Nat.not_lt.mpr h]

end Decimal

namespace Binary64

theorem reciprocal_near {n : Nat} (hn : 0 < n) :
    2 * (reciprocal n).2 ≤ 2 * (n * (reciprocal n).1) + n ∧
      2 * (n * (reciprocal n).1) ≤ 2 * (reciprocal n).2 + n :=
  Decimal.roundHalfEven_near _ hn

/-- The significand fills the format. -/
theorem le_reciprocal_scale (n : Nat) : 2 ^ 52 * n ≤ (reciprocal n).2 := by
  have hlog : n - 1 < 2 ^ (Nat.log2 (n - 1) + 1) := Nat.lt_log2_self
  calc 2 ^ 52 * n ≤ 2 ^ 52 * 2 ^ (Nat.log2 (n - 1) + 1) := Nat.mul_le_mul_left _ (by omega)
    _ = 2 ^ (53 + Nat.log2 (n - 1)) := by ring

/-- One part in two thousand million is the least that comes to half of one part in a thousand
million or less, although both are rounded. -/
theorem reciprocal_le_half_iff {n : Nat} (hn : 0 < n) :
    2 * ((reciprocal n).1 * 10 ^ 9) ≤ (reciprocal n).2 ↔ 2 * 10 ^ 9 < n := by
  obtain ⟨hlow, hhigh⟩ := reciprocal_near hn
  have hscale := le_reciprocal_scale n
  rcases Nat.lt_trichotomy n (2 * 10 ^ 9) with h | rfl | h
  case inr.inl => decide +kernel
  all_goals
    generalize (reciprocal n).1 = significand at hlow hhigh ⊢
    generalize (reciprocal n).2 = scale at hlow hhigh hscale ⊢
    have hmul : n * (2 * (significand * 10 ^ 9)) = 10 ^ 9 * (2 * (n * significand)) := by ring
  case inl =>
    refine iff_of_false (fun hle => ?_) (by omega)
    have hless : n * scale ≤ (2 * 10 ^ 9 - 1) * scale := Nat.mul_le_mul_right _ (by omega)
    have hmore := Nat.mul_le_mul_left n hle
    omega
  case inr.inr =>
    refine iff_of_true ?_ h
    have hmore : (2 * 10 ^ 9 + 1) * scale ≤ n * scale := Nat.mul_le_mul_right _ h
    refine Nat.le_of_mul_le_mul_left ?_ hn
    omega

end Binary64

namespace Robot

/-- The highest rate: above it less than half a nanosecond is between two positions, which counts
as no time at all. -/
def rateLimit : UInt32 := 2000000000

/-- **No time is left** between two positions exactly above the highest rate. -/
theorem period_eq_zero_iff {route : Route} (h : route.rate ≠ 0) :
    period route = 0 ↔ rateLimit < route.rate := by
  have hrate : 0 < route.rate.toNat :=
    Nat.pos_of_ne_zero fun hzero => h (UInt32.toNat_inj.mp hzero)
  have hscale : 0 < (Binary64.reciprocal route.rate.toNat).2 :=
    Nat.lt_of_lt_of_le (by omega) (Binary64.le_reciprocal_scale _)
  exact (Decimal.roundHalfEven_eq_zero_iff _ hscale).trans (Binary64.reciprocal_le_half_iff hrate)

end Robot

end VideoGate
