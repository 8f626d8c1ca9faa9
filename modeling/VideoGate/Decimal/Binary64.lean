/-!
# The values of binary64

A finite number of the format is a whole significand times a power of two.  This module takes
the 64 bits apart, so that everything said about decimal text can be said about whole numbers.
-/

namespace VideoGate

inductive Binary64 where
  | nan
  | infinite (negative : Bool)
  /-- The number `significand * 2 ^ exponent`, with a sign that a zero has as well. -/
  | finite (negative : Bool) (significand : Nat) (exponent : Int)
deriving DecidableEq, Repr

namespace Binary64

/-- The exponent of the smallest numbers. -/
def minExponent : Int := -1074

/-- The value behind 64 bits: one for the sign, eleven for the exponent, the rest for the
significand, whose highest bit is left out unless the exponent is the smallest. -/
def ofBits (bits : UInt64) : Binary64 :=
  let n := bits.toNat
  let negative := Nat.pow 2 63 ≤ n
  let exponent : Nat := n / Nat.pow 2 52 % Nat.pow 2 11
  let fraction : Nat := n % Nat.pow 2 52
  if exponent = 2047 then
    if fraction = 0 then .infinite negative else .nan
  else if exponent = 0 then
    .finite negative fraction minExponent
  else
    .finite negative (Nat.pow 2 52 + fraction) (minExponent + exponent - 1)

def ofFloat (x : Float) : Binary64 := ofBits x.toBits

end Binary64

/-! ## Rounding -/

namespace Decimal

/-- The quotient rounded to the nearest natural, a half to the even one. -/
def roundHalfEven (numerator denominator : Nat) : Nat :=
  let below := numerator / denominator
  let twiceRest := 2 * (numerator % denominator)
  if twiceRest < denominator then below
  else if denominator < twiceRest then below + 1
  else if below % 2 = 0 then below else below + 1

end Decimal

/-- The number of the format that is nearest to `1 / n`, as a significand and a power of two to
divide it by.  The power is so large that the significand fills the format. -/
def Binary64.reciprocal (n : Nat) : Nat × Nat :=
  let scale := Nat.pow 2 (53 + Nat.log2 (n - 1))
  (Decimal.roundHalfEven scale n, scale)

/-- A power with a whole exponent as a quotient of naturals: numerator and denominator. -/
def powerQuotient (base : Nat) (exponent : Int) : Nat × Nat :=
  if 0 ≤ exponent then (Nat.pow base exponent.toNat, 1) else (1, Nat.pow base (-exponent).toNat)

end VideoGate
