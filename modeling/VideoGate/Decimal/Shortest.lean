import VideoGate.Decimal.Binary64
import VideoGate.Text.Numeral

/-!
# The shortest decimal that reads back

Every real number between the midpoints to its two neighbours rounds to a binary64 number; the
midpoints themselves do so exactly if the significand is even.  `shortest` looks for a decimal
in that interval on ever finer grids `10 ^ k`: on each grid only the two neighbours of the
number have to be tried, the first grid with a hit wins, and of two hits the nearer.
-/

namespace VideoGate

structure Decimal where
  digits : Nat
  exponent : Int
deriving DecidableEq, Repr

/-- What is done with a number half way between two candidates. -/
inductive Tie where
  | away
  | toEven
deriving DecidableEq, Repr

namespace Decimal

/-- A positive binary64 number with the interval that rounds to it, all in quarters of its
unit in the last place. -/
structure Target where
  value : Nat
  lower : Nat
  upper : Nat
  /-- Do the ends round to the number? -/
  closed : Bool
  /-- The quarter of a unit in the last place, as a quotient. -/
  unit : Nat × Nat
deriving Repr

/-- The interval of `significand * 2 ^ exponent`.  Below a power of two the neighbour is only
half as far away. -/
def Target.of (significand : Nat) (exponent : Int) : Target where
  value := 4 * significand
  lower := 4 * significand -
    (if significand = Nat.pow 2 52 ∧ Binary64.minExponent < exponent then 1 else 2)
  upper := 4 * significand + 2
  closed := significand % 2 == 0
  unit := powerQuotient 2 (exponent - 2)

namespace Target

def contains (target : Target) (k : Int) (multiple : Nat) : Bool :=
  let (a, b) := target.unit
  let (p, q) := powerQuotient 10 k
  let point := multiple * p * b
  let low := target.lower * a * q
  let high := target.upper * a * q
  if target.closed then low ≤ point && point ≤ high else low < point && point < high

/-- The multiple of `10 ^ k` at or below the number. -/
def floor (target : Target) (k : Int) : Nat :=
  let (a, b) := target.unit
  let (p, q) := powerQuotient 10 k
  target.value * a * q / (p * b)

/-- Is the number nearer to the next multiple of `10 ^ k` than to the one below it? -/
def roundsUp (target : Target) (tie : Tie) (k : Int) : Bool :=
  let (a, b) := target.unit
  let (p, q) := powerQuotient 10 k
  let twiceRest := 2 * (target.value * a * q % (p * b))
  if twiceRest = p * b then
    match tie with
    | .away => true
    | .toEven => floor target k % 2 == 1
  else
    p * b < twiceRest

/-- The multiple of `10 ^ k` next to the number that reads back, the nearer one of two. -/
def hit? (target : Target) (tie : Tie) (k : Int) : Option Nat :=
  let below := floor target k
  match contains target k below, contains target k (below + 1) with
  | true, true => some (if roundsUp target tie k then below + 1 else below)
  | true, false => some below
  | false, true => some (below + 1)
  | false, false => none

/-- The exponent of the leading digit: the largest `k` for which `10 ^ k` does not exceed the
number. -/
def leading (target : Target) : Int :=
  let (a, b) := target.unit
  let guess : Int := (Numeral.render (target.value * a)).length - (Numeral.render b).length
  if floor target guess = 0 then guess - 1 else guess

/-- The first hit on the grids `10 ^ k`, `10 ^ (k - 1)`, and so on. -/
def search (target : Target) (tie : Tie) : Nat → Int → Decimal
  | 0, k => { digits := floor target k, exponent := k }
  | grids + 1, k =>
    match hit? target tie k with
    | some digits => { digits, exponent := k }
    | none => search target tie grids (k - 1)

end Target

def trim (digits : Nat) (exponent : Int) : Decimal :=
  if digits = 0 then { digits := 0, exponent := 0 }
  else if digits % 10 = 0 then trim (digits / 10) (exponent + 1)
  else { digits, exponent }
termination_by digits

/-- The shortest decimal that reads back as `significand * 2 ^ exponent`; seventeen digits are
always enough. -/
def shortest (tie : Tie) (significand : Nat) (exponent : Int) : Decimal :=
  if significand = 0 then { digits := 0, exponent := 0 }
  else
    let target := Target.of significand exponent
    let found := target.search tie 17 target.leading
    trim found.digits found.exponent

end Decimal

end VideoGate
