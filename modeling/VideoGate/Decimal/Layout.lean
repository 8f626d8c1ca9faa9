import VideoGate.Decimal.Shortest

/-!
# Laying out a decimal

A `DecimalLayout` says how a number is written once its digits are known: where positional
notation ends, and whether a whole number keeps a point.  Fixed places are the other way to
write a number: rounded on its exact value, a half going to the even neighbour.
-/

namespace VideoGate

structure DecimalLayout where
  /-- What is done with a number half way between two shortest candidates. -/
  tie : Tie
  /-- The exponents of the leading digit that are written positionally; none for all. -/
  positional : Option (Int × Int)
  /-- Is a whole number written with a point and a zero? -/
  keepsPoint : Bool
deriving Repr

namespace DecimalLayout

/-- The digits with the point put in so that the last digit has weight `10 ^ exponent`. -/
def writePositional (layout : DecimalLayout) (digits : List Char) (exponent : Int) :
    List Char :=
  if 0 ≤ exponent then
    digits ++ List.replicate exponent.toNat '0' ++ (if layout.keepsPoint then ['.', '0'] else [])
  else
    let places := (-exponent).toNat
    let padded := List.replicate (places + 1 - digits.length) '0' ++ digits
    padded.take (padded.length - places) ++ '.' :: padded.drop (padded.length - places)

/-- The digits with a point after the first, and the exponent of the first with its sign. -/
def writeScientific (digits : List Char) (leading : Int) : List Char :=
  let mantissa :=
    match digits with
    | first :: second :: rest => first :: '.' :: second :: rest
    | short => short
  mantissa ++ 'e' :: (if leading < 0 then '-' else '+') :: Numeral.render leading.natAbs

def writeDecimal (layout : DecimalLayout) (decimal : Decimal) : List Char :=
  let digits := Numeral.render decimal.digits
  let leading := decimal.exponent + digits.length - 1
  match layout.positional with
  | none => layout.writePositional digits decimal.exponent
  | some (first, last) =>
    if decimal.digits = 0 ∨ (first ≤ leading ∧ leading ≤ last) then
      layout.writePositional digits decimal.exponent
    else
      writeScientific digits leading

/-- Writes a float by its shortest digits.  A zero keeps its sign. -/
def write (layout : DecimalLayout) (x : Float) : String :=
  match Binary64.ofFloat x with
  | .nan => "NaN"
  | .infinite negative => if negative then "-inf" else "inf"
  | .finite negative significand exponent =>
    let text := layout.writeDecimal (.shortest layout.tie significand exponent)
    String.ofList (if negative then '-' :: text else text)

end DecimalLayout

/-! ## Fixed places -/

namespace Decimal

def writeFixed (places : Nat) (x : Float) : String :=
  match Binary64.ofFloat x with
  | .nan => "NaN"
  | .infinite negative => if negative then "-inf" else "inf"
  | .finite negative significand exponent =>
    let (a, b) := powerQuotient 2 exponent
    let rounded := roundHalfEven (significand * a * Nat.pow 10 places) b
    let digits := Numeral.render rounded
    let padded := List.replicate (places + 1 - digits.length) '0' ++ digits
    let whole := padded.take (padded.length - places)
    let fraction := padded.drop (padded.length - places)
    let text := if places = 0 then whole else whole ++ '.' :: fraction
    String.ofList (if negative then '-' :: text else text)

def writePercent (share : Float) : String := writeFixed 1 (share * 100.0)

end Decimal

end VideoGate
