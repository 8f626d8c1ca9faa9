import VideoGate.Decimal.Binary64
import VideoGate.Robot.Route
import VideoGate.Robot.Sink

/-!
# Running the robot

The robot publishes the positions of its route round after round, each after a wait.  It ends
when its rounds are done, when a position cannot be published or when the operator interrupts
it; what has been published until then stays published.  Rounds without a number go on for as
long as they can be counted.
-/

namespace VideoGate.Robot

/-- A coordinate in the log, with blanks where it is short. -/
def column (coordinate : UInt32) : String :=
  Numeral.padLeft 4 (Numeral.text coordinate.toNat)

def positionWords (position : Position) : String :=
  "  Position: (" ++ column position.x ++ ", " ++ column position.y ++ ")"

def countOne (published : UInt64) : Operation UInt64 :=
  if published.toNat + 1 < UInt64.size then pure (published + 1) else Operation.fail .tooManyRounds

/-- Waits for the next position to be due. -/
def awaitTick : Operation Unit := do
  if ← Operation.wait then
    Operation.fail .interrupted

def publish (sink : Sink) (position : Position) (published : UInt64) : Operation UInt64 := do
  awaitTick
  sink position
  Operation.log .debug .simulator (positionWords position)
  countOne published

/-- Publishes so many positions of a round, the first of them with this number. -/
def publishFrom (route : Route) (updates : UInt64) (sink : Sink) :
    Nat → Nat → UInt64 → Operation UInt64
  | 0, _, published => pure published
  | count + 1, index, published => do
    let published ← publish sink (route.positionAt updates (UInt64.ofNat index)) published
    publishFrom route updates sink count (index + 1) published

def publishRound (route : Route) (updates : UInt64) (sink : Sink) (round : Nat)
    (published : UInt64) : Operation UInt64 := do
  Operation.log .info .simulator ("Starting round " ++ Numeral.text round ++ "...")
  let published ← publishFrom route updates sink updates.toNat 0 published
  Operation.log .info .simulator ("  ✓ Round " ++ Numeral.text round ++ " complete")
  return published

def publishRounds (route : Route) (updates : UInt64) (sink : Sink) :
    Nat → Nat → UInt64 → Operation UInt64
  | 0, _, published => pure published
  | rounds + 1, round, published => do
    let published ← publishRound route updates sink round published
    publishRounds route updates sink rounds (round + 1) published

/-- The largest number of rounds that can be counted. -/
def roundLimit : Nat := UInt32.size - 1

/-- Nanoseconds between two positions: the reciprocal of the rate as binary64 has it, in whole
nanoseconds. -/
def period (route : Route) : Nat :=
  let (significand, scale) := Binary64.reciprocal route.rate.toNat
  Decimal.roundHalfEven (significand * Nat.pow 10 9) scale

/-- Publishes a number of rounds, or rounds without end if it is zero; answers how many
positions have been published. -/
def run (route : Route) (rounds : UInt32) (sink : Sink) : Operation UInt64 := do
  if route.rate = 0 then
    Operation.fail .noRate
  let updates ← Operation.ofExcept route.updates
  if updates = 0 then
    Operation.fail .noDuration
  if period route = 0 then
    Operation.fail .rateTooHigh
  if rounds = 0 then
    let _ ← publishRounds route updates sink roundLimit 1 0
    Operation.fail .tooManyRounds
  else
    publishRounds route updates sink rounds.toNat 1 0

end VideoGate.Robot
