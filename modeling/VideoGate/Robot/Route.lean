import VideoGate.Camera.Position
import VideoGate.System.Failure

/-!
# The route of the robot

In a round the robot goes once around a circle, or up and down the diagonal if the circle has no
radius.  Its positions are evenly spaced in time, are cut down to whole numbers and never leave
the valid square, whatever the circle: `inRange_nearest` holds of any two numbers.
-/

namespace VideoGate

structure Route where
  centerX : UInt32
  centerY : UInt32
  /-- The radius of the circle; zero for the diagonal. -/
  radius : UInt32
  /-- Seconds that a round takes. -/
  seconds : UInt64
  /-- Positions in a second. -/
  rate : UInt32
deriving DecidableEq, Repr

namespace Route

def pi : Float := 3.141592653589793

/-- Number of positions in a round. -/
def updates (route : Route) : Except Failure UInt64 :=
  let updates := route.seconds.toNat * route.rate.toNat
  if updates < UInt64.size then .ok (UInt64.ofNat updates) else .error .roundTooLong

/-- The nearest valid coordinate. -/
def clamp (coordinate : Int64) : UInt32 :=
  UInt32.ofNat (min coordinate.toInt.toNat (Position.limit.toNat - 1))

theorem clamp_lt_limit (coordinate : Int64) : clamp coordinate < Position.limit := by
  have h : min coordinate.toInt.toNat 999 < 2 ^ 32 := by omega
  simp only [clamp, Position.limit, UInt32.lt_iff_toNat_lt, UInt32.toNat_ofNat']
  change min coordinate.toInt.toNat 999 % 2 ^ 32 < 1000
  rw [Nat.mod_eq_of_lt h]
  omega

/-- The position at real coordinates: they are cut down to whole numbers, and no number at all
counts as zero. -/
def nearest (x y : Float) : Position := ⟨clamp x.toInt64, clamp y.toInt64⟩

@[simp] theorem inRange_nearest (x y : Float) : (nearest x y).inRange = true := by
  simp [nearest, Position.inRange, clamp_lt_limit]

/-- The point of the diagonal at a time from zero to one. -/
def diagonalAt (time : Float) : Position :=
  let progress := if time < 0.5 then time * 2.0 else 2.0 - time * 2.0
  let coordinate := 10.0 + progress * 980.0
  nearest coordinate coordinate

def circleAt (route : Route) (time : Float) : Position :=
  let angle := 2.0 * pi * time
  let radius := route.radius.toNat.toFloat
  nearest (route.centerX.toNat.toFloat + radius * angle.cos)
    (route.centerY.toNat.toFloat + radius * angle.sin)

def positionAt (route : Route) (updates index : UInt64) : Position :=
  let time := index.toFloat / updates.toFloat
  if route.radius = 0 then diagonalAt time else route.circleAt time

@[simp] theorem inRange_positionAt (route : Route) (updates index : UInt64) :
    (route.positionAt updates index).inRange = true := by
  simp only [positionAt, diagonalAt, circleAt]
  split <;> simp

def positions (route : Route) (updates : UInt64) : List Position :=
  (List.range updates.toNat).map fun index => route.positionAt updates (UInt64.ofNat index)

end Route

end VideoGate
