/-!
# Positions of the tracked object

A position is a pair of words as its sender wrote them.  Only a position inside the square
`[0, 1000) × [0, 1000)` moves the cameras; any other is recorded and goes no further.
-/

namespace VideoGate

structure Position where
  x : UInt32
  y : UInt32
deriving DecidableEq, Repr, Inhabited

namespace Position

/-- Both coordinates of a valid position lie below this bound. -/
def limit : UInt32 := 1000

def inRange (position : Position) : Bool :=
  position.x < limit && position.y < limit

end Position

end VideoGate
