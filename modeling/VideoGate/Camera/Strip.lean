import VideoGate.Camera.Mode
import VideoGate.Camera.Position

/-!
# Which cameras see the tracked object

Cameras 0 to 49 each watch a strip of the y axis, 20 units high, and cameras 50 to 99 a
strip of the x axis.  A camera that sees the object streams unfiltered; every other camera
has its P slices filtered.  The table has room for 200 cameras, but a position only ever
rewrites the first 100.
-/

namespace VideoGate.Camera

/-- Number of cameras that have an entry in the table. -/
def capacity : Nat := 200

/-- Number of cameras that watch a strip; these follow the tracked object. -/
def watching : Nat := 100

/-- Number of cameras that watch a strip of the y axis; their ids come first. -/
def horizontal : UInt32 := 50

def stripWidth : UInt32 := 20

def stripContains (strip axis : UInt32) : Bool :=
  strip * stripWidth ≤ axis && axis < strip * stripWidth + stripWidth

/-- Does a camera see the object?  An id without a strip sees nothing. -/
def sees (camera : UInt32) (position : Position) : Bool :=
  if camera < horizontal then
    stripContains camera position.y
  else if camera < UInt32.ofNat watching then
    stripContains (camera - horizontal) position.x
  else
    false

def modeAt (camera : UInt32) (position : Position) : FilterMode :=
  if sees camera position then .off else .dropP

/-- The modes that a position gives to the watching cameras, by id. -/
def modesAt (position : Position) : List (UInt32 × FilterMode) :=
  (List.range watching).map fun id => (UInt32.ofNat id, modeAt (UInt32.ofNat id) position)

end VideoGate.Camera
