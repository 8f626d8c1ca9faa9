import VideoGate.Camera.Strip
import VideoGate.System.Registry
import VideoGate.Video.Traffic
import VideoGate.Wire.Endpoint

/-!
# Where positions go

A position is published either as a datagram to the port that the filter listens on, or by
writing into the maps what the filter would have written: the modes of the watching cameras and
then the position itself.
-/

namespace VideoGate

abbrev Sink := Position → Operation Unit

/-- Where positions are sent unless another target is given. -/
def standardTarget : Wire.Endpoint := { address := videoHost, port := positionPort }

/-- Puts a word behind what a buffer holds, its most significant byte first. -/
def putWord32 (buffer : List UInt8) (word : UInt32) : List UInt8 :=
  let (a, b, c, d) := Wire.bytes32 word
  buffer ++ [a, b, c, d]

def encodePosition (position : Position) : List UInt8 :=
  putWord32 (putWord32 [] position.x) position.y

/-- A datagram holds a position as the filter reads it. -/
theorem encodePosition_eq (position : Position) :
    encodePosition position = (Wire.WireHeader.encode position).toList := rfl

def Sink.datagrams (target : Wire.Endpoint) : Sink := fun position =>
  Operation.send target.text (encodePosition position)

/-- The open maps that positions are written into. -/
structure PositionMaps where
  cameras : OpenMap
  position : OpenMap
deriving DecidableEq, Repr

namespace PositionMaps

def ofRegistry (registry : Registry) : Operation PositionMaps := do
  let cameras ← registry.openWords MapName.cameraModes.pin
  let position ← registry.openWords MapName.position.pin
  return { cameras, position }

def writeCamera (maps : PositionMaps) (camera : UInt32) (mode : FilterMode) : Operation Unit :=
  Operation.writeWord maps.cameras camera.toNat mode.toRaw (.cannotWriteCamera camera)

/-- Writes the modes of the watching cameras, and then the position. -/
def write (maps : PositionMaps) : Sink := fun position => do
  (Camera.modesAt position).forM fun (camera, mode) => maps.writeCamera camera mode
  Operation.writeWord maps.position 0 position.x .cannotWriteX
  Operation.writeWord maps.position 1 position.y .cannotWriteY

end PositionMaps

end VideoGate
