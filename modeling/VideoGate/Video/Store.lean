import VideoGate.Camera.Strip
import VideoGate.Video.Stat

/-!
# What the video filter keeps

The filter runs over any store that offers these operations: the table of a host run
(`VideoTables`), or the pinned arrays of a program.
-/

namespace VideoGate

/-- A store that the video filter can run over. -/
class VideoStore (σ : Type) where
  count : VideoStat → σ → σ
  /-- The raw mode of a camera, if it has an entry. -/
  cameraMode : UInt32 → σ → Option UInt32
  setCameraMode : UInt32 → FilterMode → σ → σ
  /-- The raw mode for cameras without an entry, if it can be read. -/
  globalMode : σ → Option UInt32
  /-- Is a fragmented P slice being dropped? -/
  pFrameInProgress : σ → Bool
  /-- Notes whether a fragmented P slice is being dropped. -/
  setPFrameInProgress : Bool → σ → σ
  /-- Keeps the last position seen, also one that is out of range. -/
  recordPosition : Position → σ → σ

namespace VideoStore

variable {σ : Type} [VideoStore σ]

def countAll (stats : List VideoStat) (store : σ) : σ :=
  stats.foldl (fun store stat => count stat store) store

/-- Gives every watching camera its mode for an object at `position`. -/
def writeModes (position : Position) (store : σ) : σ :=
  (Camera.modesAt position).foldl
    (fun store entry => setCameraMode entry.1 entry.2 store) store

/-- Takes in a position.  It is recorded in any case; only a position in range moves the
cameras, and the answer says whether it did. -/
def applyPosition (position : Position) (store : σ) : Bool × σ :=
  let store := recordPosition position store
  if position.inRange then
    (true, count .positionsApplied (writeModes position store))
  else
    (false, store)

end VideoStore

end VideoGate
