import VideoGate.Counter
import VideoGate.Video.Store

/-!
# The video filter's tables in memory

The counters, the table of camera modes with an entry per camera that may be absent, the
global mode, the flag for a P frame in progress and the last position.
-/

namespace VideoGate

/-- The entry of a camera.  A mode stays stored when the entry is removed, but is not found. -/
structure CameraEntry where
  raw : UInt32
  present : Bool
deriving DecidableEq, Repr, Inhabited

structure VideoTables where
  stats : Vector UInt64 VideoStat.count
  cameras : Vector CameraEntry Camera.capacity
  globalRaw : UInt32
  /-- Can the global mode be read? -/
  globalReadable : Bool
  pFrame : Bool
  position : Position
deriving DecidableEq

namespace VideoTables

/-- Nothing counted, every camera present and unfiltered. -/
def empty : VideoTables where
  stats := Vector.replicate _ 0
  cameras := Vector.replicate _ { raw := 0, present := true }
  globalRaw := 0
  globalReadable := true
  pFrame := false
  position := { x := 0, y := 0 }

def stat (tables : VideoTables) (stat : VideoStat) : UInt64 :=
  tables.stats.get stat.index

def count (tables : VideoTables) (stat : VideoStat) : VideoTables :=
  { tables with
    stats := tables.stats.set stat.index (Counter.increment (tables.stat stat)) stat.index_lt }

/-- The raw mode of a camera, if its entry is present. -/
def cameraRaw? (tables : VideoTables) (camera : UInt32) : Option UInt32 :=
  tables.cameras[camera.toNat]?.bind fun entry => if entry.present then some entry.raw else none

/-- Stores a raw mode and makes the entry present; an id past the table is left alone. -/
def setCameraRaw (tables : VideoTables) (camera raw : UInt32) : VideoTables :=
  { tables with cameras := tables.cameras.setIfInBounds camera.toNat { raw, present := true } }

/-- Takes the entry of a camera away; an id past the table is left alone. -/
def removeCamera (tables : VideoTables) (camera : UInt32) : VideoTables :=
  match tables.cameras[camera.toNat]? with
  | none => tables
  | some entry =>
    { tables with
      cameras := tables.cameras.setIfInBounds camera.toNat { entry with present := false } }

def globalRaw? (tables : VideoTables) : Option UInt32 :=
  if tables.globalReadable then some tables.globalRaw else none

instance : VideoStore VideoTables where
  count stat tables := tables.count stat
  cameraMode camera tables := tables.cameraRaw? camera
  setCameraMode camera mode tables := tables.setCameraRaw camera mode.toRaw
  globalMode tables := tables.globalRaw?
  pFrameInProgress tables := tables.pFrame
  setPFrameInProgress inProgress tables := { tables with pFrame := inProgress }
  recordPosition position tables := { tables with position }

@[simp] theorem stat_count_self (tables : VideoTables) (stat : VideoStat) :
    (tables.count stat).stat stat = Counter.increment (tables.stat stat) :=
  Vector.getElem_set_self stat.index_lt

theorem stat_count_of_ne (tables : VideoTables) {stat other : VideoStat} (h : other ≠ stat) :
    (tables.count stat).stat other = tables.stat other := by
  refine Vector.getElem_set_ne stat.index_lt other.index_lt ?_
  intro hindex
  exact h (VideoStat.index_injective (Fin.ext hindex.symm))

end VideoTables

end VideoGate
