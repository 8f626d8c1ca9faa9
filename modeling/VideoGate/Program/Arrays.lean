import VideoGate.Counter
import VideoGate.Dispatch.Metadata
import VideoGate.Pin.Layout
import VideoGate.Video.Store

/-!
# The arrays of the programs

A program keeps everything in arrays of words, found by index.  A look-up can fail for a whole
map: reads then give nothing, and writes and increments are lost.  The dispatcher and the
video filter each have their own arrays; over these they run as over any other store.
-/

namespace VideoGate

/-! ## The dispatcher's arrays -/

/-- Counters and settings as the dispatcher program keeps them. -/
structure DispatchArrays where
  counters : Vector UInt64 DispatchCounter.count
  control : Vector UInt32 controlSize
  interfaces : Vector UInt32 interfacesSize
  /-- Maps whose look-ups find nothing. -/
  unreachable : List MapName
deriving DecidableEq

namespace DispatchArrays

def empty : DispatchArrays where
  counters := Vector.replicate _ 0
  control := Vector.replicate _ 0
  interfaces := Vector.replicate _ 0
  unreachable := []

/-- Counts one event, if the counters are found. -/
def bump (arrays : DispatchArrays) (counter : DispatchCounter) : DispatchArrays :=
  if .counters ∈ arrays.unreachable then arrays
  else
    { arrays with
      counters := arrays.counters.set counter.index
        (Counter.increment (arrays.counters.get counter.index)) counter.index_lt }

/-- The word of a setting, if its map is found. -/
def setting? (arrays : DispatchArrays) (setting : Setting) : Option UInt32 :=
  if setting.map ∈ arrays.unreachable then none
  else if setting.map = .control then arrays.control[setting.index]?
  else arrays.interfaces[setting.index]?

instance : DispatchStore DispatchArrays where
  bump counter arrays := arrays.bump counter
  read setting arrays := (arrays.setting? setting, arrays)

end DispatchArrays

/-! ## The video filter's arrays -/

/-- Everything that the video filter program keeps. -/
structure VideoArrays where
  globalMode : UInt32
  cameraModes : Vector UInt32 Camera.capacity
  /-- Any value but zero says that a P frame is in progress. -/
  pFrame : UInt32
  position : Position
  stats : Vector UInt64 VideoStat.count
  /-- Maps whose look-ups find nothing. -/
  unreachable : List MapName
deriving DecidableEq

namespace VideoArrays

def empty : VideoArrays where
  globalMode := 0
  cameraModes := Vector.replicate _ 0
  pFrame := 0
  position := { x := 0, y := 0 }
  stats := Vector.replicate _ 0
  unreachable := []

def count (arrays : VideoArrays) (stat : VideoStat) : VideoArrays :=
  if .videoStats ∈ arrays.unreachable then arrays
  else
    { arrays with
      stats := arrays.stats.set stat.index (Counter.increment (arrays.stats.get stat.index))
        stat.index_lt }

instance : VideoStore VideoArrays where
  count stat arrays := arrays.count stat
  cameraMode camera arrays :=
    if .cameraModes ∈ arrays.unreachable then none else arrays.cameraModes[camera.toNat]?
  setCameraMode camera mode arrays :=
    if .cameraModes ∈ arrays.unreachable then arrays
    else { arrays with cameraModes := arrays.cameraModes.setIfInBounds camera.toNat mode.toRaw }
  globalMode arrays :=
    if .globalMode ∈ arrays.unreachable then none else some arrays.globalMode
  pFrameInProgress arrays :=
    if .pFrame ∈ arrays.unreachable then false else arrays.pFrame != 0
  setPFrameInProgress inProgress arrays :=
    if .pFrame ∈ arrays.unreachable then arrays
    else { arrays with pFrame := if inProgress then 1 else 0 }
  recordPosition position arrays :=
    if .position ∈ arrays.unreachable then arrays else { arrays with position }

end VideoArrays

/-! ## All arrays together -/

/-- The maps of the dispatcher program and of its stages. -/
structure ProgramMaps where
  dispatch : DispatchArrays
  video : VideoArrays
  /-- The slot for the metadata of the packet under way. -/
  metadata : Metadata
  /-- Is the metadata slot found? -/
  metadataFound : Bool
deriving DecidableEq

namespace ProgramMaps

def empty : ProgramMaps where
  dispatch := .empty
  video := .empty
  metadata := .fresh
  metadataFound := true

/-- From now on the look-ups in these maps find nothing, and those in all others do. -/
def hide (maps : ProgramMaps) (hidden : List MapName) : ProgramMaps where
  dispatch := { maps.dispatch with unreachable := hidden }
  video := { maps.video with unreachable := hidden }
  metadata := maps.metadata
  metadataFound := !hidden.contains .metadata

/-- Stores a word of an array; a place past its end is left alone, as is the metadata slot. -/
def storeWord (maps : ProgramMaps) (map : MapName) (index : Nat) (value : UInt64) :
    ProgramMaps :=
  let word := value.toUInt32
  let { dispatch, video, .. } := maps
  match map with
  | .counters =>
    { maps with
      dispatch := { dispatch with counters := dispatch.counters.setIfInBounds index value } }
  | .control =>
    { maps with
      dispatch := { dispatch with control := dispatch.control.setIfInBounds index word } }
  | .interfaces =>
    { maps with
      dispatch := { dispatch with interfaces := dispatch.interfaces.setIfInBounds index word } }
  | .metadata => maps
  | .globalMode =>
    if index = 0 then { maps with video := { video with globalMode := word } } else maps
  | .cameraModes =>
    { maps with
      video := { video with cameraModes := video.cameraModes.setIfInBounds index word } }
  | .pFrame => if index = 0 then { maps with video := { video with pFrame := word } } else maps
  | .position =>
    if index = 0 then
      { maps with video := { video with position := { video.position with x := word } } }
    else if index = 1 then
      { maps with video := { video with position := { video.position with y := word } } }
    else maps
  | .videoStats =>
    { maps with video := { video with stats := video.stats.setIfInBounds index value } }

/-- The words of a map in order, whether or not its look-ups succeed. -/
def words (maps : ProgramMaps) : MapName → List UInt64
  | .counters => maps.dispatch.counters.toList
  | .control => maps.dispatch.control.toList.map (·.toUInt64)
  | .interfaces => maps.dispatch.interfaces.toList.map (·.toUInt64)
  | .metadata =>
    [maps.metadata.stage1Visits, maps.metadata.stage2Visits, maps.metadata.rawDecision,
      maps.metadata.flow].map (·.toUInt64)
  | .globalMode => [maps.video.globalMode.toUInt64]
  | .cameraModes => maps.video.cameraModes.toList.map (·.toUInt64)
  | .pFrame => [maps.video.pFrame.toUInt64]
  | .position => [maps.video.position.x, maps.video.position.y].map (·.toUInt64)
  | .videoStats => maps.video.stats.toList

end ProgramMaps

end VideoGate
