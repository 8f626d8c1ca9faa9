import VideoGate.Dispatch.Store

/-!
# The layout of the pinned maps

Programs and their operator share arrays that are pinned by name.  This module says which
array holds what, and at which place.
-/

namespace VideoGate

/-- A map that the programs share with their operator. -/
inductive MapName where
  | counters
  | control
  | metadata
  | interfaces
  | globalMode
  | cameraModes
  | pFrame
  | position
  | videoStats
deriving DecidableEq, Repr, Inhabited

namespace MapName

def pin : MapName → String
  | counters => "counters"
  | control => "control_map"
  | metadata => "pkt_meta_map"
  | interfaces => "iface_config"
  | globalMode => "filtering_mode"
  | cameraModes => "camera_filtering_mode"
  | pFrame => "p_frame_state"
  | position => "robot_coords_debug"
  | videoStats => "video_stats"

def all : List MapName :=
  [counters, control, metadata, interfaces, globalMode, cameraModes, pFrame, position,
    videoStats]

def ofPin? (pin : String) : Option MapName := all.find? (·.pin == pin)

end MapName

namespace Setting

def map : Setting → MapName
  | stage1 | stage2 => .control
  | peer | bridge | output => .interfaces

def index : Setting → Nat
  | stage1 => 0
  | stage2 => 1
  | peer => 0
  | bridge => 1
  | output => 2

def ofPlace? (map : MapName) (index : Nat) : Option Setting :=
  all.find? fun setting => setting.map == map && setting.index == index

end Setting

/-- Number of words in the map that holds the switches of the stages. -/
abbrev controlSize : Nat := 2

/-- Number of words in the map that holds the interfaces and the bridge switch. -/
abbrev interfacesSize : Nat := 3

end VideoGate
