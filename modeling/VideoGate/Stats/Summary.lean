import VideoGate.Camera.Strip
import VideoGate.Dispatch.Metadata

/-!
# Summaries of the camera table and of the visits

Only cameras that follow the tracked object are summed up: the others are never written, and
would always count as unfiltered.
-/

namespace VideoGate

/-- Which of the watching cameras are filtered. -/
structure CameraSummary where
  /-- Ids of the cameras that are not filtered, in ascending order. -/
  unfiltered : List UInt32
  /-- Number of cameras that are filtered. -/
  filtering : UInt32
deriving DecidableEq, Repr, Inhabited

namespace CameraSummary

def isFiltered (raw : UInt32) : Bool := (FilterMode.ofRaw raw).filters

/-- Sums up a table of raw modes, one for each camera id. -/
def ofTable (table : List UInt32) : CameraSummary :=
  let watched := (table.take Camera.watching).zipIdx
  { unfiltered := (watched.filter fun entry => !isFiltered entry.1).map
      fun entry => UInt32.ofNat entry.2
    filtering := UInt32.ofNat (watched.countP fun entry => isFiltered entry.1) }

end CameraSummary

/-- The largest numbers of visits found in the metadata. -/
structure VisitSummary where
  stage1 : UInt32
  stage2 : UInt32
deriving DecidableEq, Repr, Inhabited

namespace VisitSummary

def larger (a b : UInt32) : UInt32 := if a < b then b else a

def ofMetadata (metadata : List Metadata) : VisitSummary :=
  metadata.foldl
    (fun visits m =>
      { stage1 := larger visits.stage1 m.stage1Visits
        stage2 := larger visits.stage2 m.stage2Visits })
    { stage1 := 0, stage2 := 0 }

end VisitSummary

end VideoGate
