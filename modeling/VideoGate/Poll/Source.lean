import VideoGate.Stats.Collector
import VideoGate.System.Registry

/-!
# Sampling the pinned maps

A source has the maps open that a sample is read from.  The metadata of the processors may be
missing, when it is opened and whenever it is read: a sample then has none of it.  Every other
map is needed.
-/

namespace VideoGate

/-- The open maps that samples are read from. -/
structure StatsSource where
  videoStats : OpenMap
  counters : OpenMap
  position : OpenMap
  cameras : OpenMap
  /-- The metadata of the processors, if it could be opened. -/
  metadata : Option OpenMap
deriving DecidableEq, Repr

namespace StatsSource

/-- Opens the metadata of the processors; a failure is only logged. -/
def openMetadata (registry : Registry) : Operation (Option OpenMap) := do
  match ← Operation.attempt (registry.openPerProcessor MapName.metadata.pin) with
  | .ok map => return some map
  | .error failure =>
    Operation.log .warn .poller ("  ⚠ Per-CPU metadata not available: " ++ failure.chain)
    return none

def ofRegistry (registry : Registry) : Operation StatsSource := do
  let metadata ← openMetadata registry
  let videoStats ← registry.openCounts MapName.videoStats.pin
  let counters ← registry.openCounts MapName.counters.pin
  let position ← registry.openWords MapName.position.pin
  let cameras ← registry.openWords MapName.cameraModes.pin
  return { videoStats, counters, position, cameras, metadata }

/-- Reads the metadata of the processors; a failure is only logged. -/
def readMetadata (map : OpenMap) : Operation (List Metadata) := do
  match ← Operation.current map with
  | some { content := .perProcessor records, broken := 0 } => return records
  | _ =>
    Operation.log .warn .poller
      ("  ⚠ Failed to read " ++ MapName.metadata.pin ++ ": \x60bpf_map_lookup_elem\x60 failed")
    return []

def sample (source : StatsSource) : Operation Sample := do
  let video ← (Operation.readCounts source.videoStats).orElse (.cannotRead .videoStats)
  let counters ← (Operation.readCounts source.counters).orElse (.cannotRead .counters)
  let x ← Operation.readWord source.position 0 (.cannotRead .position)
  let y ← Operation.readWord source.position 1 (.cannotRead .position)
  let cameras ← (Operation.readWords source.cameras).orElse (.cannotRead .cameras)
  let metadata ←
    match source.metadata with
    | some map => readMetadata map
    | none => pure []
  match DispatchCounts.ofList counters with
  | .error fault => Operation.fail (.stats fault)
  | .ok dispatcher =>
    return { video := .ofList video, dispatcher, position := ⟨x, y⟩, cameras, metadata }

end StatsSource

end VideoGate
