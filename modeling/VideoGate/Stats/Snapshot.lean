import VideoGate.Stats.NamedCounts
import VideoGate.Stats.Summary

/-!
# Samples and snapshots

A sample is everything that can be read from the maps at one moment.  A snapshot is what a
period of samples comes to, in the form in which it is exported.
-/

namespace VideoGate

/-- One reading of every map. -/
structure Sample where
  video : VideoCounts
  dispatcher : DispatchCounts
  /-- The last position seen. -/
  position : Position
  /-- Raw modes by camera id. -/
  cameras : List UInt32
  /-- The metadata of the last packet on each processor; empty if it cannot be read. -/
  metadata : List Metadata
deriving DecidableEq, Inhabited

/-- The growth from one sample to the next. -/
structure IntervalReport (ρ : Type) where
  admitted : UInt64
  rtp : UInt64
  dropped : UInt64
  forwarded : UInt64
  dropRatio : ρ
deriving DecidableEq, Repr

/-- What a period of samples comes to. -/
structure Snapshot (ρ : Type) where
  timestamp : String
  durationSeconds : UInt64
  samples : UInt64
  /-- Growth of the dispatcher's counters over the period. -/
  dispatcher : DispatchCounts
  /-- Growth of the filter's counters over the period. -/
  video : NamedCounts
  /-- The filter's counters at the end of the period. -/
  videoTotals : NamedCounts
  dropRatio : ρ
  /-- The highest drop ratio between two samples. -/
  peakDropRatio : ρ
  /-- The last position seen. -/
  position : Position
  cameras : CameraSummary
  visits : VisitSummary

end VideoGate
