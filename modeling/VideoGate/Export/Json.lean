import VideoGate.Json.Record
import VideoGate.Json.Value
import VideoGate.Stats.Snapshot

/-!
# Snapshots as JSON

A snapshot is written as an object whose members follow the order of its fields, and read back
from an object with its members in any order.  A count of output redirects may be missing; it
is then zero.
-/

namespace VideoGate

open Json

/-! ## Writing -/

def word32Value (n : UInt32) : Value := .natural n.toNat

def word64Value (n : UInt64) : Value := .natural n.toNat

def DispatchCounts.toValue (counts : DispatchCounts) : Value :=
  .object
    [("admitted", word64Value (counts.get .admitted)),
      ("stage1", word64Value (counts.get .stage1)),
      ("stage2", word64Value (counts.get .stage2)),
      ("bridged", word64Value (counts.get .bridged)),
      ("output_redirects", word64Value (counts.get .outputRedirects))]

def NamedCounts.toValue (counts : NamedCounts) : Value :=
  .object (counts.entries.map fun entry => (entry.1, word64Value entry.2))

def Position.toValue (position : Position) : Value :=
  .object [("x", word32Value position.x), ("y", word32Value position.y)]

def CameraSummary.toValue (summary : CameraSummary) : Value :=
  .object
    [("unfiltered", .list (summary.unfiltered.map word32Value)),
      ("filtering", word32Value summary.filtering)]

def VisitSummary.toValue (summary : VisitSummary) : Value :=
  .object
    [("max_stage1_visits", word32Value summary.stage1),
      ("max_stage2_visits", word32Value summary.stage2)]

def Snapshot.toValue (snapshot : Snapshot Float) : Value :=
  .object
    [("timestamp", .string snapshot.timestamp),
      ("duration_seconds", word64Value snapshot.durationSeconds),
      ("samples", word64Value snapshot.samples),
      ("dispatcher", snapshot.dispatcher.toValue),
      ("video", snapshot.video.toValue),
      ("video_totals", snapshot.videoTotals.toValue),
      ("drop_ratio", .float snapshot.dropRatio),
      ("peak_interval_drop_ratio", .float snapshot.peakDropRatio),
      ("position", snapshot.position.toValue),
      ("cameras", snapshot.cameras.toValue),
      ("visits", snapshot.visits.toValue)]

/-! ## Reading -/

/-- Reads counts by name; of a name that occurs twice the last count is kept. -/
def NamedCounts.read : Reader NamedCounts := fun text =>
  match skipBlanks text with
  | [] => .error .endOfText
  | c :: rest =>
    if c = '{' then readMembers member (rest.length + 1) true .empty rest
    else .error (mismatch c rest)
where
  /-- Reads the count behind a name. -/
  member (counts : NamedCounts) (name : String) : Reader NamedCounts := fun text =>
    match skipColon text with
    | .error fault => .error fault
    | .ok text => (readWord64 text).map fun (count, rest) => (counts.insert name count, rest)

structure DispatchCounts.Draft where
  admitted : Option UInt64 := none
  stage1 : Option UInt64 := none
  stage2 : Option UInt64 := none
  bridged : Option UInt64 := none
  outputRedirects : Option UInt64 := none

def DispatchCounts.reader : RecordReader DispatchCounts.Draft DispatchCounts where
  fields :=
    [.of "admitted" (·.admitted) (fun d v => { d with admitted := v }) readWord64,
      .of "stage1" (·.stage1) (fun d v => { d with stage1 := v }) readWord64,
      .of "stage2" (·.stage2) (fun d v => { d with stage2 := v }) readWord64,
      .of "bridged" (·.bridged) (fun d v => { d with bridged := v }) readWord64,
      .of "output_redirects" (·.outputRedirects) (fun d v => { d with outputRedirects := v })
        readWord64]
  empty := {}
  complete draft := do
    return ⟨#v[
      ← needed "admitted" draft.admitted,
      ← needed "stage1" draft.stage1,
      ← needed "stage2" draft.stage2,
      ← needed "bridged" draft.bridged,
      draft.outputRedirects.getD 0]⟩

structure Position.Draft where
  x : Option UInt32 := none
  y : Option UInt32 := none

def Position.reader : RecordReader Position.Draft Position where
  fields :=
    [.of "x" (·.x) (fun d v => { d with x := v }) readWord32,
      .of "y" (·.y) (fun d v => { d with y := v }) readWord32]
  empty := {}
  complete draft := do
    return { x := ← needed "x" draft.x, y := ← needed "y" draft.y }

structure CameraSummary.Draft where
  unfiltered : Option (List UInt32) := none
  filtering : Option UInt32 := none

def CameraSummary.reader : RecordReader CameraSummary.Draft CameraSummary where
  fields :=
    [.of "unfiltered" (·.unfiltered) (fun d v => { d with unfiltered := v })
        (readList readWord32),
      .of "filtering" (·.filtering) (fun d v => { d with filtering := v }) readWord32]
  empty := {}
  complete draft := do
    return {
      unfiltered := ← needed "unfiltered" draft.unfiltered
      filtering := ← needed "filtering" draft.filtering }

structure VisitSummary.Draft where
  stage1 : Option UInt32 := none
  stage2 : Option UInt32 := none

def VisitSummary.reader : RecordReader VisitSummary.Draft VisitSummary where
  fields :=
    [.of "max_stage1_visits" (·.stage1) (fun d v => { d with stage1 := v }) readWord32,
      .of "max_stage2_visits" (·.stage2) (fun d v => { d with stage2 := v }) readWord32]
  empty := {}
  complete draft := do
    return {
      stage1 := ← needed "max_stage1_visits" draft.stage1
      stage2 := ← needed "max_stage2_visits" draft.stage2 }

structure Snapshot.Draft where
  timestamp : Option String := none
  durationSeconds : Option UInt64 := none
  samples : Option UInt64 := none
  dispatcher : Option DispatchCounts := none
  video : Option NamedCounts := none
  videoTotals : Option NamedCounts := none
  dropRatio : Option Float := none
  peakDropRatio : Option Float := none
  position : Option Position := none
  cameras : Option CameraSummary := none
  visits : Option VisitSummary := none

def Snapshot.reader : RecordReader Snapshot.Draft (Snapshot Float) where
  fields :=
    [.of "timestamp" (·.timestamp) (fun d v => { d with timestamp := v }) readString,
      .of "duration_seconds" (·.durationSeconds) (fun d v => { d with durationSeconds := v })
        readWord64,
      .of "samples" (·.samples) (fun d v => { d with samples := v }) readWord64,
      .of "dispatcher" (·.dispatcher) (fun d v => { d with dispatcher := v })
        DispatchCounts.reader.read,
      .of "video" (·.video) (fun d v => { d with video := v }) NamedCounts.read,
      .of "video_totals" (·.videoTotals) (fun d v => { d with videoTotals := v })
        NamedCounts.read,
      .of "drop_ratio" (·.dropRatio) (fun d v => { d with dropRatio := v }) readFloat,
      .of "peak_interval_drop_ratio" (·.peakDropRatio)
        (fun d v => { d with peakDropRatio := v }) readFloat,
      .of "position" (·.position) (fun d v => { d with position := v }) Position.reader.read,
      .of "cameras" (·.cameras) (fun d v => { d with cameras := v }) CameraSummary.reader.read,
      .of "visits" (·.visits) (fun d v => { d with visits := v }) VisitSummary.reader.read]
  empty := {}
  complete draft := do
    return {
      timestamp := ← needed "timestamp" draft.timestamp
      durationSeconds := ← needed "duration_seconds" draft.durationSeconds
      samples := ← needed "samples" draft.samples
      dispatcher := ← needed "dispatcher" draft.dispatcher
      video := ← needed "video" draft.video
      videoTotals := ← needed "video_totals" draft.videoTotals
      dropRatio := ← needed "drop_ratio" draft.dropRatio
      peakDropRatio := ← needed "peak_interval_drop_ratio" draft.peakDropRatio
      position := ← needed "position" draft.position
      cameras := ← needed "cameras" draft.cameras
      visits := ← needed "visits" draft.visits }

def Snapshot.ofJson (text : String) : Except ReadError (Snapshot Float) :=
  readText Snapshot.reader.read text

end VideoGate
