import VideoGate.Stats.Snapshot

/-!
# Collecting samples

A collector keeps the first and the latest sample, how many there were, and the highest drop
ratio between two of them.  It is changed one assignment after another.  A sample is reported on
before the first of them, so a sample that cannot be reported on changes nothing.
-/

namespace VideoGate

/-- What is kept of the samples so far. -/
structure Collector (ρ : Type) where
  /-- The first sample, from which growth is counted. -/
  baseline : Option Sample
  latest : Option Sample
  /-- The highest drop ratio between two samples. -/
  peak : ρ
  samples : UInt64

namespace Collector

variable {ρ : Type} [Ratio ρ]

def new : Collector ρ where
  baseline := none
  latest := none
  peak := Ratio.zero
  samples := 0

def firstReport : IntervalReport ρ where
  admitted := 0
  rtp := 0
  dropped := 0
  forwarded := 0
  dropRatio := Ratio.zero

def reportBetween (previous current : Sample) : Except StatsFault (IntervalReport ρ) := do
  let video := current.video.since previous.video
  let dropRatio ← video.dropRatio
  return {
    admitted := (current.dispatcher.since previous.dispatcher).get .admitted
    rtp := video.get .rtpPackets
    dropped := video.get .dropped
    forwarded := video.get .forwarded
    dropRatio }

def reportOn (collector : Collector ρ) (sample : Sample) :
    Except StatsFault (IntervalReport ρ) :=
  match collector.latest with
  | none => .ok firstReport
  | some previous => reportBetween previous sample

/-- The collector after a sample with its report.  Only an interval in which something was
dropped or forwarded bears on the peak. -/
def accept (collector : Collector ρ) (sample : Sample) (report : IntervalReport ρ) :
    Collector ρ where
  baseline := some (collector.baseline.getD sample)
  latest := some sample
  peak :=
    if 0 < report.dropped + report.forwarded then Ratio.larger collector.peak report.dropRatio
    else collector.peak
  samples := collector.samples + 1

/-- The outcome of taking in a sample, as long as the samples can be counted: its report and the
collector afterwards. -/
def record (collector : Collector ρ) (sample : Sample) :
    Except StatsFault (IntervalReport ρ × Collector ρ) := do
  let report ← collector.reportOn sample
  return (report, collector.accept sample report)

/-! ## One assignment after another -/

/-- A sum of counters, which has to fit into a word. -/
def checkedSum (a b : UInt64) : Except StatsFault UInt64 :=
  if UInt64.size ≤ a.toNat + b.toNat then .error .sumTooLarge else .ok (a + b)

/-- A change of a collector.  What has been assigned stays assigned when a later step fails. -/
abbrev Update (ρ α : Type) := ExceptT StatsFault (StateM (Collector ρ)) α

def Update.perform {ρ α : Type} (update : Update ρ α) (collector : Collector ρ) :
    Except StatsFault α × Collector ρ :=
  update.run.run collector

/-- Takes in a sample and reports the growth since the one before. -/
def takeIn (sample : Sample) : Update ρ (IntervalReport ρ) := do
  let report ← (← get).reportOn sample
  if 0 < (← checkedSum report.dropped report.forwarded) then
    modify fun collector =>
      { collector with peak := Ratio.larger collector.peak report.dropRatio }
  if (← get).baseline.isNone then
    modify fun collector => { collector with baseline := some sample }
  modify fun collector => { collector with latest := some sample }
  let samples ← checkedSum (← get).samples 1
  modify fun collector => { collector with samples }
  return report

/-! ## Snapshots -/

def snapshot? (collector : Collector ρ) (timestamp : String) (elapsed : UInt64) :
    Except StatsFault (Option (Snapshot ρ)) :=
  match collector.baseline, collector.latest with
  | some baseline, some latest => do
    let video := latest.video.since baseline.video
    let dropRatio ← video.dropRatio
    return some {
      timestamp
      durationSeconds := elapsed
      samples := collector.samples
      dispatcher := latest.dispatcher.since baseline.dispatcher
      video := .ofVideo video
      videoTotals := .ofVideo latest.video
      dropRatio
      peakDropRatio := collector.peak
      position := latest.position
      cameras := .ofTable latest.cameras
      visits := .ofMetadata latest.metadata }
  | _, _ => return none

end Collector

end VideoGate
