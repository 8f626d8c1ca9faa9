import VideoGate.Decimal.Layout
import VideoGate.Stats.Snapshot

/-!
# Snapshots as text for monitoring systems

Two line formats.  In the exposition format every metric has a comment for its meaning and one
for its kind, both before its samples, and an empty line behind them.  In the line protocol a
snapshot makes four lines, each of them a measurement with a tag, fields and a time in
nanoseconds.  Numbers are written in full, never with an exponent.
-/

namespace VideoGate

/-- Ratios are written in full, a whole number without a point. -/
def ratioLayout : DecimalLayout where
  tie := .away
  positional := none
  keepsPoint := false

def word32Text (n : UInt32) : String := Numeral.text n.toNat

def word64Text (n : UInt64) : String := Numeral.text n.toNat

/-- The names of the dispatcher's counters, in the order of the table. -/
def DispatchCounter.name : DispatchCounter → String
  | admitted => "admitted"
  | stage1 => "stage1"
  | stage2 => "stage2"
  | bridged => "bridged"
  | outputRedirects => "output_redirects"

/-! ## The exposition format -/

structure MetricSample where
  label : Option (String × String)
  value : String
deriving DecidableEq, Repr

/-- A metric with its samples. -/
structure Metric where
  name : String
  kind : String
  help : String
  samples : List MetricSample
deriving DecidableEq, Repr

namespace Metric

def family : String := "xdp_pipeline_"

def sampleLine (name : String) (sample : MetricSample) : String :=
  let label :=
    match sample.label with
    | none => ""
    | some (key, value) => "\x7b" ++ key ++ "=\"" ++ value ++ "\"\x7d"
  family ++ name ++ label ++ " " ++ sample.value

/-- The lines of a metric: two comments, the samples and an empty line. -/
def lines (metric : Metric) : List String :=
  ["# HELP " ++ family ++ metric.name ++ " " ++ metric.help,
    "# TYPE " ++ family ++ metric.name ++ " " ++ metric.kind] ++
    metric.samples.map (sampleLine metric.name) ++ [""]

end Metric

def linesText (lines : List String) : String := String.join (lines.map (· ++ "\n"))

namespace Snapshot

def metrics (snapshot : Snapshot Float) : List Metric :=
  [{ name := "duration_seconds"
     kind := "gauge"
     help := "Duration of collection period"
     samples := [{ label := none, value := word64Text snapshot.durationSeconds }] },
    { name := "dispatcher_packets"
      kind := "counter"
      help := "Dispatcher counters over the collection period"
      samples := DispatchCounter.all.map fun counter =>
        { label := some ("counter", counter.name)
          value := word64Text (snapshot.dispatcher.get counter) } },
    { name := "video_packets"
      kind := "counter"
      help := "Video filter counters over the collection period"
      samples := snapshot.video.entries.map fun entry =>
        { label := some ("stat", entry.1), value := word64Text entry.2 } },
    { name := "drop_ratio"
      kind := "gauge"
      help := "Dropped share of classified video packets"
      samples :=
        [{ label := none, value := ratioLayout.write snapshot.dropRatio },
          { label := some ("window", "peak_interval")
            value := ratioLayout.write snapshot.peakDropRatio }] },
    { name := "position"
      kind := "gauge"
      help := "Last tracked object coordinate"
      samples :=
        [{ label := some ("axis", "x"), value := word32Text snapshot.position.x },
          { label := some ("axis", "y"), value := word32Text snapshot.position.y }] },
    { name := "cameras_filtering"
      kind := "gauge"
      help := "Cameras with P-slice filtering"
      samples := [{ label := none, value := word32Text snapshot.cameras.filtering }] }]

def exposition (snapshot : Snapshot Float) : String :=
  linesText (snapshot.metrics.flatMap Metric.lines)

/-! ## The line protocol -/

end Snapshot

/-- A point of the line protocol: its type and its fields. -/
structure Point where
  type : String
  fields : List (String × String)
deriving DecidableEq, Repr

def Point.line (measurement : String) (nanoseconds : Int) (point : Point) : String :=
  let fields := point.fields.map fun field => field.1 ++ "=" ++ field.2
  let time :=
    if nanoseconds < 0 then "-" ++ Numeral.text nanoseconds.natAbs
    else Numeral.text nanoseconds.natAbs
  measurement ++ ",type=" ++ point.type ++ " " ++ ",".intercalate fields ++ " " ++ time

namespace Snapshot

def wholeField (name text : String) : String × String := (name, text ++ "i")

def points (snapshot : Snapshot Float) : List Point :=
  [{ type := "summary"
     fields :=
      [wholeField "duration_seconds" (word64Text snapshot.durationSeconds),
        wholeField "samples" (word64Text snapshot.samples),
        ("drop_ratio", ratioLayout.write snapshot.dropRatio),
        ("peak_interval_drop_ratio", ratioLayout.write snapshot.peakDropRatio)] },
    { type := "dispatcher"
      fields := DispatchCounter.all.map fun counter =>
        wholeField counter.name (word64Text (snapshot.dispatcher.get counter)) },
    { type := "video"
      fields := snapshot.video.entries.map fun entry =>
        wholeField entry.1 (word64Text entry.2) },
    { type := "tracking"
      fields :=
        [wholeField "x" (word32Text snapshot.position.x),
          wholeField "y" (word32Text snapshot.position.y),
          wholeField "cameras_filtering" (word32Text snapshot.cameras.filtering)] }]

def lineProtocol (measurement : String) (nanoseconds : Int) (snapshot : Snapshot Float) :
    String :=
  linesText (snapshot.points.map (Point.line measurement nanoseconds))

end Snapshot

end VideoGate
