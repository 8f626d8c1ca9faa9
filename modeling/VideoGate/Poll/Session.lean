import VideoGate.Decimal.Layout
import VideoGate.Stats.Collector
import VideoGate.System.World

/-!
# Polling

A session collects samples.  Its background task takes one at every tick and tells the growth
since the sample before; whoever holds the session may take one more at any time.  A sample
that cannot be taken changes nothing: the task says so and goes on to the next tick.  Only a
defect ends the task.
-/

namespace VideoGate

structure Session where
  collector : Collector Float
  /-- Does the background task still run? -/
  isRunning : Bool := true

namespace Session

def new : Session where
  collector := .new

def progress (report : IntervalReport Float) : String :=
  "📈 Progress: " ++ Numeral.text report.admitted.toNat ++ " admitted, " ++
    Numeral.text report.rtp.toNat ++ " rtp, " ++
    Numeral.text report.dropped.toNat ++ " dropped, " ++
    Numeral.text report.forwarded.toNat ++ " forwarded, drop ratio " ++
    Decimal.writePercent report.dropRatio ++ "%"

def tracked (position : Position) : String :=
  "Tracked position: (" ++ Numeral.text position.x.toNat ++ ", " ++
    Numeral.text position.y.toNat ++ ")"

def notice (level : Level) (text : String) : Notice := .logged { level, origin := .poller, text }

/-- What the task tells of a sample it has recorded; nothing of the first one. -/
def progressNotices (verbose isFirst : Bool) (sample : Sample) (report : IntervalReport Float) :
    List Notice :=
  if isFirst then []
  else
    notice .info (progress report) ::
      if verbose then [notice .debug (tracked sample.position)] else []

/-- The session after its task has met a defect, which it tells. -/
def endedBy (session : Session) (failure : Failure) : Session × List Notice :=
  ({ session with isRunning := false }, [.defect failure.message])

/-- A tick of the background task, at which the source has given a sample or failed: the
session afterwards, and what the task tells. -/
def tick (verbose : Bool) (session : Session) (taken : Except Failure Sample) :
    Session × List Notice :=
  if session.isRunning then
    match taken with
    | .error failure =>
      if failure.isDefect then session.endedBy failure
      else (session, [notice .warn ("Error sampling stats maps: " ++ failure.chain)])
    | .ok sample =>
      let (recorded, collector) := (Collector.takeIn sample).perform session.collector
      match recorded with
      | .error fault => { session with collector }.endedBy (.stats fault)
      | .ok report =>
        ({ session with collector },
          progressNotices verbose (session.collector.samples == 0) sample report)
  else (session, [])

/-- Takes in one more sample, or hands on why there is none; and the session afterwards. -/
def pollOnce (session : Session) (taken : Except Failure Sample) :
    Except Failure Unit × Session :=
  match taken with
  | .error failure => (.error failure, session)
  | .ok sample =>
    let (recorded, collector) := (Collector.takeIn sample).perform session.collector
    ((recorded.map fun _ => ()).mapError .stats, { session with collector })

end Session

end VideoGate
