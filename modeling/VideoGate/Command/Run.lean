import VideoGate.Command.Report
import VideoGate.Command.Request
import VideoGate.Control.Config
import VideoGate.Control.Status
import VideoGate.Export.Format
import VideoGate.Poll.Session
import VideoGate.Poll.Source
import VideoGate.Program.Load

/-!
# Running a request

Every request checks what it has been given before it changes anything, so a request that is
refused leaves all files and maps as they were.
-/

namespace VideoGate.Command

def tell (text : String) : Operation Unit := Operation.log .info .command text

def printBanner : Operation Unit := banner.forM Operation.print

/-! ## Shutting down -/

def tellShutdown (hasEnded : Bool) : Operation Unit :=
  tell (if hasEnded then "Duration reached, shutting down..." else "Interrupted, shutting down...")

def waitTimes : Nat → Operation Unit
  | 0 => return ()
  | times + 1 => do
    unless ← Operation.wait do
      waitTimes times

/-- Waits until the time is up or the operator interrupts.  Without a limit there is a wait for
everything that is going to happen, after which nothing else can change. -/
def awaitShutdown (seconds : UInt64) : Operation Unit := do
  if seconds = 0 then
    waitTimes ((← get).interludes.length + 1)
    tellShutdown false
  else
    tellShutdown (!(← Operation.wait))

/-! ## Loading -/

/-- Loads the dispatcher, attaches it to an interface and prints its number.  The program may stay
to show what the dispatcher logs. -/
def runLoad (kernel : Kernel) (registry : Registry) (interface object mode : String)
    (follows : Bool) (seconds : UInt64) : Operation Unit := do
  printBanner
  let mode ← Operation.ofExcept (AttachMode.parse mode)
  let loaded ← loadDispatcher kernel registry object
  if follows then
    forwardLog kernel loaded
  let number ← attachDispatcher kernel registry loaded interface mode
  tell ("Dispatcher program id: " ++ Numeral.text number.toNat)
  Operation.print (Numeral.text number.toNat)
  if follows then
    tell "Following in-kernel log records..."
    awaitShutdown seconds

/-- The slots that an extension can take. -/
def slots : List String := ["stage1", "stage2"]

/-- Binds an extension, which is pinned under the name of its slot unless it is given a path. -/
def runAttach (kernel : Kernel) (registry : Registry) (object : String) (program : UInt32)
    (slot : String) (pin : Option String) : Operation Unit := do
  unless slot ∈ slots do
    Operation.fail (.unsupportedSlot slot)
  let bound ← bindExtension kernel registry
    { object, program, slot, pin := pin.getD (registry.path slot) }
  tell ("Extension " ++ bound.program ++ " bound (" ++ Numeral.text bound.maps.length ++
    " new map(s) pinned)")

def runUnload (registry : Registry) : Operation Unit := do
  let names ← registry.clear
  names.forM fun name => tell ("  ✓ Unpinned " ++ name)
  tell ("Removed " ++ Numeral.text names.length ++ " pin(s) from " ++
    Path.quoted registry.root)

/-! ## Configuring -/

/-- Reads a value that may be given. -/
def resolve {α : Type} (read : String → Except Failure α) (text : Option String) :
    Operation (Option α) :=
  match text with
  | none => return none
  | some text => return some (← Operation.ofExcept (read text))

def runConfigure (registry : Registry) (stage1 stage2 bridge : Option Bool)
    (peer output mode : Option String) : Operation Unit := do
  let files ← Operation.files
  let interface := fun text => resolveInterface interfaceDirectory text files
  let peer ← resolve interface peer
  let output ← resolve interface output
  let globalMode ← resolve FilterMode.parse mode
  let config : Config := { stage1, stage2, peer, bridge, output, globalMode }
  if config.isEmpty then
    tell "No settings given, showing current configuration"
  else
    config.apply registry
  let status ← Status.ofRegistry registry
  Operation.print status.toValue.prettyText

/-! ## Collecting statistics -/

/-- Lets the background task have its tick. -/
def tickFrom (source : StatsSource) (verbose : Bool) (session : Session) :
    Operation Session := do
  if session.isRunning then
    let (session, notices) := session.tick verbose (← Operation.attempt source.sample)
    notices.forM Operation.notify
    return session
  else
    return session

/-- How watching the counters has ended. -/
structure Watch where
  session : Session
  /-- Number of whole intervals that have passed. -/
  intervals : Nat
  interrupted : Bool

/-- Watches the counters for so many ticks, each followed by a wait. -/
def watch (source : StatsSource) (verbose : Bool) : Nat → Watch → Operation Watch
  | 0, state => return state
  | ticks + 1, state => do
    let session ← tickFrom source verbose state.session
    if ← Operation.wait then
      return { state with session, interrupted := true }
    else
      watch source verbose ticks { state with session, intervals := state.intervals + 1 }

/-- The number of ticks in a time.  Without a limit there is one for everything that is going to
happen, after which nothing else can change. -/
def ticksIn (seconds interval : UInt64) (interludes : Nat) : Nat :=
  if seconds = 0 then interludes + 1
  else (seconds.toNat + interval.toNat - 1) / interval.toNat

/-- Watches the counters until the time is up or the operator interrupts, and takes a last
sample: the session, and how many seconds have passed. -/
def collect (source : StatsSource) (verbose : Bool) (seconds interval : UInt64) :
    Operation (Session × UInt64) := do
  let ticks := ticksIn seconds interval (← get).interludes.length
  let watched ← watch source verbose ticks { session := .new, intervals := 0, interrupted := false }
  let hasEnded := seconds ≠ 0 ∧ ¬watched.interrupted
  tellShutdown hasEnded
  let (polled, session) := watched.session.pollOnce (← Operation.attempt source.sample)
  Operation.ofExcept polled
  let elapsed := if hasEnded then seconds else UInt64.ofNat watched.intervals * interval
  return (session, elapsed)

def runStats (registry : Registry) (verbose : Bool) (seconds : UInt64)
    (output format : String) (interval : UInt64) : Operation Unit := do
  printBanner
  let exportFormat ← Operation.ofExcept (ExportFormat.parse format)
  if interval = 0 then
    Operation.fail .noInterval
  tell "Collecting stats..."
  tell ("   Duration: " ++ (if seconds = 0 then "infinite" else Numeral.text seconds.toNat) ++
    " seconds")
  tell ("   Output: " ++ Path.quoted output)
  tell ("   Format: " ++ format)
  let source ← StatsSource.ofRegistry registry
  let (session, elapsed) ← collect source verbose seconds interval
  tell "Generating stats report..."
  let now := (← get).now
  match session.collector.snapshot? now.timestamp elapsed with
  | .error fault => Operation.fail (.stats fault)
  | .ok none => Operation.fail .noSamples
  | .ok (some snapshot) =>
    writeExport output (exportFormat.render now.nanoseconds snapshot)
    tell ("Stats written to " ++ Path.quoted output)
    (summary snapshot).forM tell

/-! ## Moving the robot -/

def openSink (registry : Registry) (target : Option Wire.Endpoint) (isDirect : Bool) :
    Operation Sink := do
  if isDirect then
    tell ("Writing camera modes directly into " ++ Path.quoted registry.root)
    return (← PositionMaps.ofRegistry registry).write
  else
    let target := target.getD standardTarget
    tell ("Sending positions to " ++ target.text)
    return Sink.datagrams target

/-- Runs the robot; to interrupt it is no failure. -/
def runRobot (registry : Registry) (target : Option Wire.Endpoint) (isDirect : Bool)
    (route : Route) (rounds : UInt32) : Operation Unit := do
  let sink ← openSink registry target isDirect
  tell ("Circular path: center=(" ++ Numeral.text route.centerX.toNat ++ ", " ++
    Numeral.text route.centerY.toNat ++ "), radius=" ++ Numeral.text route.radius.toNat)
  tell ("Update rate: " ++ Numeral.text route.rate.toNat ++ " Hz, " ++
    Numeral.text route.seconds.toNat ++ " seconds/round")
  match ← Operation.attempt (Robot.run route rounds sink) with
  | .ok published => tell ("Published " ++ Numeral.text published.toNat ++ " positions")
  | .error .interrupted => tell "Interrupted, stopping robot..."
  | .error failure => Operation.fail failure

/-! ## The program -/

def Invocation.run (kernel : Kernel) (invocation : Invocation) : Operation Unit :=
  match invocation.request with
  | .load interface object mode follows seconds =>
    runLoad kernel invocation.registry interface object mode follows seconds
  | .attach object program slot pin =>
    runAttach kernel invocation.registry object program slot pin
  | .configure stage1 stage2 bridge peer output mode =>
    runConfigure invocation.registry stage1 stage2 bridge peer output mode
  | .stats seconds output format interval =>
    runStats invocation.registry invocation.verbose seconds output format interval
  | .robot target isDirect route rounds =>
    runRobot invocation.registry target isDirect route rounds
  | .unload => runUnload invocation.registry

inductive Ending where
  | done
  | failed (failure : Failure)
  | refused (fault : UsageFault)
deriving DecidableEq, Repr

namespace Ending

def code : Ending → UInt32
  | done => 0
  | failed failure => if failure.isDefect then 101 else 1
  | refused .help => 0
  | refused _ => 2

/-- What is told at the end.  The words of a failure are told as they are. -/
def text : Ending → String
  | done => ""
  | failed failure =>
    if failure.isDefect then (Notice.defect failure.message).text
    else
      "Error: " ++ failure.message ++ "\n" ++
        match failure.cause? with
        | none => ""
        | some cause => "\nCaused by:\n    " ++ cause ++ "\n"
  | refused fault => fault.text

end Ending

/-- What a run of the program comes to. -/
structure Outcome where
  ending : Ending
  /-- Are the finer records of the log shown? -/
  verbose : Bool
  world : World

namespace Outcome

def shows (outcome : Outcome) : Notice → Bool
  | .logged record => record.level != .debug || outcome.verbose
  | .defect _ => true

/-- Everything that the operator is told apart from the output: the notices, and how the program
has ended. -/
def told (outcome : Outcome) : String :=
  String.join ((outcome.world.notices.filter outcome.shows).map Notice.text) ++
    outcome.ending.text

end Outcome

/-- Runs the program on a command line.  Help is part of the output. -/
def run (kernel : Kernel) (arguments : List String) (world : World) : Outcome :=
  match readInvocation arguments with
  | .error .help =>
    let (_, world) := (Operation.print UsageFault.about).perform world
    { ending := .refused .help, verbose := false, world }
  | .error fault => { ending := .refused fault, verbose := false, world }
  | .ok invocation =>
    match (invocation.run kernel).perform world with
    | (.ok (), world) => { ending := .done, verbose := invocation.verbose, world }
    | (.error failure, world) =>
      { ending := .failed failure, verbose := invocation.verbose, world }

end VideoGate.Command
