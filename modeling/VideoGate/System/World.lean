import VideoGate.System.Failure
import VideoGate.Text.Terminal

/-!
# Acting on the world

An operation may change the files, print, send and give notices to the operator; when it fails,
what it has done until then stays done.  While it waits others may act: they write maps, and
the operator may interrupt.
-/

namespace VideoGate

inductive Level where
  | warn
  | info
  | debug
deriving DecidableEq, Repr

def Level.name : Level → String
  | warn => "WARN"
  | info => "INFO"
  | debug => "DEBUG"

def Level.label : Level → String
  | warn => "WARN "
  | info => "INFO "
  | debug => "DEBUG"

inductive Origin where
  | command
  | control
  | loader
  | poller
  | simulator
deriving DecidableEq, Repr

def Origin.name : Origin → String
  | command => "pipeline_ctl"
  | control => "xdp_pipeline::control"
  | loader => "xdp_pipeline::loader"
  | poller => "xdp_pipeline::poller"
  | simulator => "xdp_pipeline::simulator"

/-- A record of the log. -/
structure LogRecord where
  level : Level
  origin : Origin
  text : String
deriving DecidableEq, Repr

/-- A record as it is written: further lines of its text are indented. -/
def LogRecord.line (record : LogRecord) : String :=
  let text := record.text.toList.flatMap fun c => if c = '\n' then "\n    ".toList else [c]
  "[" ++ record.level.label ++ " " ++ record.origin.name ++ "] " ++ String.ofList text

/-- What the operator is told while the program runs. -/
inductive Notice where
  | logged (record : LogRecord)
  /-- A defect has ended a task. -/
  | defect (words : String)
deriving DecidableEq, Repr

namespace Notice

def record? : Notice → Option LogRecord
  | .logged record => some record
  | .defect _ => none

/-- What the operator sees of a notice: the visible part of a record, and the words of a defect as
they are, behind an empty line. -/
def text : Notice → String
  | .logged record => Terminal.visible (record.line ++ "\n")
  | .defect words => "\n" ++ words ++ "\n"

end Notice

/-- The network, as far as datagrams can be sent. -/
structure Network where
  /-- Can anything be sent at all? -/
  isUp : Bool := true
  /-- What has been sent, the last datagram first. -/
  sent : List (List UInt8) := []
deriving DecidableEq, Repr

/-- What happens outside during one wait. -/
structure Interlude where
  /-- Maps that others have written. -/
  written : List (Place × PinnedMap) := []
  /-- Has the operator interrupted the program? -/
  interrupts : Bool := false
deriving DecidableEq

structure Moment where
  /-- The moment as a text. -/
  timestamp : String
  /-- The moment in nanoseconds. -/
  nanoseconds : Int
deriving DecidableEq, Repr, Inhabited

/-- What operations act on. -/
structure World where
  files : Files
  /-- What the operator has been told, the last notice first. -/
  told : List Notice := []
  /-- What has been printed, the last line first. -/
  printed : List String := []
  network : Network := {}
  /-- What will happen outside, wait by wait. -/
  interludes : List Interlude := []
  /-- The moment of a report. -/
  now : Moment := default
deriving DecidableEq

namespace World

def notices (world : World) : List Notice := world.told.reverse

def records (world : World) : List LogRecord := world.notices.filterMap Notice.record?

def output (world : World) : String := String.join (world.printed.reverse.map (· ++ "\n"))

def datagrams (world : World) : List (List UInt8) := world.network.sent.reverse

end World

/-- Something that is done to the world and may fail half way. -/
abbrev Operation (α : Type) := ExceptT Failure (StateM World) α

namespace Operation

def perform {α : Type} (operation : Operation α) (world : World) : Except Failure α × World :=
  operation.run.run world

def fail {α : Type} (failure : Failure) : Operation α := throw failure

def ofExcept {α : Type} (outcome : Except Failure α) : Operation α :=
  match outcome with
  | .ok value => pure value
  | .error failure => fail failure

def files : Operation Files := do return (← get).files

def setFiles (files : Files) : Operation Unit := modify fun world => { world with files }

def notify (notice : Notice) : Operation Unit :=
  modify fun world => { world with told := notice :: world.told }

def log (level : Level) (origin : Origin) (text : String) : Operation Unit :=
  notify (.logged { level, origin, text })

def print (line : String) : Operation Unit :=
  modify fun world => { world with printed := line :: world.printed }

/-- Sends a datagram to a target, which a failure names. -/
def send (target : String) (datagram : List UInt8) : Operation Unit := do
  if (← get).network.isUp then
    modify fun world =>
      { world with network := { world.network with sent := datagram :: world.network.sent } }
  else
    fail (.cannotSend target)

/-- Waits, and answers whether the operator has interrupted the program meanwhile. -/
def wait : Operation Bool := do
  let world ← get
  match world.interludes with
  | [] => return false
  | interlude :: interludes =>
    let files := interlude.written.foldl (fun files (place, map) => files.put place (.map map))
      world.files
    set { world with files, interludes }
    return interlude.interrupts

/-- Runs an operation, and hands on its failure as a value. -/
def attempt {α : Type} (operation : Operation α) : Operation (Except Failure α) := do
  let world ← get
  let (outcome, world) := operation.perform world
  set world
  return outcome

end Operation

end VideoGate
