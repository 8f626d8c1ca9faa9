import VideoGate.CommandLine.Arguments
import VideoGate.Robot.Run
import VideoGate.System.Registry

/-!
# Requests

A request is one command with everything it needs: what the operator has not given is filled in
with its default.  The options that hold for every command may stand before the command or
behind it, where they count for more.
-/

namespace VideoGate.Command

inductive Request where
  | load (interface object mode : String) (follows : Bool) (seconds : UInt64)
  | attach (object : String) (program : UInt32) (slot : String) (pin : Option String)
  | configure (stage1 stage2 bridge : Option Bool) (peer output mode : Option String)
  | stats (seconds : UInt64) (output format : String) (interval : UInt64)
  | robot (target : Option Wire.Endpoint) (isDirect : Bool) (route : Route) (rounds : UInt32)
  | unload
deriving DecidableEq, Repr

/-- A request, and what holds for every request. -/
structure Invocation where
  registry : Registry
  /-- Are the finer records of the log shown? -/
  verbose : Bool
  request : Request
deriving DecidableEq, Repr

/-! ## What can be given -/

def helpOption : OptionSpec := { long := "help", short := some 'h', kind := .help }

def versionOption : OptionSpec := { long := "version", short := some 'V', kind := .help }

def commonOptions : List OptionSpec :=
  [{ long := "pin-root", kind := .value .path },
    { long := "verbose", short := some 'v', kind := .flag },
    helpOption]

def commandTable : List (String × List OptionSpec) :=
  [("load",
      [{ long := "iface", short := some 'i', kind := .value .text, isRequired := true },
        { long := "object", kind := .value .path, isRequired := true },
        { long := "mode", short := some 'm', kind := .value .text },
        { long := "follow", short := some 'f', kind := .flag },
        { long := "duration", short := some 'd', kind := .value .word64 }]),
    ("attach-ext",
      [{ long := "object", kind := .value .path, isRequired := true },
        { long := "prog-id", kind := .value .word32, isRequired := true },
        { long := "func", kind := .value .text, isRequired := true },
        { long := "pin-path", kind := .value .path }]),
    ("config",
      [{ long := "stage1", kind := .value .switch },
        { long := "stage2", kind := .value .switch },
        { long := "peer", kind := .value .text },
        { long := "bridge", kind := .value .switch },
        { long := "output", kind := .value .text },
        { long := "mode", kind := .value .text }]),
    ("stats",
      [{ long := "duration", short := some 'd', kind := .value .word64 },
        { long := "output", short := some 'o', kind := .value .path },
        { long := "format", short := some 'f', kind := .value .text },
        { long := "interval", kind := .value .word64 }]),
    ("robot",
      [{ long := "target", kind := .value .endpoint },
        { long := "direct", kind := .flag },
        { long := "center-x", kind := .value .word32 },
        { long := "center-y", kind := .value .word32 },
        { long := "radius", kind := .value .word32 },
        { long := "duration", short := some 'd', kind := .value .word64 },
        { long := "update-hz", kind := .value .word32 },
        { long := "loops", kind := .value .word32 }]),
    ("unload", []),
    ("help", [])]

def commandNames : List String := commandTable.map (·.1)

/-! ## What has been given -/

namespace Given

def value? (given : Given) (long : String) : Option OptionValue :=
  (given.find? (·.1.long == long)).map (·.2)

def text? (given : Given) (long : String) : Option String :=
  match given.value? long with
  | some (.text text) => some text
  | _ => none

def word32? (given : Given) (long : String) : Option UInt32 :=
  match given.value? long with
  | some (.word32 word) => some word
  | _ => none

def word64? (given : Given) (long : String) : Option UInt64 :=
  match given.value? long with
  | some (.word64 word) => some word
  | _ => none

def switch? (given : Given) (long : String) : Option Bool :=
  match given.value? long with
  | some (.switch isOn) => some isOn
  | _ => none

def endpoint? (given : Given) (long : String) : Option Wire.Endpoint :=
  match given.value? long with
  | some (.endpoint target) => some target
  | _ => none

def hasFlag (given : Given) (long : String) : Bool := (given.switch? long).getD false

/-- The required options that have not been given. -/
def lacking (given : Given) (options : List OptionSpec) : List OptionSpec :=
  options.filter fun option => option.isRequired && (given.value? option.long).isNone

end Given

def routeOf (given : Given) : Route where
  centerX := (given.word32? "center-x").getD 500
  centerY := (given.word32? "center-y").getD 500
  radius := (given.word32? "radius").getD 400
  seconds := (given.word64? "duration").getD 60
  rate := (given.word32? "update-hz").getD 10

/-- The request that a command with its options stands for; none for a command that does nothing
itself. -/
def requestOf? (command : String) (given : Given) : Option Request :=
  if command = "load" then
    some (.load ((given.text? "iface").getD "") ((given.text? "object").getD "")
      ((given.text? "mode").getD "skb") (given.hasFlag "follow")
      ((given.word64? "duration").getD 0))
  else if command = "attach-ext" then
    some (.attach ((given.text? "object").getD "") ((given.word32? "prog-id").getD 0)
      ((given.text? "func").getD "") (given.text? "pin-path"))
  else if command = "config" then
    some (.configure (given.switch? "stage1") (given.switch? "stage2") (given.switch? "bridge")
      (given.text? "peer") (given.text? "output") (given.text? "mode"))
  else if command = "stats" then
    some (.stats ((given.word64? "duration").getD 60)
      ((given.text? "output").getD "pipeline-stats.json") ((given.text? "format").getD "json")
      ((given.word64? "interval").getD 1))
  else if command = "robot" then
    some (.robot (given.endpoint? "target") (given.hasFlag "direct") (routeOf given)
      ((given.word32? "loops").getD 1))
  else if command = "unload" then
    some .unload
  else
    none

/-! ## Reading a command line -/

/-- What asking for help comes to: a topic has to be a command, and has no topics below it. -/
def helpOn : List String → UsageFault
  | [] => .help
  | topic :: below =>
    if topic ∈ commandNames then
      match below with
      | [] => .help
      | stray :: _ => .unknownCommand stray
    else .unknownCommand topic

def readOptions (options : List OptionSpec) (arguments : List String) :
    Except UsageFault Given := do
  let (reading, _) ← readArguments (options ++ commonOptions) [] arguments {}
  let given ← reading.finish
  match given.lacking options with
  | [] => return given
  | lacking => throw (.missing lacking)

def readInvocation (arguments : List String) : Except UsageFault Invocation := do
  let options := commonOptions ++ [versionOption]
  let (reading, command) ← readArguments options commandNames arguments {}
  match command with
  | none =>
    let given ← reading.finish
    throw (if given.isEmpty then .nothing else .noCommand commandNames)
  | some ("help", topics) => throw (helpOn topics)
  | some (command, arguments) =>
    let own ← readOptions ((commandTable.lookup command).getD []) arguments
    let given := own ++ (← reading.finish)
    match requestOf? command own with
    | none => throw (.unknownCommand command)
    | some request =>
      return {
        registry := ((given.text? "pin-root").map Registry.mk).getD .standard
        verbose := given.hasFlag "verbose"
        request }

end VideoGate.Command
