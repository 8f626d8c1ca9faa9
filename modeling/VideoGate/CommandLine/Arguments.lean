import VideoGate.CommandLine.Option

/-!
# Reading arguments

Arguments are read from left to right.  An option's value is attached to it or follows as the
next argument, which may not look like an option.  A value that follows is only read when the
next option begins or the arguments end, so an argument that is no option at all is reported
before it.  The name of a command ends the reading of the options before it.

Like `VideoGate.CommandLine.Option` this is no part of the program: it stands for the parser of a
library.  The documented conventions that it follows are those for long options (`--name value`,
`--name=value`), for short ones (`-n value`, `-nvalue`, `-n=value`, and flags behind one dash), for
the two dashes that end the options, for commands, and for options that are asked for help.
-/

namespace VideoGate.Command

/-- The options that have been given, with their values; a flag is a switch that is on. -/
abbrev Given := List (OptionSpec × OptionValue)

/-- Arguments while they are read. -/
structure Reading where
  given : Given := []
  /-- The last option and the argument that follows it, if they have not been read yet. -/
  pending : Option (OptionSpec × ValueKind × Option String) := none
  /-- Is the next argument the value of the last option? -/
  awaitsValue : Bool := false
deriving DecidableEq, Repr

namespace Reading

/-- Takes an option with its value, which may be given once. -/
def give (reading : Reading) (option : OptionSpec) (value : Except UsageFault OptionValue) :
    Except UsageFault Reading :=
  if reading.given.any (·.1 == option) then .error (.repeated option)
  else do
    return { reading with given := reading.given ++ [(option, ← value)] }

/-- Reads what is pending. -/
def settle (reading : Reading) : Except UsageFault Reading :=
  match reading.pending with
  | none => .ok { reading with awaitsValue := false }
  | some (option, _, none) => .error (.missingValue option)
  | some (option, kind, some text) =>
    { reading with pending := none, awaitsValue := false }.give option (option.read kind text)

def takeFlag (reading : Reading) (option : OptionSpec) : Except UsageFault Reading := do
  (← reading.settle).give option (.ok (.switch true))

/-- Reads an option with the value that is attached to it, or waits for its value. -/
def takeOption (reading : Reading) (option : OptionSpec) (kind : ValueKind)
    (attached : Option String) : Except UsageFault Reading := do
  let reading ← reading.settle
  match attached with
  | some text => reading.give option (option.read kind text)
  | none => return { reading with pending := some (option, kind, none), awaitsValue := true }

/-- Reads a long option: its name, and a value behind an equals sign. -/
def takeLong (reading : Reading) (options : List OptionSpec) (name : String)
    (attached : Option String) : Except UsageFault Reading :=
  match options.find? (·.long == name) with
  | none => .error (.unexpected ("--" ++ name))
  | some option =>
    match option.kind, attached with
    | .value kind, _ => reading.takeOption option kind attached
    | _, some value => .error (.unexpectedValue value option)
    | .flag, none => reading.takeFlag option
    | .help, none => do
      let _ ← reading.settle
      .error .help

/-- Reads short options that share a dash.  One that takes a value takes the rest for it. -/
def takeShort (options : List OptionSpec) : List Char → Reading → Except UsageFault Reading
  | [], reading => .ok reading
  | c :: rest, reading =>
    match options.find? (·.short == some c) with
    | none => .error (.unexpected ("-" ++ String.ofList [c]))
    | some option =>
      match option.kind with
      | .flag => do takeShort options rest (← reading.takeFlag option)
      | .help => do
        let _ ← reading.settle
        .error .help
      | .value kind =>
        match rest with
        | [] => reading.takeOption option kind none
        | '=' :: value => reading.takeOption option kind (some (String.ofList value))
        | value => reading.takeOption option kind (some (String.ofList value))

end Reading

/-- What an argument looks like. -/
inductive Shape where
  | long (name : String) (attached : Option String)
  | short (names : List Char)
  /-- Two dashes, behind which nothing is an option. -/
  | separator
  | plain

/-- A long option and what is behind its equals sign. -/
def splitEquals (text : List Char) : Shape :=
  match text.dropWhile (· != '=') with
  | [] => .long (String.ofList text) none
  | _ :: value =>
    .long (String.ofList (text.takeWhile (· != '='))) (some (String.ofList value))

def Shape.of (argument : String) : Shape :=
  match argument.toList with
  | ['-', '-'] => .separator
  | '-' :: '-' :: rest => splitEquals rest
  | '-' :: c :: rest => .short (c :: rest)
  | _ => .plain

/-- What is wrong with an argument that is neither an option nor the name of a command. -/
def strayArgument (commands : List String) (isBehindSeparator : Bool) (argument : String) :
    UsageFault :=
  if commands.isEmpty ∨ (isBehindSeparator ∧ argument ∈ commands) then .unexpected argument
  else .unknownCommand argument

/-- Reads arguments up to the name of a command: what has been read, and the command with the
arguments behind it. -/
def readArguments (options : List OptionSpec) (commands : List String) :
    List String → Reading → Except UsageFault (Reading × Option (String × List String))
  | [], reading => .ok (reading, none)
  | argument :: arguments, reading =>
    if ¬reading.awaitsValue ∧ argument ∈ commands then
      .ok (reading, some (argument, arguments))
    else
      match Shape.of argument with
      | .separator =>
        match arguments with
        | [] => .ok (reading, none)
        | stray :: _ => .error (strayArgument commands true stray)
      | .long name attached => do
        readArguments options commands arguments (← reading.takeLong options name attached)
      | .short names => do
        readArguments options commands arguments (← Reading.takeShort options names reading)
      | .plain =>
        match reading.awaitsValue, reading.pending with
        | true, some (option, kind, _) =>
          readArguments options commands arguments
            { reading with pending := some (option, kind, some argument), awaitsValue := false }
        | _, _ => .error (strayArgument commands false argument)

/-- Reads what is still pending, and answers all that has been given. -/
def Reading.finish (reading : Reading) : Except UsageFault Given :=
  reading.settle.map (·.given)

end VideoGate.Command
