import VideoGate.Control.Options
import VideoGate.Text.Terminal
import VideoGate.Wire.Endpoint

/-!
# Options of the command line

An option has a long name, and maybe a short one.  It is a flag or takes a value, and a value is
read as soon as it is known to be complete, so the first option with a bad value is the one that
is reported.

The program only declares its options (`VideoGate.Command.Request`) and leaves the rest to a library
for command lines, which is not part of it.  This module stands for that library: for the types of
values with their documented ranges and reasons, for the documented kinds of faults, and for the
words in which the library reports them.  Of the program's own there are its name, the line on what
it is, and the reading of a switch.
-/

namespace VideoGate.Command

/-- What the value of an option has to be. -/
inductive ValueKind where
  | text
  /-- A path, which is not empty. -/
  | path
  | word32
  | word64
  | switch
  | endpoint
deriving DecidableEq, Repr

inductive OptionValue where
  | text (text : String)
  | word32 (word : UInt32)
  | word64 (word : UInt64)
  | switch (isOn : Bool)
  | endpoint (target : Wire.Endpoint)
deriving DecidableEq, Repr

inductive OptionKind where
  | flag
  /-- A flag that asks for help instead of doing anything. -/
  | help
  | value (kind : ValueKind)
deriving DecidableEq, Repr

structure OptionSpec where
  long : String
  short : Option Char := none
  kind : OptionKind
  isRequired : Bool := false
deriving DecidableEq, Repr

namespace OptionSpec

/-- The name of an option's value: its long name in capitals. -/
def placeholder (option : OptionSpec) : String :=
  option.long.map fun c => if c = '-' then '_' else c.toUpper

/-- An option as it stands in messages. -/
def shown (option : OptionSpec) : String :=
  match option.kind with
  | .value _ => "--" ++ option.long ++ " <" ++ option.placeholder ++ ">"
  | _ => "--" ++ option.long

end OptionSpec

/-- What is wrong with a command line. -/
inductive UsageFault where
  | unexpected (argument : String)
  | unexpectedValue (value : String) (option : OptionSpec)
  | missingValue (option : OptionSpec)
  | repeated (option : OptionSpec)
  | invalid (value : String) (option : OptionSpec) (reason : String)
  | missing (options : List OptionSpec)
  | unknownCommand (name : String)
  | noCommand (commands : List String)
  /-- Nothing is given at all. -/
  | nothing
  | help
deriving DecidableEq, Repr

namespace UsageFault

def about : String := "XDP stage pipeline control plane"

/-- The end of the words of a fault: the last of them, and where to find more. -/
def closing (last : String) : List String :=
  [last ++ "\n\nFor more information, try '", "--help", "'.\n"]

/-- The words of a fault in pieces.  What the operator has given is a piece of its own unless it is
part of a reason. -/
def pieces : UsageFault → List String
  | unexpected argument => ["error: unexpected argument '", argument] ++ closing "' found"
  | unexpectedValue value option =>
    ["error: unexpected value '", value, "' for '", option.shown] ++
      closing "' found; no more were expected"
  | missingValue option =>
    ["error: a value is required for '", option.shown] ++ closing "' but none was supplied"
  | repeated option =>
    ["error: the argument '", option.shown] ++ closing "' cannot be used multiple times"
  | invalid value option reason =>
    ["error: invalid value '", value, "' for '", option.shown] ++ closing ("': " ++ reason)
  | missing options =>
    ["error: the following required arguments were not provided:"] ++
      options.map (fun option => "\n  " ++ option.shown) ++ closing ""
  | unknownCommand name => ["error: unrecognized subcommand '", name] ++ closing "'"
  | noCommand commands =>
    ["error: 'pipeline-ctl' requires a subcommand but one was not provided",
      "\n  [subcommands: " ++ ", ".intercalate commands] ++ closing "]"
  | nothing => [about, "\n"]
  | help => []

/-- What is shown of a fault.  The style changes between the pieces, which ends every control
sequence, so each piece is shown on its own. -/
def text (fault : UsageFault) : String := String.join (fault.pieces.map Terminal.visible)

end UsageFault

/-! ## Reading values -/

/-- Reads a word of 32 bits: any signed number is read first, and then has to be in range. -/
def readWord32 (text : String) : Except String UInt32 :=
  match Numeral.parseSigned64 text.toList with
  | .error fault => .error fault.message
  | .ok number =>
    if 0 ≤ number ∧ number < UInt32.size then .ok (UInt32.ofNat number.toNat)
    else
      let sign := if number < 0 then "-" else ""
      .error (sign ++ Numeral.text number.natAbs ++ " is not in 0..=4294967295")

def ValueKind.read (kind : ValueKind) (text : String) : Except String OptionValue :=
  match kind with
  | .text | .path => .ok (.text text)
  | .word32 => (readWord32 text).map .word32
  | .word64 =>
    match Numeral.parseWord64 text with
    | .ok word => .ok (.word64 word)
    | .error fault => .error fault.message
  | .switch =>
    match parseSwitch? text with
    | some isOn => .ok (.switch isOn)
    | none => .error ("expected on or off, got '" ++ text ++ "'")
  | .endpoint =>
    match Wire.Endpoint.parse? text with
    | some target => .ok (.endpoint target)
    | none => .error "invalid socket address syntax"

def OptionSpec.read (option : OptionSpec) (kind : ValueKind) (text : String) :
    Except UsageFault OptionValue :=
  if kind = .path ∧ text = "" then .error (.missingValue option)
  else
    match kind.read text with
    | .ok value => .ok value
    | .error reason => .error (.invalid text option reason)

end VideoGate.Command
