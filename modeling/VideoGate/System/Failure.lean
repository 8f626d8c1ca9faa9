import VideoGate.Pin.Layout
import VideoGate.Stats.Counts
import VideoGate.System.Files
import VideoGate.Text.Numeral

/-!
# Failures

Everything that can keep the operator's program from doing what it was asked to, with the
words in which it is told.  Some failures have a cause of their own, told after them.
-/

namespace VideoGate

/-- What was being read from the maps. -/
inductive Observed where
  | videoStats
  | counters
  | position
  | cameras
  | globalMode
deriving DecidableEq, Repr

def Observed.words : Observed → String
  | videoStats => "video_stats"
  | counters => "counters"
  | position => "coordinates"
  | cameras => "camera table"
  | globalMode => "filtering_mode[0]"

/-- What went wrong when a program was to be loaded, pinned or attached. -/
inductive LoadFault where
  | noProgram (name : String)
  | notXdp (name : String)
  | loadingProgram (name : String)
  | programPin (name path : String)
  | attaching (interface : String)
  | takingLink (owner : String)
  | linkWithoutDescriptor
  | linkPin (path : String)
  | programNumber
  | emptyObject (path : String)
  | notExtension (name : String)
  | listing
  | opening (number : UInt32)
  | notLoaded (number : UInt32)
  | loadingExtension (name slot : String) (number : UInt32)
  | attachingExtension (name : String)
deriving DecidableEq, Repr

def LoadFault.message : LoadFault → String
  | noProgram name => name ++ " program not found in eBPF object"
  | notXdp name => "Failed to get " ++ name ++ " as XDP"
  | loadingProgram name => "Failed to load " ++ name
  | programPin name path => "Failed to pin " ++ name ++ " at " ++ Path.quoted path
  | attaching interface =>
    "Failed to attach XDP to interface '" ++ interface ++
      "' - check permissions and interface exists"
  | takingLink owner => "Failed to take " ++ owner ++ " link"
  | linkWithoutDescriptor => "XDP link is not fd-based (kernel too old to pin XDP links)"
  | linkPin path => "Failed to pin link at " ++ Path.quoted path
  | programNumber => "Failed to query dispatcher program info"
  | emptyObject path => "No program found in " ++ Path.quoted path
  | notExtension name => "Program " ++ name ++ " is not an extension"
  | listing => "Failed to enumerate loaded programs"
  | opening number => "Failed to open program " ++ Numeral.text number.toNat
  | notLoaded number => "No loaded program with id " ++ Numeral.text number.toNat
  | loadingExtension name slot number =>
    "Failed to load " ++ name ++ " against " ++ slot ++ " of program " ++
      Numeral.text number.toNat
  | attachingExtension name => "Failed to attach extension " ++ name

/-- Why something could not be done. -/
inductive Failure where
  | unsupportedExport (text : String)
  | unsupportedFilterMode (text : String)
  | unsupportedAttachMode (text : String)
  | unsupportedSlot (text : String)
  | unknownInterface (name path : String) (cause : FileFault)
  | malformedInterface (path : String) (cause : Numeral.Fault)
  | cannotMakeRegistry (root : String)
  | cannotListRegistry (root : String)
  | cannotUnpin (path : String)
  | cannotOpenMap (path : String)
  | notAnArray (name : String)
  | notPerProcessor (name : String)
  | cannotReadSlot (index : Nat)
  | cannotRead (what : Observed)
  | cannotWriteSlot (map : MapName) (index : Nat)
  | cannotWriteCamera (camera : UInt32)
  | cannotWriteX
  | cannotWriteY
  | cannotMakeOutput (path : String)
  | cannotWriteOutput (path : String)
  | objectNotFound (path : String)
  | cannotLoadObject (path : String)
  | loading (fault : LoadFault)
  | noInterval
  | noSamples
  | noRate
  | noDuration
  | cannotSend (target : String)
  /-- A source of samples failed, in its own words. -/
  | source (words : String)
  | stats (fault : StatsFault)
  /-- There is no time between two positions. -/
  | rateTooHigh
  /-- A round has more updates than a word can count. -/
  | roundTooLong
  /-- There have been more rounds or positions than a word can count. -/
  | tooManyRounds
  /-- The operator has interrupted the program. -/
  | interrupted
deriving DecidableEq, Repr

namespace Failure

def message : Failure → String
  | unsupportedExport text =>
    "Unsupported format: " ++ text ++ ". Use json, prometheus, or influx"
  | unsupportedFilterMode text =>
    "Unsupported filter mode: " ++ text ++ ". Use off, drop-p or forward-p"
  | unsupportedAttachMode text => "Unsupported XDP mode: " ++ text ++ ". Use skb, drv or hw"
  | unsupportedSlot text => "Unsupported slot: " ++ text ++ ". Use stage1 or stage2"
  | unknownInterface name path _ =>
    "Unknown interface '" ++ name ++ "' (no " ++ Path.quoted path ++ ")"
  | malformedInterface path _ => "Malformed ifindex in " ++ Path.quoted path
  | cannotMakeRegistry root => "Failed to create pin registry " ++ Path.quoted root
  | cannotListRegistry root => "Failed to list pin registry " ++ Path.quoted root
  | cannotUnpin path => "Failed to unpin " ++ Path.quoted path
  | cannotOpenMap path =>
    "Failed to open pinned map " ++ Path.quoted path ++ " - is the pipeline loaded?"
  | notAnArray name => "Pinned map " ++ name ++ " is not an array of the expected value size"
  | notPerProcessor name =>
    "Pinned map " ++ name ++ " is not a per-CPU array of the expected value size"
  | cannotReadSlot index => "Failed to read slot " ++ Numeral.text index
  | cannotRead what => "Failed to read " ++ what.words
  | cannotWriteSlot map index =>
    "Failed to write " ++ map.pin ++ "[" ++ Numeral.text index ++ "]"
  | cannotWriteCamera camera => "Failed to write camera " ++ Numeral.text camera.toNat
  | cannotWriteX => "Failed to write x coordinate"
  | cannotWriteY => "Failed to write y coordinate"
  | cannotMakeOutput path => "Failed to create output file: " ++ Path.quoted path
  | cannotWriteOutput path => "Failed to write to output file: " ++ Path.quoted path
  | objectNotFound path => "eBPF object file not found: " ++ Path.quoted path
  | cannotLoadObject path => "Failed to load eBPF object " ++ Path.quoted path
  | loading fault => fault.message
  | noInterval => "Polling interval must be >= 1 second"
  | noSamples => "No samples collected"
  | noRate => "Update rate must be >= 1 Hz"
  | noDuration => "Round duration must be >= 1 second"
  | cannotSend target => "Failed to send position to " ++ target
  | source words => words
  | stats fault => fault.message
  | rateTooHigh => "\x60period\x60 must be non-zero."
  | roundTooLong => "attempt to multiply with overflow"
  | tooManyRounds => "attempt to add with overflow"
  | interrupted => "Interrupted"

def cause? : Failure → Option String
  | unknownInterface _ _ fault => some fault.message
  | malformedInterface _ fault => some fault.message
  | _ => none

def chain (failure : Failure) : String :=
  match failure.cause? with
  | none => failure.message
  | some cause => failure.message ++ ": " ++ cause

/-- Is this a defect, which no caller is expected to handle?  It ends what it occurs in. -/
def isDefect : Failure → Bool
  | stats _ | rateTooHigh | roundTooLong | tooManyRounds => true
  | _ => false

def defect? {α : Type} : Except Failure α → Option Failure
  | .error failure => if failure.isDefect then some failure else none
  | .ok _ => none

end Failure

end VideoGate
