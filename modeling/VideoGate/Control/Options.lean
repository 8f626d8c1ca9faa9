import VideoGate.Camera.Mode
import VideoGate.System.World
import VideoGate.Text.Keyword

/-!
# Values that an operator may give

Modes, formats and switches are keywords, whatever their case.  An interface is given by its
number, or by a name under which the system keeps its number in a file.
-/

namespace VideoGate

/-! ## Keywords -/

def FilterMode.parse (text : String) : Except Failure FilterMode :=
  let word := Text.keyword text
  if word ∈ ["off", "0"] then .ok .off
  else if word ∈ ["drop-p", "drop_p", "1"] then .ok .dropP
  else if word ∈ ["forward-p", "forward_p", "2"] then .ok .forwardP
  else .error (.unsupportedFilterMode text)

/-- How a program is attached to an interface. -/
inductive AttachMode where
  | generic
  | native
  | offload
deriving DecidableEq, Repr

namespace AttachMode

def parse (text : String) : Except Failure AttachMode :=
  let word := Text.keyword text
  if word ∈ ["skb", "generic"] then .ok .generic
  else if word ∈ ["drv", "native"] then .ok .native
  else if word ∈ ["hw", "offload"] then .ok .offload
  else .error (.unsupportedAttachMode text)

def flags : AttachMode → Nat
  | generic => 2
  | native => 4
  | offload => 8

end AttachMode

inductive ExportFormat where
  | json
  | exposition
  | lineProtocol
deriving DecidableEq, Repr

def ExportFormat.parse (text : String) : Except Failure ExportFormat :=
  let word := Text.keyword text
  if word = "json" then .ok .json
  else if word ∈ ["prometheus", "prom"] then .ok .exposition
  else if word ∈ ["influx", "influxdb"] then .ok .lineProtocol
  else .error (.unsupportedExport text)

def parseSwitch? (text : String) : Option Bool :=
  let word := Text.keyword text
  if word ∈ ["on", "1", "true", "yes"] then some true
  else if word ∈ ["off", "0", "false", "no"] then some false
  else none

/-! ## Interfaces -/

/-- Where the system keeps its interfaces. -/
def interfaceDirectory : String := "/sys/class/net"

def readInterfaceNumber (name path : String) : Except FileFault String → Except Failure UInt32
  | .error fault => .error (.unknownInterface name path fault)
  | .ok content =>
    match Numeral.parseWord32 (String.ofList (Text.strip content)) with
    | .ok index => .ok index
    | .error fault => .error (.malformedInterface path fault)

/-- The number of an interface, whatever way files are read in.  A text that is no number is taken
for a name, below the directory of interfaces. -/
def resolveInterfaceThrough {m : Type → Type} [Monad m]
    (readText : String → m (Except FileFault String)) (directory text : String) :
    m (Except Failure UInt32) :=
  match Numeral.parseWord32 text with
  | .ok index => return .ok index
  | .error _ => do
    let path := Path.join (Path.join directory text) "ifindex"
    return readInterfaceNumber text path (← readText path)

def resolveInterface (directory text : String) (files : Files) : Except Failure UInt32 :=
  Id.run (resolveInterfaceThrough (fun path => pure (files.readText path)) directory text)

end VideoGate
