import VideoGate.Camera.Mode
import VideoGate.Json.Record
import VideoGate.Json.Value
import VideoGate.System.Registry

/-!
# The status of the pipeline

The status tells the settings as they are stored: a switch is on if its word is the one for
on, a slot that is missing counts as zero, and a mode that is unknown is shown with its number.
-/

namespace VideoGate

open Json

namespace FilterMode

def label : FilterMode → String
  | off => "off"
  | dropP => "drop-p"
  | forwardP => "forward-p"

def rawLabel (raw : UInt32) : String :=
  match ofRaw? raw with
  | some mode => mode.label
  | none => "unknown(" ++ Numeral.text raw.toNat ++ ")"

end FilterMode

/-- The settings as they are stored. -/
structure Status where
  stage1Enabled : Bool
  stage2Enabled : Bool
  peer : UInt32
  bridgeEnabled : Bool
  output : UInt32
  globalMode : String
deriving DecidableEq, Repr

namespace Status

/-- The word at a place; a place past the end holds zero. -/
def wordAt (slots : List UInt32) (setting : Setting) : UInt32 :=
  slots[setting.index]?.getD 0

def switchAt (slots : List UInt32) (setting : Setting) : Bool :=
  wordAt slots setting == Setting.enabled

/-- The status behind the words of the two maps and the global mode. -/
def ofSlots (control interfaces : List UInt32) (globalMode : UInt32) : Status where
  stage1Enabled := switchAt control .stage1
  stage2Enabled := switchAt control .stage2
  peer := wordAt interfaces .peer
  bridgeEnabled := switchAt interfaces .bridge
  output := wordAt interfaces .output
  globalMode := FilterMode.rawLabel globalMode

def ofRegistry (registry : Registry) : Operation Status := do
  let control ← Operation.readWords (← registry.openWords MapName.control.pin)
  let interfaces ← Operation.readWords (← registry.openWords MapName.interfaces.pin)
  let globalModes ← registry.openWords MapName.globalMode.pin
  let globalMode ← Operation.readWord globalModes 0 (.cannotRead .globalMode)
  return ofSlots control interfaces globalMode

/-! ## As JSON -/

def toValue (status : Status) : Value :=
  .object
    [("stage1_enabled", .bool status.stage1Enabled),
      ("stage2_enabled", .bool status.stage2Enabled),
      ("peer_ifindex", .natural status.peer.toNat),
      ("bridge_mode", .bool status.bridgeEnabled),
      ("output_ifindex", .natural status.output.toNat),
      ("global_mode", .string status.globalMode)]

structure Draft where
  stage1Enabled : Option Bool := none
  stage2Enabled : Option Bool := none
  peer : Option UInt32 := none
  bridgeEnabled : Option Bool := none
  output : Option UInt32 := none
  globalMode : Option String := none

def reader : RecordReader Draft Status where
  fields :=
    [.of "stage1_enabled" (·.stage1Enabled) (fun d v => { d with stage1Enabled := v }) readBool,
      .of "stage2_enabled" (·.stage2Enabled) (fun d v => { d with stage2Enabled := v }) readBool,
      .of "peer_ifindex" (·.peer) (fun d v => { d with peer := v }) readWord32,
      .of "bridge_mode" (·.bridgeEnabled) (fun d v => { d with bridgeEnabled := v }) readBool,
      .of "output_ifindex" (·.output) (fun d v => { d with output := v }) readWord32,
      .of "global_mode" (·.globalMode) (fun d v => { d with globalMode := v }) readString]
  empty := {}
  complete draft := do
    return {
      stage1Enabled := ← needed "stage1_enabled" draft.stage1Enabled
      stage2Enabled := ← needed "stage2_enabled" draft.stage2Enabled
      peer := ← needed "peer_ifindex" draft.peer
      bridgeEnabled := ← needed "bridge_mode" draft.bridgeEnabled
      output := ← needed "output_ifindex" draft.output
      globalMode := ← needed "global_mode" draft.globalMode }

def ofJson (text : String) : Except ReadError Status := readText reader.read text

end Status

end VideoGate
