import VideoGate.Dispatch.Walk
import VideoGate.Program.Slot

/-!
# The dispatcher program

The dispatcher over the arrays of the programs, with its stages behind slots and its verdict
given as a return code.  Sending a packet out is the work of a helper that is handed in, and
whose answer is the return code of the packet.
-/

namespace VideoGate

/-- A call of the helper that sends packets out. -/
structure RedirectCall where
  interface : UInt32
  flags : UInt64
deriving DecidableEq, Repr

structure ProgramRecord where
  /-- 1 is an error. -/
  level : Nat
  text : String
deriving DecidableEq, Repr

/-- The record written when the metadata slot is asked for and not found. -/
def slotMissingRecord : ProgramRecord where
  level := 1
  text := "pkt_meta_map slot missing, passing packet"

/-- What running the dispatcher program on a packet did. -/
structure ProgramRun where
  code : UInt32
  redirects : List RedirectCall
  records : List ProgramRecord
  maps : ProgramMaps

def runProgram (binding : Binding) (redirect : RedirectCall → UInt32) (frame : MemoryWindow)
    (maps : ProgramMaps) : ProgramRun :=
  let slot := if maps.metadataFound then some maps.metadata else none
  let outcome := dispatch (binding.stages frame) slot maps.dispatch maps.video
  let records :=
    if outcome.fetched && !maps.metadataFound then [slotMissingRecord] else []
  let maps :=
    { maps with
      dispatch := outcome.store
      video := outcome.world
      metadata := outcome.slot.getD maps.metadata }
  match outcome.action with
  | .pass => { code := passCode.toUInt32, redirects := [], records, maps }
  | .drop => { code := dropCode.toUInt32, redirects := [], records, maps }
  | .redirect interface =>
    let call := { interface, flags := 0 }
    { code := redirect call, redirects := [call], records, maps }

end VideoGate
