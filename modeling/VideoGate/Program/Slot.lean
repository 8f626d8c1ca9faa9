import VideoGate.Dispatch.Stage
import VideoGate.Program.Arrays

/-!
# Stage slots and return codes

The dispatcher program calls its stages through two slots and hears from them by a return code
only.  A slot runs a default until an extension takes its place; callers may lack the frame or
the metadata, and every slot passes then.
-/

namespace VideoGate

/-! ## Return codes -/

def dropCode : Int32 := 1

def passCode : Int32 := 2

namespace Disposition

/-- The disposition behind a return code: every code but the one of a drop passes. -/
def ofCode (code : Int32) : Disposition := if code = dropCode then .drop else .pass

def toCode : Disposition → Int32
  | pass => passCode
  | drop => dropCode

@[simp] theorem ofCode_toCode (disposition : Disposition) :
    ofCode disposition.toCode = disposition := by
  cases disposition <;> decide

end Disposition

/-! ## Slots -/

/-- A stage as a program: it is given the frame and the metadata, if there are any, and
answers with a return code. -/
abbrev SlotProgram :=
  Option MemoryWindow → Option Metadata → VideoArrays → Int32 × Option Metadata × VideoArrays

namespace SlotProgram

/-- Runs a stage that needs only the metadata. -/
def ofStage (stage : Stage VideoArrays) : SlotProgram := fun _ metadata arrays =>
  match metadata with
  | none => (passCode, none, arrays)
  | some metadata =>
    let (disposition, metadata, arrays) := stage metadata arrays
    (disposition.toCode, some metadata, arrays)

/-- The program of a slot that nothing is bound to. -/
def unbound : SlotProgram := ofStage Stage.default

def passThrough : SlotProgram := ofStage Stage.passThrough

/-- The extension that filters video.  It never looks at the metadata. -/
def videoFilter : SlotProgram := fun frame metadata arrays =>
  match frame with
  | none => (passCode, metadata, arrays)
  | some frame =>
    let (disposition, arrays) := VideoFilter.process frame arrays
    (disposition.toCode, metadata, arrays)

/-- A slot as a stage of the dispatcher, with the packet's frame at hand. -/
def toStage (program : SlotProgram) (frame : MemoryWindow) : Stage VideoArrays :=
  fun metadata arrays =>
    let (code, after, arrays) := program (some frame) (some metadata) arrays
    (.ofCode code, after.getD metadata, arrays)

end SlotProgram

/-- Which of the two slots have their extension bound. -/
structure Binding where
  first : Bool
  second : Bool
deriving DecidableEq, Repr

namespace Binding

def firstProgram (binding : Binding) : SlotProgram :=
  if binding.first then .passThrough else .unbound

def secondProgram (binding : Binding) : SlotProgram :=
  if binding.second then .videoFilter else .unbound

def stages (binding : Binding) (frame : MemoryWindow) : Stages VideoArrays where
  first := binding.firstProgram.toStage frame
  second := binding.secondProgram.toStage frame

end Binding

end VideoGate
