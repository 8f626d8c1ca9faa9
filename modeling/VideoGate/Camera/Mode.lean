/-!
# Filter modes

What a camera's stream is put through.  Modes are stored as raw words; a word that is no
mode is read as `off` by the filter and shown as unknown by the status.
-/

namespace VideoGate

/-- What is done with the P slices of a camera. -/
inductive FilterMode where
  /-- Nothing is filtered: the camera can see the tracked object. -/
  | off
  | dropP
  | forwardP
deriving DecidableEq, Repr, Inhabited

namespace FilterMode

def toRaw : FilterMode → UInt32
  | off => 0
  | dropP => 1
  | forwardP => 2

def ofRaw? (raw : UInt32) : Option FilterMode :=
  if raw = 0 then some off
  else if raw = 1 then some dropP
  else if raw = 2 then some forwardP
  else none

/-- The mode that the filter follows: a word that is no mode filters nothing. -/
def ofRaw (raw : UInt32) : FilterMode := (ofRaw? raw).getD off

/-- Does the filter look at the slices of a stream in this mode? -/
def filters : FilterMode → Bool
  | off => false
  | dropP | forwardP => true

@[simp] theorem ofRaw?_toRaw (mode : FilterMode) : ofRaw? mode.toRaw = some mode := by
  cases mode <;> rfl

@[simp] theorem ofRaw_toRaw (mode : FilterMode) : ofRaw mode.toRaw = mode := by
  cases mode <;> rfl

end FilterMode

end VideoGate
