/-!
# Metadata, dispositions and actions

The dispatcher and its stages speak through a small record that travels with a packet.  A
stage answers with a disposition and may leave a routing decision in the record; decisions are
stored as raw words, and a word that is no decision is kept as it is.
-/

namespace VideoGate

/-- A stage's own verdict on a packet. -/
inductive Disposition where
  | pass
  | drop
deriving DecidableEq, Repr, Inhabited

/-- What becomes of a packet in the end. -/
inductive Action where
  | pass
  | drop
  /-- Sent out through the interface with this index. -/
  | redirect (interface : UInt32)
deriving DecidableEq, Repr, Inhabited

/-- What a stage asks the dispatcher to do next. -/
inductive RoutingDecision where
  | pass
  | drop
  | callNext
  | return
deriving DecidableEq, Repr, Inhabited

namespace RoutingDecision

def toRaw : RoutingDecision → UInt32
  | pass => 0
  | drop => 1
  | callNext => 2
  | .return => 3

def ofRaw? (raw : UInt32) : Option RoutingDecision :=
  if raw = 0 then some pass
  else if raw = 1 then some drop
  else if raw = 2 then some callNext
  else if raw = 3 then some .return
  else none

@[simp] theorem ofRaw?_toRaw (decision : RoutingDecision) :
    ofRaw? decision.toRaw = some decision := by
  cases decision <;> rfl

end RoutingDecision

/-- The record that travels with a packet. -/
structure Metadata where
  /-- How often stage 1 was entered for this packet. -/
  stage1Visits : UInt32 := 0
  /-- How often stage 2 was entered for this packet. -/
  stage2Visits : UInt32 := 0
  /-- The routing decision, as a raw word. -/
  rawDecision : UInt32 := 0
  /-- Set aside for the stages. -/
  flow : UInt32 := 0
deriving DecidableEq, Repr, Inhabited

namespace Metadata

def fresh : Metadata := {}

/-- Brings every field back to the start of a packet. -/
def reset (metadata : Metadata) : Metadata :=
  { metadata with
    stage1Visits := 0
    stage2Visits := 0
    rawDecision := RoutingDecision.pass.toRaw
    flow := 0 }

/-- Nothing is left of what the record was. -/
@[simp] theorem reset_eq (metadata : Metadata) : metadata.reset = fresh := rfl

def decision? (metadata : Metadata) : Option RoutingDecision :=
  RoutingDecision.ofRaw? metadata.rawDecision

def leave (decision : RoutingDecision) (metadata : Metadata) : Metadata :=
  { metadata with rawDecision := decision.toRaw }

@[simp] theorem decision?_leave (decision : RoutingDecision) (metadata : Metadata) :
    (metadata.leave decision).decision? = some decision := by
  simp [leave, decision?]

end Metadata

/-- The place where the record is kept from packet to packet. -/
structure MetadataSlot where
  /-- What is in the slot; none if there is no slot. -/
  contents : Option Metadata
  /-- Has the slot been fetched for this packet? -/
  isFetched : Bool := false
deriving DecidableEq, Repr

namespace MetadataSlot

def fetch (slot : MetadataSlot) : Option Metadata × MetadataSlot :=
  (slot.contents, { slot with isFetched := true })

def put (metadata : Metadata) (slot : MetadataSlot) : MetadataSlot :=
  { slot with contents := some metadata }

end MetadataSlot

end VideoGate
