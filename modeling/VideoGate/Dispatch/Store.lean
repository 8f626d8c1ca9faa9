/-!
# What the dispatcher keeps

Five settings steer the dispatcher and five counters tell what it did.  Settings are words
that others may write at any time, so a read may move the store on: a store whose settings
change between two reads is as good an instance as one whose settings stand still.
-/

namespace VideoGate

inductive Setting where
  /-- Is stage 1 enabled? -/
  | stage1
  /-- Is stage 2 enabled? -/
  | stage2
  /-- The interface that bridged packets go to. -/
  | peer
  /-- Are packets bridged? -/
  | bridge
  /-- The interface that packets leave the pipeline through. -/
  | output
deriving DecidableEq, Repr, Inhabited

namespace Setting

def enabled : UInt32 := 1

def ofSwitch (on : Bool) : UInt32 := if on then enabled else 0

def all : List Setting := [stage1, stage2, peer, bridge, output]

end Setting

inductive DispatchCounter where
  /-- Packets seen. -/
  | admitted
  /-- Calls of stage 1. -/
  | stage1
  /-- Calls of stage 2. -/
  | stage2
  /-- Packets sent to the bridge peer. -/
  | bridged
  /-- Packets sent out through the output interface. -/
  | outputRedirects
deriving DecidableEq, Repr, Inhabited

namespace DispatchCounter

abbrev count : Nat := 5

def index : DispatchCounter → Fin count
  | admitted => 0
  | stage1 => 1
  | stage2 => 2
  | bridged => 3
  | outputRedirects => 4

theorem index_lt (counter : DispatchCounter) : counter.index.val < count :=
  counter.index.isLt

def all : List DispatchCounter := [admitted, stage1, stage2, bridged, outputRedirects]

theorem index_injective {a b : DispatchCounter} (h : a.index = b.index) : a = b := by
  revert h
  cases a <;> cases b <;> decide

end DispatchCounter

/-- A store that the dispatcher can run over. -/
class DispatchStore (δ : Type) where
  /-- Counts one event. -/
  bump : DispatchCounter → δ → δ
  /-- Reads a setting; none if it cannot be read. -/
  read : Setting → δ → Option UInt32 × δ

namespace DispatchStore

variable {δ : Type} [DispatchStore δ]

/-- Is a setting switched on?  One that cannot be read is off. -/
def isEnabled (setting : Setting) (store : δ) : Bool × δ :=
  let (value, store) := read setting store
  (value == some Setting.enabled, store)

/-- The peer that packets are bridged to, if the bridge is on and a peer is set.  The peer is
read only if the bridge is on. -/
def bridgePeer? (store : δ) : Option UInt32 × δ :=
  match isEnabled .bridge store with
  | (false, store) => (none, store)
  | (true, store) =>
    let (peer, store) := read .peer store
    (peer.filter (0 < ·), store)

end DispatchStore

end VideoGate
