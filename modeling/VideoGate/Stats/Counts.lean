import VideoGate.Counter
import VideoGate.Dispatch.Store
import VideoGate.Video.Stat

/-!
# Readings of the counters

A reading is the table of counters at one moment.  The growth between two readings is taken
counter by counter and never goes below zero.  The drop ratio is the dropped part of the
dropped and forwarded packets; it needs their sum to fit into a word.
-/

namespace VideoGate

inductive StatsFault where
  /-- A sum of counters does not fit into 64 bits. -/
  | sumTooLarge
  /-- There are more counters than the dispatcher keeps. -/
  | tooManyCounters
deriving DecidableEq, Repr

def StatsFault.message : StatsFault → String
  | sumTooLarge => "attempt to add with overflow"
  | tooManyCounters => "assertion failed: values.len() <= MAX_DISPATCH_COUNTERS as usize"

/-! ## Ratios -/

/-- Numbers that shares of a whole can be computed in. -/
class Ratio (ρ : Type) where
  /-- The share of nothing. -/
  zero : ρ
  /-- The share of `part` in a `whole` that is not zero. -/
  ofCounts : (part whole : UInt64) → ρ
  /-- The larger of two shares. -/
  larger : ρ → ρ → ρ

instance : Ratio Float where
  zero := 0.0
  ofCounts part whole := part.toFloat / whole.toFloat
  larger a b := if a < b then b else a

/-! ## The filter's counters -/

structure VideoCounts where
  values : Vector UInt64 VideoStat.count
deriving DecidableEq

namespace VideoCounts

def zero : VideoCounts := ⟨Vector.replicate _ 0⟩

instance : Inhabited VideoCounts := ⟨zero⟩

def get (counts : VideoCounts) (stat : VideoStat) : UInt64 := counts.values.get stat.index

/-- A reading from a list: missing counters are zero, and further values are left out. -/
def ofList (values : List UInt64) : VideoCounts :=
  ⟨Vector.ofFn fun i => values[i.val]?.getD 0⟩

/-- The growth from an earlier reading to this one. -/
def since (later earlier : VideoCounts) : VideoCounts :=
  ⟨Vector.zipWith Counter.growth later.values earlier.values⟩

/-- The dropped share of the dropped and forwarded packets. -/
def dropRatio {ρ : Type} [Ratio ρ] (counts : VideoCounts) : Except StatsFault ρ :=
  let dropped := counts.get .dropped
  let forwarded := counts.get .forwarded
  if UInt64.size ≤ dropped.toNat + forwarded.toNat then
    .error .sumTooLarge
  else if dropped + forwarded = 0 then
    .ok Ratio.zero
  else
    .ok (Ratio.ofCounts dropped (dropped + forwarded))

end VideoCounts

/-! ## The dispatcher's counters -/

structure DispatchCounts where
  values : Vector UInt64 DispatchCounter.count
deriving DecidableEq

namespace DispatchCounts

def zero : DispatchCounts := ⟨Vector.replicate _ 0⟩

instance : Inhabited DispatchCounts := ⟨zero⟩

def get (counts : DispatchCounts) (counter : DispatchCounter) : UInt64 :=
  counts.values.get counter.index

def ofList (values : List UInt64) : Except StatsFault DispatchCounts :=
  if DispatchCounter.count < values.length then .error .tooManyCounters
  else .ok ⟨Vector.ofFn fun i => values[i.val]?.getD 0⟩

/-- The growth from an earlier reading to this one. -/
def since (later earlier : DispatchCounts) : DispatchCounts :=
  ⟨Vector.zipWith Counter.growth later.values earlier.values⟩

end DispatchCounts

end VideoGate
