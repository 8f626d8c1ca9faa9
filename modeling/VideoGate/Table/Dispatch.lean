import VideoGate.Counter
import VideoGate.Dispatch.Store

/-!
# The dispatcher's tables in memory

Five counters and five settings.  A setting can be made unreadable, as a look-up in a shared
table may fail; writing it still stores the value.
-/

namespace VideoGate

structure DispatchTables where
  counters : Vector UInt64 DispatchCounter.count
  stage1 : UInt32
  stage2 : UInt32
  peer : UInt32
  bridge : UInt32
  output : UInt32
  /-- Settings that cannot be read. -/
  unreadable : List Setting
deriving DecidableEq

namespace DispatchTables

/-- Nothing counted, nothing set, everything readable. -/
def empty : DispatchTables where
  counters := Vector.replicate _ 0
  stage1 := 0
  stage2 := 0
  peer := 0
  bridge := 0
  output := 0
  unreadable := []

def get (tables : DispatchTables) : Setting → UInt32
  | .stage1 => tables.stage1
  | .stage2 => tables.stage2
  | .peer => tables.peer
  | .bridge => tables.bridge
  | .output => tables.output

def set (tables : DispatchTables) (setting : Setting) (value : UInt32) : DispatchTables :=
  match setting with
  | .stage1 => { tables with stage1 := value }
  | .stage2 => { tables with stage2 := value }
  | .peer => { tables with peer := value }
  | .bridge => { tables with bridge := value }
  | .output => { tables with output := value }

/-- The value of a setting, if it can be read. -/
def get? (tables : DispatchTables) (setting : Setting) : Option UInt32 :=
  if setting ∈ tables.unreadable then none else some (tables.get setting)

def counter (tables : DispatchTables) (counter : DispatchCounter) : UInt64 :=
  tables.counters.get counter.index

def bump (tables : DispatchTables) (counter : DispatchCounter) : DispatchTables :=
  { tables with
    counters := tables.counters.set counter.index (Counter.increment (tables.counter counter))
      counter.index_lt }

instance : DispatchStore DispatchTables where
  bump counter tables := tables.bump counter
  read setting tables := (tables.get? setting, tables)

@[simp] theorem counter_bump_self (tables : DispatchTables) (counter : DispatchCounter) :
    (tables.bump counter).counter counter = Counter.increment (tables.counter counter) :=
  Vector.getElem_set_self counter.index_lt

theorem counter_bump_of_ne (tables : DispatchTables) {counter other : DispatchCounter}
    (h : other ≠ counter) : (tables.bump counter).counter other = tables.counter other := by
  refine Vector.getElem_set_ne counter.index_lt other.index_lt ?_
  intro hindex
  exact h (DispatchCounter.index_injective (Fin.ext hindex.symm))

@[simp] theorem get?_bump (tables : DispatchTables) (counter : DispatchCounter)
    (setting : Setting) : (tables.bump counter).get? setting = tables.get? setting := by
  cases setting <;> rfl

end DispatchTables

end VideoGate
