import VideoGate.System.World

/-!
# The registry of pins

Maps, programs and links that are to outlive the program that made them are pinned: they have
a name in one directory, the registry.  A map is opened by its name and then read or written
slot by slot, so a later reading sees what others have written in between; only the slots that the
map had when it was opened are looked at.
-/

namespace VideoGate

/-- A directory of pins. -/
structure Registry where
  root : String
deriving DecidableEq, Repr

namespace Registry

/-- Where pins are found unless another root is given. -/
def standard : Registry := ⟨"/sys/fs/bpf/xdp_pipeline"⟩

def dispatcherPin : String := "xdp_dispatcher"

def path (registry : Registry) (name : String) : String := Path.join registry.root name

def dispatcherPath (registry : Registry) : String := registry.path dispatcherPin

/-- The path of the link that belongs to a pinned program. -/
def linkPath (program : String) : String := program ++ "_link"

def contains (registry : Registry) (name : String) : Operation Bool := do
  return (← Operation.files).doesExist (registry.path name)

def ensure (registry : Registry) : Operation Unit := do
  let (done, files) := (← Operation.files).makeDirectories registry.root
  Operation.setFiles files
  unless done do
    Operation.fail (.cannotMakeRegistry registry.root)

def removeAll (registry : Registry) : List String → Operation Unit
  | [] => pure ()
  | name :: names => do
    let path := registry.path name
    match (← Operation.files).remove path with
    | .error _ => Operation.fail (.cannotUnpin path)
    | .ok files =>
      Operation.setFiles files
      removeAll registry names

/-- Removes every pin, and answers their names in ascending order.  A registry that is not
there is empty. -/
def clear (registry : Registry) : Operation (List String) := do
  let files ← Operation.files
  if files.doesExist registry.root then
    match files.list registry.root with
    | .error _ => Operation.fail (.cannotListRegistry registry.root)
    | .ok names =>
      registry.removeAll names
      return names.mergeSort fun a b => decide (a ≤ b)
  else
    return []

end Registry

/-! ## Opening maps -/

/-- An open map: where it is, and how many slots it had when it was opened. -/
structure OpenMap where
  place : Place
  size : Nat
deriving DecidableEq, Repr

/-- The slots of an open map whose values are now these, with none for one that cannot be read. -/
def OpenMap.slots {α : Type} (map : OpenMap) (values : List α) (broken : Nat) :
    List (Option α) :=
  let readable := (values.take (min map.size (values.length - broken))).map some
  readable ++ List.replicate (map.size - readable.length) none

namespace Registry

/-- Finds a map: its place and what it holds. -/
def findMap (registry : Registry) (name : String) : Operation (Place × PinnedContent) := do
  let path := registry.path name
  match (← Operation.files).find path with
  | .ok (place, .map map) => return (place, map.content)
  | _ => Operation.fail (.cannotOpenMap path)

def openWords (registry : Registry) (name : String) : Operation OpenMap := do
  match ← registry.findMap name with
  | (place, .words values) => return { place, size := values.length }
  | _ => Operation.fail (.notAnArray name)

def openCounts (registry : Registry) (name : String) : Operation OpenMap := do
  match ← registry.findMap name with
  | (place, .counts values) => return { place, size := values.length }
  | _ => Operation.fail (.notAnArray name)

def openPerProcessor (registry : Registry) (name : String) : Operation OpenMap := do
  match ← registry.findMap name with
  | (place, .perProcessor _) => return { place, size := 1 }
  | _ => Operation.fail (.notPerProcessor name)

end Registry

/-! ## Reading and writing maps -/

namespace Operation

def current (map : OpenMap) : Operation (Option PinnedMap) := do
  match (← files).node? map.place with
  | some (.map map) => return some map
  | _ => return none

def wordSlots (map : OpenMap) : Operation (List (Option UInt32)) := do
  match ← current map with
  | some { content := .words values, broken } => return map.slots values broken
  | _ => return map.slots [] 0

def countSlots (map : OpenMap) : Operation (List (Option UInt64)) := do
  match ← current map with
  | some { content := .counts values, broken } => return map.slots values broken
  | _ => return map.slots [] 0

/-- The values of all slots in order; the first one that cannot be read is a failure. -/
def allSlots {α : Type} (slots : List (Option α)) : Except Failure (List α) :=
  match slots.findIdx? (·.isNone) with
  | some index => .error (.cannotReadSlot index)
  | none => .ok (slots.filterMap id)

/-- Slots that can all be read give their values. -/
theorem allSlots_map_some {α : Type} (values : List α) :
    allSlots (values.map some) = .ok values := by
  have none_missing : (values.map some).findIdx? (·.isNone) = none := by
    simp [List.findIdx?_eq_none_iff]
  simp [allSlots, none_missing, List.filterMap_map]

def readWords (map : OpenMap) : Operation (List UInt32) := do
  ofExcept (allSlots (← wordSlots map))

def readCounts (map : OpenMap) : Operation (List UInt64) := do
  ofExcept (allSlots (← countSlots map))

def readWord (map : OpenMap) (index : Nat) (failure : Failure) : Operation UInt32 := do
  match (← wordSlots map)[index]? with
  | some (some value) => return value
  | _ => fail failure

def writeWord (map : OpenMap) (index : Nat) (value : UInt32) (failure : Failure) :
    Operation Unit := do
  if map.size ≤ index then
    fail failure
  match (← current map).bind fun pinned => pinned.setWord? index value with
  | none => fail failure
  | some pinned => setFiles ((← files).put map.place (.map pinned))

/-- Runs an operation, and tells its failure in other words. -/
def orElse {α : Type} (operation : Operation α) (failure : Failure) : Operation α := do
  match ← attempt operation with
  | .ok value => return value
  | .error _ => fail failure

end Operation

end VideoGate
