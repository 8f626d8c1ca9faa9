import VideoGate.Program.Kernel
import VideoGate.System.Registry

/-!
# Loading programs

The dispatcher is loaded from an object file and attached to an interface; an extension is loaded
from another one and bound to a slot of a dispatcher that is loaded already.  Programs, links and
maps are pinned in the registry, which is made if it is missing, so they outlive the program that
loaded them.  A loader stops at the first step that fails; only the log of a dispatcher and the maps
of an extension may be done without.
-/

namespace VideoGate

variable (kernel : Kernel) (registry : Registry)

/-- Opens an object file: it must exist, and the registry is made first. -/
def openObject (object : String) (function : Option String) : Operation kernel.Object := do
  unless (← Operation.files).doesExist object do
    Operation.fail (.objectNotFound object)
  registry.ensure
  Operation.orElse (kernel.loadObject object registry.root function) (.cannotLoadObject object)

def takeLink (program : kernel.Program) (link : kernel.Link) (owner : String) : Operation Unit :=
  Operation.orElse (kernel.takeLink program link) (.loading (.takingLink owner))

def pinProgram (program : kernel.Program) (name path : String) : Operation Unit :=
  Operation.orElse (kernel.pinProgram program path) (.loading (.programPin name path))

def pinLink (link : kernel.Link) (path : String) : Operation Unit :=
  Operation.orElse (kernel.pinLink link path) (.loading (.linkPin path))

/-! ## The dispatcher -/

/-- Loads the object file of the dispatcher, with the maps that are already in the registry. -/
def loadDispatcher (object : String) : Operation kernel.Object := do
  Operation.log .info .loader
    ("Loading XDP dispatcher from " ++ Path.quoted object ++ "...")
  let loaded ← openObject kernel registry object none
  Operation.log .info .loader "eBPF object loaded successfully"
  return loaded

/-- Hands the records of the dispatcher on to the log, if that is possible. -/
def forwardLog (loaded : kernel.Object) : Operation Unit := do
  match ← Operation.attempt (kernel.forwardLog loaded) with
  | .ok _ => return ()
  | .error failure =>
    Operation.log .warn .loader ("  ⚠ Failed to initialize eBPF logger: " ++ failure.message)

/-- Pins the dispatcher and attaches it to an interface: its number, which extensions need. -/
def attachDispatcher (loaded : kernel.Object) (interface : String) (mode : AttachMode) :
    Operation UInt32 := do
  let name := Registry.dispatcherPin
  let pin := registry.dispatcherPath
  let linkPin := Registry.linkPath pin
  match (kernel.programs loaded).lookup name with
  | none => Operation.fail (.loading (.noProgram name))
  | some program =>
    unless kernel.kind program = .xdp do
      Operation.fail (.loading (.notXdp name))
    Operation.orElse (kernel.loadProgram program) (.loading (.loadingProgram name))
    pinProgram kernel program name pin
    Operation.log .info .loader ("  ✓ Pinned program at " ++ Path.quoted pin)
    let link ← Operation.orElse (kernel.attachTo program interface mode)
      (.loading (.attaching interface))
    takeLink kernel program link "dispatcher"
    unless kernel.hasDescriptor link do
      Operation.fail (.loading .linkWithoutDescriptor)
    pinLink kernel link linkPin
    Operation.log .info .loader
      ("  ✓ Attached XDP to " ++ interface ++ ", link pinned at " ++ Path.quoted linkPin)
    Operation.orElse (kernel.number program) (.loading .programNumber)

/-! ## Extensions -/

/-- An extension, and the slot of a loaded program that it is to take. -/
structure ExtensionRequest where
  object : String
  /-- The kernel's number of the program. -/
  program : UInt32
  slot : String
  /-- Where the extension is to be pinned. -/
  pin : String
deriving DecidableEq, Repr

/-- An extension that has been bound. -/
structure BoundExtension where
  program : String
  pin : String
  linkPin : String
  /-- The maps that have been pinned with it. -/
  maps : List String
deriving DecidableEq, Repr

def openAmong (number : UInt32) : List (Option UInt32) → Operation kernel.Target
  | [] => Operation.fail (.loading (.notLoaded number))
  | none :: _ => Operation.fail (.loading .listing)
  | some loaded :: others =>
    if loaded = number then
      Operation.orElse (kernel.openProgram number) (.loading (.opening number))
    else
      openAmong number others

/-- Binds the first program of an object file to a slot, and answers its name. -/
def bindProgram (request : ExtensionRequest) (loaded : kernel.Object) : Operation String := do
  let linkPin := Registry.linkPath request.pin
  match kernel.programs loaded with
  | [] => Operation.fail (.loading (.emptyObject request.object))
  | (name, program) :: others =>
    unless others.isEmpty do
      Operation.log .warn .loader ("  ⚠ " ++ Path.quoted request.object ++
        " has more than one program, using " ++ name)
    unless kernel.kind program = .extension do
      Operation.fail (.loading (.notExtension name))
    let target ← openAmong kernel request.program (← kernel.loadedPrograms)
    Operation.orElse (kernel.loadExtension program target request.slot)
      (.loading (.loadingExtension name request.slot request.program))
    pinProgram kernel program name request.pin
    Operation.log .info .loader ("  ✓ Pinned extension at " ++ Path.quoted request.pin)
    let link ← Operation.orElse (kernel.attachExtension program)
      (.loading (.attachingExtension name))
    takeLink kernel program link "extension"
    pinLink kernel link linkPin
    Operation.log .info .loader
      ("  ✓ Attached " ++ name ++ " to " ++ request.slot ++ ", link pinned at " ++
        Path.quoted linkPin)
    return name

/-- Does a map belong in the registry?  Sections and the log of the programs stay private. -/
def shouldPin (name : String) : Bool :=
  !".".toList.isPrefixOf name.toList && !"AYA_".toList.isPrefixOf name.toList

/-- Pins a map that belongs in the registry and is not there yet: has it been pinned? -/
def pinNewMap (name : String) (map : kernel.Map) : Operation Bool := do
  if !shouldPin name || (← registry.contains name) then
    return false
  let path := registry.path name
  unless kernel.isPinnable map do
    Operation.log .warn .loader ("  ⚠ Map " ++ name ++ " has a type that is not pinned")
    return false
  match ← Operation.attempt (kernel.pinMap map path) with
  | .ok _ =>
    Operation.log .info .loader ("  ✓ Pinned map " ++ name ++ " at " ++ Path.quoted path)
    return true
  | .error failure =>
    Operation.log .warn .loader ("  ⚠ Failed to pin map " ++ name ++ " at " ++
      Path.quoted path ++ ": " ++ failure.message)
    return false

/-- Pins what is missing of some maps, and answers the names of those that have been pinned. -/
def pinNewMaps : List (String × kernel.Map) → Operation (List String)
  | [] => return []
  | (name, map) :: maps => do
    let isPinned ← pinNewMap kernel registry name map
    let names ← pinNewMaps maps
    return if isPinned then name :: names else names

/-- Opens an object file and binds its first program to a slot: the object and the program's
name. -/
def bindObject (request : ExtensionRequest) : Operation (kernel.Object × String) := do
  Operation.log .info .loader
    ("Binding " ++ Path.quoted request.object ++ " to " ++ request.slot ++ " of program " ++
      Numeral.text request.program.toNat ++ "...")
  let loaded ← openObject kernel registry request.object (some request.slot)
  let program ← bindProgram kernel request loaded
  return (loaded, program)

/-- Binds an extension to a slot, and pins the maps that it brings along. -/
def bindExtension (request : ExtensionRequest) : Operation BoundExtension := do
  let (loaded, program) ← bindObject kernel registry request
  let maps ← pinNewMaps kernel registry (kernel.maps loaded)
  return { program, pin := request.pin, linkPin := Registry.linkPath request.pin, maps }

end VideoGate
