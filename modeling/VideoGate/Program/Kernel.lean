import VideoGate.Control.Options
import VideoGate.System.World

/-!
# What a kernel does for a loader

Object files are read, programs are checked and attached, and pins are made by the kernel, through
a library that is not part of this development.  A loader only says what is to be done, in which
order, and what is told when a step fails.  So the kernel is a parameter of the loader: whatever is
proved of requests holds whatever a kernel answers.
-/

namespace VideoGate

/-- The kinds of programs that a loader tells apart. -/
inductive ProgramKind where
  | xdp
  | extension
  | other
deriving DecidableEq, Repr

structure Kernel where
  Object : Type
  Program : Type
  Map : Type
  Link : Type
  /-- A loaded program that an extension may go into. -/
  Target : Type
  /-- Loads an object file.  Its maps are those that are pinned in a directory, where there are
  such; if a function is named, the object's programs are to take the place of it. -/
  loadObject (object pins : String) (function : Option String) : Operation Object
  /-- Hands the records that an object's programs write on to the log. -/
  forwardLog (object : Object) : Operation Unit
  programs (object : Object) : List (String × Program)
  kind (program : Program) : ProgramKind
  loadProgram (program : Program) : Operation Unit
  loadExtension (program : Program) (target : Target) (function : String) : Operation Unit
  pinProgram (program : Program) (path : String) : Operation Unit
  attachTo (program : Program) (interface : String) (mode : AttachMode) : Operation Link
  attachExtension (program : Program) : Operation Link
  /-- Takes a link over from its program, which would end it. -/
  takeLink (program : Program) (link : Link) : Operation Unit
  /-- Can a link be pinned at all? -/
  hasDescriptor (link : Link) : Bool
  pinLink (link : Link) (path : String) : Operation Unit
  number (program : Program) : Operation UInt32
  /-- The numbers of all loaded programs, with none where a program cannot be looked at. -/
  loadedPrograms : Operation (List (Option UInt32))
  openProgram (program : UInt32) : Operation Target
  maps (object : Object) : List (String × Map)
  /-- Is a map of a type that is pinned? -/
  isPinnable (map : Map) : Bool
  pinMap (map : Map) (path : String) : Operation Unit

def Kernel.absent : Kernel where
  Object := Empty
  Program := Empty
  Map := Empty
  Link := Empty
  Target := Empty
  loadObject object _ _ := Operation.fail (.cannotLoadObject object)
  forwardLog := Empty.elim
  programs := Empty.elim
  kind := Empty.elim
  loadProgram := Empty.elim
  loadExtension program _ _ := program.elim
  pinProgram program _ := program.elim
  attachTo program _ _ := program.elim
  attachExtension := Empty.elim
  takeLink program _ := program.elim
  hasDescriptor := Empty.elim
  pinLink link _ := link.elim
  number := Empty.elim
  loadedPrograms := return []
  openProgram program := Operation.fail (.loading (.opening program))
  maps := Empty.elim
  isPinnable := Empty.elim
  pinMap map _ := map.elim

end VideoGate
