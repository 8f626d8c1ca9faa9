import VideoGate.Pin.Map
import VideoGate.Text.Path

/-!
# Files

A file system is a list of places, each with a directory, a file, a device or a pinned map, and a
working directory from which relative paths start.  Going through a path needs every part but
the last to be a directory; names and paths have a greatest length.  A directory lists its entries
in the order of the list, which may be any.  Some places are fixed: what stands there is given, and
nothing is made or removed below them.
-/

namespace VideoGate

/-- Contents are equal if their bytes are. -/
instance (priority := high) decidableEqContent : DecidableEq ByteArray := ByteArray.instDecidableEq

/-- What stands at a place. -/
inductive Node where
  | directory
  | file (content : ByteArray)
  /-- A device, which forgets what is written to it if it has room for it. -/
  | device (hasRoom : Bool)
  | map (map : PinnedMap)
deriving DecidableEq

inductive FileFault where
  | notFound
  | notDirectory
  | isDirectory
  | nameTooLong
  | noSpace
  | readOnly
  | notText
  | hasNul
deriving DecidableEq, Repr

def FileFault.message : FileFault → String
  | notFound => "No such file or directory (os error 2)"
  | notDirectory => "Not a directory (os error 20)"
  | isDirectory => "Is a directory (os error 21)"
  | nameTooLong => "File name too long (os error 36)"
  | noSpace => "No space left on device (os error 28)"
  | readOnly => "Read-only file system (os error 30)"
  | notText => "stream did not contain valid UTF-8"
  | hasNul => "file name contained an unexpected NUL byte"

/-- A place in the file system: the names from the root on. -/
abbrev Place := List String

structure Files where
  /-- Where relative paths start. -/
  cwd : Place
  entries : List (Place × Node)
  /-- The fixed places. -/
  fixed : List Place := []
deriving DecidableEq

namespace Files

/-- What stands at a place; the root is always a directory. -/
def node? (files : Files) (place : Place) : Option Node :=
  if place.isEmpty then some .directory else files.entries.lookup place

def isDirectory (files : Files) (place : Place) : Bool :=
  files.node? place == some .directory

/-- Is a place fixed, or below one that is? -/
def isFixed (files : Files) (place : Place) : Bool :=
  files.fixed.any (·.isPrefixOf place)

/-- Everything below the working directory, each thing with its path from there. -/
def below (files : Files) : List (String × Node) :=
  files.entries.filterMap fun (place, node) =>
    if files.cwd.isPrefixOf place ∧ place ≠ files.cwd then
      some ("/".intercalate (place.drop files.cwd.length), node)
    else none

/-! ## Going through a path -/

def nameLimit : Nat := 255

def pathLimit : Nat := 4095

/-- Goes through the parts of a path, each from a directory.  A name in a fixed place is looked up
whatever its length. -/
def walk (files : Files) : List String → Place → Except FileFault Place
  | [], place => .ok place
  | part :: parts, place =>
    match files.node? place with
    | none => .error .notFound
    | some .directory =>
      if part = "" ∨ part = "." then walk files parts place
      else if part = ".." then walk files parts place.dropLast
      else if nameLimit < part.utf8ByteSize ∧ !files.isFixed place then .error .nameTooLong
      else walk files parts (place ++ [part])
    | some _ => .error .notDirectory

def startOf (files : Files) (path : String) : Place :=
  if Path.isAbsolute path then [] else files.cwd

/-- The place that a path leads to, where there need not be anything. -/
def locate (files : Files) (path : String) : Except FileFault Place :=
  if path.isEmpty then .error .notFound
  else if path.contains '\x00' then .error .hasNul
  else if pathLimit < path.utf8ByteSize then .error .nameTooLong
  else files.walk (Path.parts path) (files.startOf path)

/-- What a path leads to. -/
def find (files : Files) (path : String) : Except FileFault (Place × Node) := do
  let place ← files.locate path
  match files.node? place with
  | none => .error .notFound
  | some node => .ok (place, node)

def doesExist (files : Files) (path : String) : Bool :=
  match files.find path with
  | .ok _ => true
  | .error _ => false

/-! ## Changing files -/

def put (files : Files) (place : Place) (node : Node) : Files :=
  if (files.entries.lookup place).isSome then
    { files with
      entries := files.entries.map fun entry =>
        if entry.1 = place then (place, node) else entry }
  else
    { files with entries := files.entries ++ [(place, node)] }

def drop (files : Files) (place : Place) : Files :=
  { files with entries := files.entries.filter fun entry => entry.1 ≠ place }

/-- Puts something at a path below the working directory, and directories above it where there
is nothing yet. -/
def plant (files : Files) (path : String) (node : Node) : Files :=
  let place := files.cwd ++ (Path.parts path).filter (· ≠ "")
  let above := (List.range place.length).map place.take
  let missing := above.filter fun place => (files.node? place).isNone
  (missing.foldl (fun files place => files.put place .directory) files).put place node

/-- Makes a file anew, without content, and answers its place; its directory must exist.  A device
stays what it is. -/
def create (files : Files) (path : String) : Except FileFault (Place × Files) := do
  let place ← files.locate path
  match files.node? place with
  | some .directory => .error .isDirectory
  | some (.device _) => .ok (place, files)
  | _ =>
    if files.isFixed place then .error .readOnly
    else .ok (place, files.put place (.file .empty))

def fill (files : Files) (place : Place) (content : ByteArray) : Except FileFault Files :=
  match files.node? place with
  | some (.device hasRoom) => if hasRoom ∨ content.isEmpty then .ok files else .error .noSpace
  | _ => .ok (files.put place (.file content))

def readText (files : Files) (path : String) : Except FileFault String := do
  match ← files.find path with
  | (_, .file content) =>
    match String.fromUTF8? content with
    | some text => .ok text
    | none => .error .notText
  | (_, .directory) => .error .isDirectory
  | (_, .device _) => .ok ""
  | (_, .map _) => .error .notText

/-- Removes a file; a directory is not removed. -/
def remove (files : Files) (path : String) : Except FileFault Files := do
  match ← files.find path with
  | (_, .directory) => .error .isDirectory
  | (place, _) => if files.isFixed place then .error .readOnly else .ok (files.drop place)

/-- Makes the directories that are missing on the way through the parts of a path.  What has
been made stays, also if a file is in the way further on. -/
def makeAlong (files : Files) : List String → Place → Bool × Files
  | [], _ => (true, files)
  | part :: parts, place =>
    if part = "" ∨ part = "." then makeAlong files parts place
    else if part = ".." then makeAlong files parts place.dropLast
    else if nameLimit < part.utf8ByteSize then (false, files)
    else
      let next := place ++ [part]
      match files.node? next with
      | some .directory => makeAlong files parts next
      | some _ => (false, files)
      | none =>
        if files.isFixed next then (false, files)
        else makeAlong (files.put next .directory) parts next

def leadsToDirectory (files : Files) (path : String) : Bool :=
  match files.locate path with
  | .ok place => files.isDirectory place
  | .error _ => false

/-- Makes a directory and those above it, where they are missing.  A path that ends in a dot names
a directory only if it is there already: such a directory is not made, only those above it. -/
def makeDirectories (files : Files) (path : String) : Bool × Files :=
  if path.contains '\x00' ∨ pathLimit < path.utf8ByteSize then (false, files)
  else
    let parts := (Path.parts path).filter (· ≠ "")
    if parts.getLast? = some "." then
      let above := (parts.filter (· ≠ ".")).dropLast
      let (done, files) := files.makeAlong above (files.startOf path)
      (done && files.leadsToDirectory path, files)
    else
      files.makeAlong parts (files.startOf path)

def list (files : Files) (path : String) : Except FileFault (List String) := do
  match ← files.find path with
  | (place, .directory) =>
    .ok (files.entries.filterMap fun entry =>
      if entry.1.dropLast = place ∧ entry.1 ≠ [] then entry.1.getLast? else none)
  | _ => .error .notDirectory

end Files

end VideoGate
