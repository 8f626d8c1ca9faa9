import VideoGate.Command.Run

/-!
# The program

The program looks at the files that its command line may speak of, runs the command line on
them, and brings what has changed back.  A pin is only a file to it: maps are opened and programs
loaded by a kernel, which it does not ask, and nothing is sent.
-/

namespace VideoGate.Command

def pathsIn (arguments : List String) : List String :=
  let values := arguments.flatMap fun argument =>
    argument :: (Text.split '=' argument.toList).map String.ofList
  let interfaces := values.map fun value =>
    Path.join (Path.join interfaceDirectory value) "ifindex"
  let roots := values ++ [Registry.standard.root]
  roots ++ interfaces

/-- The places on the way through the parts of a path. -/
def placesOn : List String → Place → List Place
  | [], place => [place]
  | part :: parts, place =>
    let next :=
      if part = "" ∨ part = "." then place
      else if part = ".." then place.dropLast
      else place ++ [part]
    place :: placesOn parts next

def pathOf (place : Place) : String := "/" ++ "/".intercalate place

/-- Looks at a place, and at what a directory holds. -/
def observe (files : Files) (place : Place) : IO Files := do
  let path := (← IO.currentDir) / pathOf place
  if ← path.isDir then
    let names := (← path.readDir).toList.map (·.fileName)
    let entries ← names.filterMapM fun (name : String) => do
      let below := place ++ [name]
      if (files.node? below).isSome then return none
      else if ← (path / name).isDir then return some (below, Node.directory)
      else return some (below, Node.file .empty)
    let files := if place.isEmpty then files else files.put place .directory
    return entries.foldl (fun files (place, node) => files.put place node) files
  else if ← path.pathExists then
    if (← path.metadata).type == .other then
      return files.put place (.device true)
    let content ← try IO.FS.readBinFile path catch _ => pure .empty
    return files.put place (.file content)
  else
    return files

def observeAll (arguments : List String) : IO Files := do
  let cwd := ((Path.parts (← IO.currentDir).toString).filter (· ≠ ""))
  let start : Files := { cwd, entries := [] }
  let places := (pathsIn arguments).flatMap fun path =>
    placesOn (Path.parts path) (start.startOf path)
  places.eraseDups.foldlM observe start

/-- Brings the changes of the files back. -/
def bringBack (before after : Files) : IO Unit := do
  for (place, node) in after.entries do
    if before.node? place != some node then
      match node with
      | .directory => IO.FS.createDirAll (pathOf place)
      | .file content => IO.FS.writeBinFile (pathOf place) content
      | .device _ | .map _ => pure ()
  for (place, _) in before.entries do
    if (after.node? place).isNone then
      IO.FS.removeFile (pathOf place)

end VideoGate.Command

open VideoGate in
/-- Runs the command line: what it prints goes to the output, and what it tells to the errors. -/
def main (arguments : List String) : IO UInt32 := do
  let files ← Command.observeAll arguments
  let outcome := Command.run .absent arguments { files, network := { isUp := false } }
  Command.bringBack files outcome.world.files
  IO.print outcome.world.output
  IO.eprint outcome.told
  return outcome.ending.code
