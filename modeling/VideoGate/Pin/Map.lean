import VideoGate.Dispatch.Metadata

/-!
# Pinned maps

A pinned map is an array of words of one size, or a slot of metadata for each processor.  Some
of its last slots may be out of order: they can be neither read nor written.
-/

namespace VideoGate

inductive PinnedContent where
  | words (values : List UInt32)
  | counts (values : List UInt64)
  /-- One slot, with a record for each processor. -/
  | perProcessor (records : List Metadata)
deriving DecidableEq, Repr

/-- A map that outlives the program that made it. -/
structure PinnedMap where
  content : PinnedContent
  /-- Number of slots at the end that are out of order. -/
  broken : Nat := 0
deriving DecidableEq, Repr

namespace PinnedMap

/-- Writes a word; none if the slot cannot be written. -/
def setWord? (map : PinnedMap) (index : Nat) (value : UInt32) : Option PinnedMap :=
  match map.content with
  | .words values =>
    if index < values.length - map.broken then
      some { map with content := .words (values.set index value) }
    else none
  | _ => none

end PinnedMap

end VideoGate
