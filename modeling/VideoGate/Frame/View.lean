import VideoGate.Wire.Header

/-!
# Bounded reading of a captured frame

A frame is read through a view that hands out a run of bytes only if all of it lies inside
the captured frame.  Two views exist: the frame itself, whose bound is checked in full
(`Frame.fetch`), and a window of memory between two addresses, whose bound is a sum of words
(`MemoryWindow.fetch`).  `read?` reads one header through either.
-/

namespace VideoGate

open Wire (WireHeader)

abbrev Frame := List UInt8

/-- Bounded access to the bytes of a frame. -/
class FrameView (π : Type) where
  /-- The `count` bytes from `offset` on, if all of them lie inside the frame. -/
  fetch : π → (offset : UInt64) → (count : Nat) → Option (Vector UInt8 count)

def read? (α : Type) [WireHeader α] {π : Type} [FrameView π] (view : π) (offset : UInt64) :
    Option α :=
  (FrameView.fetch view offset (WireHeader.size α)).map WireHeader.decode

/-! ## The frame itself -/

namespace Frame

/-- A read is refused if its end is not a word, or lies past the end of the frame. -/
def fetch (frame : Frame) (offset : UInt64) (count : Nat) : Option (Vector UInt8 count) :=
  if h : offset.toNat + count < UInt64.size ∧ offset.toNat + count ≤ frame.length then
    some (Vector.ofFn fun i => frame.get ⟨offset.toNat + i.val, by have := i.isLt; omega⟩)
  else
    none

instance : FrameView Frame where
  fetch := fetch

end Frame

/-! ## A window of memory -/

structure MemoryWindow where
  /-- Address of the first byte. -/
  start : UInt64
  /-- Address after the last byte. -/
  stop : UInt64
  /-- The memory that the window opens on. -/
  byteAt : UInt64 → UInt8

namespace MemoryWindow

/-- A read is refused if its end, as a sum of words, lies past the end of the window. -/
def fetch (window : MemoryWindow) (offset : UInt64) (count : Nat) :
    Option (Vector UInt8 count) :=
  if window.start + offset + UInt64.ofNat count > window.stop then
    none
  else
    some (Vector.ofFn fun i => window.byteAt (window.start + offset + UInt64.ofNat i.val))

instance : FrameView MemoryWindow where
  fetch := fetch

/-- A memory that holds `frame` from the address `start` on, and the window on it. -/
def ofFrame (start : UInt64) (frame : Frame) : MemoryWindow where
  start := start
  stop := start + UInt64.ofNat frame.length
  byteAt address := frame[(address - start).toNat]?.getD 0

/-- The window lies on `frame`: it has the frame's length and shows the frame's bytes. -/
structure Holds (window : MemoryWindow) (frame : Frame) : Prop where
  length_eq : window.start.toNat + frame.length = window.stop.toNat
  byteAt_eq : ∀ i (h : i < frame.length),
    window.byteAt (window.start + UInt64.ofNat i) = frame[i]

end MemoryWindow

end VideoGate
