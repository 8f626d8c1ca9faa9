import VideoGate.Frame.View

/-!
# Readings

A reading is a computation over the bytes of a frame in which every look at the frame is a step of
its own.  It asks for one run of bytes after another, and goes on with what it is given: so it runs
over any view, and says what it asks for on the way.
-/

namespace VideoGate

open Wire (WireHeader)

structure HeaderRead where
  offset : UInt64
  count : Nat
deriving DecidableEq, Repr

/-- A computation over the bytes of a frame.  What it asks for next may depend on every answer. -/
inductive Reading (α : Type) where
  | done (result : α)
  | ask (read : HeaderRead) (next : Option (Vector UInt8 read.count) → Reading α)

namespace Reading

variable {α β π : Type} [FrameView π]

def bind : Reading α → (α → Reading β) → Reading β
  | done result, rest => rest result
  | ask read next, rest => ask read fun bytes => (next bytes).bind rest

instance : Monad Reading where
  pure := done
  bind := bind

/-- Asks for a header. -/
def header (α : Type) [WireHeader α] (offset : UInt64) : Reading (Option α) :=
  ask ⟨offset, WireHeader.size α⟩ fun bytes => done (bytes.map WireHeader.decode)

def run (view : π) : Reading α → α
  | done result => result
  | ask read next => (next (FrameView.fetch view read.offset read.count)).run view

/-- What is asked for on the way to the result, in order. -/
def reads (view : π) : Reading α → List HeaderRead
  | done _ => []
  | ask read next => read :: (next (FrameView.fetch view read.offset read.count)).reads view

@[simp] theorem run_pure (view : π) (result : α) : (pure result : Reading α).run view = result :=
  rfl

@[simp] theorem run_bind (view : π) (reading : Reading α) (rest : α → Reading β) :
    (reading >>= rest).run view = (rest (reading.run view)).run view := by
  induction reading with
  | done result => rfl
  | ask read next ih => exact ih _

@[simp] theorem run_header [WireHeader α] (view : π) (offset : UInt64) :
    (header α offset).run view = read? α view offset := rfl

end Reading

end VideoGate
