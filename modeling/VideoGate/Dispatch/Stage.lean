import VideoGate.Dispatch.Metadata
import VideoGate.Video.Filter

/-!
# Stages

A stage sees the metadata of a packet and a world of its own, and answers with a disposition.
Three stages are built in: the one that an unbound slot runs, the one that hands every packet
on, and the video filter.
-/

namespace VideoGate

/-- A stage over a world `τ`; it may write the metadata as it likes. -/
abbrev Stage (τ : Type) := Metadata → τ → Disposition × Metadata × τ

namespace Stage

variable {τ : Type}

def default : Stage τ := fun metadata world => (.pass, metadata.leave .pass, world)

def passThrough : Stage τ := fun metadata world => (.pass, metadata.leave .callNext, world)

/-- The video filter on a frame.  Its verdict is its only answer: the metadata stays. -/
def video {π : Type} [FrameView π] [VideoStore τ] (view : π) : Stage τ := fun metadata world =>
  let (disposition, world) := VideoFilter.process view world
  (disposition, metadata, world)

end Stage

/-- The two stages that a packet is led through. -/
structure Stages (τ : Type) where
  first : Stage τ
  second : Stage τ

/-! ## Watching the calls -/

/-- A call of a stage: which of the two, and the metadata on entry. -/
structure StageCall where
  stage : Fin 2
  entry : Metadata
deriving DecidableEq, Repr

namespace Stage

def watched {τ : Type} (number : Fin 2) (stage : Stage τ) : Stage (τ × List StageCall) :=
  fun metadata world =>
    let (disposition, after, inner) := stage metadata world.1
    (disposition, after, inner, world.2 ++ [⟨number, metadata⟩])

end Stage

namespace Stages

def watched {τ : Type} (stages : Stages τ) : Stages (τ × List StageCall) where
  first := stages.first.watched 0
  second := stages.second.watched 1

end Stages

end VideoGate
