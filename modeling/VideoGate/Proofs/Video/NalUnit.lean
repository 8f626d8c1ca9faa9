import VideoGate.Proofs.Video.Piece

/-!
# Streams of NAL units

A camera sends its NAL units one after another, each in one packet or in fragments.  What such a
stream is at one of its pieces is told by the type of the unit in progress there: which pieces
fit (`Piece.Fits`), and what is in progress behind them (`Piece.unitAfter`).  While the flag
tells whether that unit is a P slice, a fitting piece is judged by its own type alone, and
the flag keeps telling it (`Piece.Fits.isDropped_eq`, `Piece.Fits.inFrameAfter_eq`).
-/

namespace VideoGate

/-- A NAL unit as a camera sends it. -/
inductive NalUnit where
  /-- In one packet. -/
  | single (nalType : Nat)
  /-- In a first fragment, some fragments between, and a last one. -/
  | fragmented (nalType between : Nat)
  /-- In one fragment that is both the first and the last. -/
  | lone (nalType : Nat)
deriving DecidableEq, Repr

namespace NalUnit

/-- The type of the unit, which each of its pieces states. -/
def nalType : NalUnit → Nat
  | single nalType => nalType
  | fragmented nalType _ => nalType
  | lone nalType => nalType

/-- The pieces that the unit is sent in. -/
def pieces : NalUnit → List Piece
  | single nalType => [.whole nalType]
  | fragmented nalType between =>
      .fragment true false nalType ::
        (List.replicate between (.fragment false false nalType) ++
          [.fragment false true nalType])
  | lone nalType => [.fragment true true nalType]

theorem nalType_of_mem_pieces {unit : NalUnit} {piece : Piece} (h : piece ∈ unit.pieces) :
    piece.nalType = unit.nalType := by
  cases unit with
  | single nalType =>
      cases List.mem_singleton.mp h
      rfl
  | fragmented nalType between =>
      rcases List.mem_cons.mp h with rfl | h
      · rfl
      rcases List.mem_append.mp h with h | h
      · rw [List.eq_of_mem_replicate h]
        rfl
      · cases List.mem_singleton.mp h
        rfl
  | lone nalType =>
      cases List.mem_singleton.mp h
      rfl

end NalUnit

namespace Piece

/-- The type of the unit in progress after the piece, where `current` is the one before. -/
def unitAfter (current : Option Nat) : Piece → Option Nat
  | whole _ => current
  | fragment _ isLast nalType => if isLast then none else some nalType

/-- Is the piece one that can come next, where `current` is the type of the unit in progress? -/
def Fits (current : Option Nat) : Piece → Prop
  | whole _ => current = none
  | fragment isFirst _ nalType => current = if isFirst then none else some nalType

/-- A piece that fits is judged by its own type, if the flag tells about the unit. -/
theorem Fits.isDropped_eq {current : Option Nat} {piece : Piece} (h : piece.Fits current) :
    piece.isDropped (current.any isSliceType) = piece.isSlice := by
  cases piece with
  | whole nalType => rfl
  | fragment isFirst isLast nalType =>
      cases isFirst with
      | true =>
          cases h
          rfl
      | false =>
          cases h
          exact Bool.or_false _

/-- A piece that fits leaves a flag that tells about the unit then in progress. -/
theorem Fits.inFrameAfter_eq {current : Option Nat} {piece : Piece} (h : piece.Fits current) :
    piece.inFrameAfter (current.any isSliceType) = (piece.unitAfter current).any isSliceType := by
  cases piece with
  | whole nalType => rfl
  | fragment isFirst isLast nalType =>
      rw [inFrameAfter, h.isDropped_eq]
      cases isLast with
      | true => exact Bool.and_false _
      | false => exact Bool.and_true _

end Piece

/-- The pieces carry on with the unit in progress, if any, and end with a complete unit. -/
def Completes (current : Option Nat) : List Piece → Prop
  | [] => current = none
  | piece :: pieces => piece.Fits current ∧ Completes (piece.unitAfter current) pieces

namespace Completes

theorem append {current : Option Nat} {front back : List Piece} (hfront : Completes current front)
    (hback : Completes none back) : Completes current (front ++ back) := by
  induction front generalizing current with
  | nil =>
      cases hfront
      exact hback
  | cons piece front ih =>
      obtain ⟨hfits, hrest⟩ := hfront
      exact ⟨hfits, ih hrest⟩

/-- The fragments behind the first one bring the unit to its end. -/
theorem tail (nalType between : Nat) :
    Completes (some nalType) (List.replicate between (.fragment false false nalType) ++
      [.fragment false true nalType]) := by
  induction between with
  | zero => exact ⟨rfl, rfl⟩
  | succ between ih => exact ⟨rfl, ih⟩

theorem pieces (unit : NalUnit) : Completes none unit.pieces := by
  cases unit with
  | single nalType => exact ⟨rfl, rfl⟩
  | fragmented nalType between => exact ⟨rfl, tail nalType between⟩
  | lone nalType => exact ⟨rfl, rfl⟩

/-- **Whole units one after another** leave nothing in progress. -/
theorem flatMap_pieces (units : List NalUnit) : Completes none (units.flatMap NalUnit.pieces) := by
  induction units with
  | nil => rfl
  | cons unit units ih =>
      rw [List.flatMap_cons]
      exact (pieces unit).append ih

end Completes

end VideoGate
