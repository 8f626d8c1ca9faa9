import VideoGate.Dispatch.Metadata
import VideoGate.Frame.Sample
import VideoGate.Proofs.Video.Layout

/-!
# Pieces of NAL units

A packet of a camera carries a piece of its video: a NAL unit as a whole, or one fragment of a
NAL unit.  `Frame.piece?` reads the piece off the bytes, and agrees with the payload that the
classification finds (`piece?_payloadAt`).  `Piece.isDropped` and `Piece.inFrameAfter` are the
whole of the filter as far as one piece is concerned: its verdict, and the flag that it leaves.
-/

namespace VideoGate

open Wire

/-- Is this the type of a P slice? -/
def isSliceType (nalType : Nat) : Bool := 1 ≤ nalType && nalType ≤ 9

theorem isSliceType_iff (nalType : Nat) :
    isSliceType nalType = true ↔ 1 ≤ nalType ∧ nalType ≤ 9 := by
  simp [isSliceType]

/-- What a complete packet carries of a NAL unit. -/
inductive Piece where
  /-- The NAL unit as a whole. -/
  | whole (nalType : Nat)
  /-- A fragment of it: is it the first one, and is it the last? -/
  | fragment (isFirst isLast : Bool) (nalType : Nat)
deriving DecidableEq, Repr

namespace Piece

/-- The type of the NAL unit that the piece belongs to. -/
def nalType : Piece → Nat
  | whole nalType => nalType
  | fragment _ _ nalType => nalType

/-- Is the piece a fragment? -/
def isFragment : Piece → Bool
  | whole _ => false
  | fragment _ _ _ => true

/-- Does the piece belong to a P slice? -/
def isSlice (piece : Piece) : Bool := isSliceType piece.nalType

/-- Is the piece dropped, where `inFrame` says whether a P frame is in progress? -/
def isDropped (inFrame : Bool) (piece : Piece) : Bool :=
  match piece with
  | whole _ => piece.isSlice
  | fragment isFirst _ _ => inFrame || (isFirst && piece.isSlice)

/-- Is a P frame in progress after the piece? -/
def inFrameAfter (inFrame : Bool) (piece : Piece) : Bool :=
  match piece with
  | whole _ => inFrame
  | fragment _ isLast _ => piece.isDropped inFrame && !isLast

/-- The filter's verdict on the piece. -/
def disposition (inFrame : Bool) (piece : Piece) : Disposition :=
  if piece.isDropped inFrame then .drop else .pass

theorem disposition_eq_drop_iff (piece : Piece) {inFrame : Bool} :
    piece.disposition inFrame = .drop ↔ piece.isDropped inFrame = true := by
  unfold disposition
  cases piece.isDropped inFrame <;> simp

end Piece

/-- The piece that a payload holds, unless its headers are cut off. -/
def VideoPayload.piece? : VideoPayload → Option Piece
  | .truncated => none
  | .single nalType => some (.whole nalType.toNat)
  | .fragment header =>
    some (.fragment header.isStart header.isEnd header.innerType.toNat)

namespace Frame

/-- The NAL unit type that the payload header states. -/
def nalType (frame : Frame) : Nat := frame.byte (34 + frame.networkLength) / 2 % 64

/-- The byte behind the payload header, where a fragment has its header. -/
def fragmentByte (frame : Frame) : Nat := frame.byte (36 + frame.networkLength)

/-- The piece on the bytes of a camera's packet, unless its headers are cut off. -/
def piece? (frame : Frame) : Option Piece :=
  if frame.length < 36 + frame.networkLength then none
  else if frame.nalType = 49 then
    if frame.length < 37 + frame.networkLength then none
    else
      some (.fragment (frame.fragmentByte.testBit 7) (frame.fragmentByte.testBit 6)
        (frame.fragmentByte % 64))
  else some (.whole frame.nalType)

/-- Is the piece on the frame's bytes one of a P slice? -/
def holdsSlice (frame : Frame) : Bool := frame.piece?.any Piece.isSlice

theorem piece?_eq_whole_iff (frame : Frame) {nalType : Nat} :
    frame.piece? = some (.whole nalType) ↔
      36 + frame.networkLength ≤ frame.length ∧ frame.nalType ≠ 49 ∧ frame.nalType = nalType := by
  unfold piece?
  by_cases hcut : frame.length < 36 + frame.networkLength
  · rw [if_pos hcut]
    exact iff_of_false (by simp) (by omega)
  rw [if_neg hcut]
  by_cases htype : frame.nalType = 49
  · rw [if_pos htype]
    refine iff_of_false ?_ (by omega)
    split <;> simp
  · rw [if_neg htype, Option.some.injEq, Piece.whole.injEq]
    exact ⟨fun h => ⟨Nat.not_lt.mp hcut, htype, h⟩, fun h => h.2.2⟩

theorem piece?_eq_fragment_iff (frame : Frame) {isFirst isLast : Bool} {nalType : Nat} :
    frame.piece? = some (.fragment isFirst isLast nalType) ↔
      37 + frame.networkLength ≤ frame.length ∧ frame.nalType = 49 ∧
        frame.fragmentByte.testBit 7 = isFirst ∧ frame.fragmentByte.testBit 6 = isLast ∧
          frame.fragmentByte % 64 = nalType := by
  unfold piece?
  by_cases hcut : frame.length < 37 + frame.networkLength
  · rw [if_pos hcut]
    refine iff_of_false ?_ (by omega)
    split
    · simp
    · split <;> simp
  have hheader : ¬ frame.length < 36 + frame.networkLength := by omega
  rw [if_neg hheader, if_neg hcut]
  by_cases htype : frame.nalType = 49
  · rw [if_pos htype, Option.some.injEq, Piece.fragment.injEq]
    exact ⟨fun h => ⟨Nat.not_lt.mp hcut, htype, h⟩, fun h => h.2.2⟩
  · rw [if_neg htype]
    exact iff_of_false (by simp) (fun h => htype h.2.1)

end Frame

/-! ## The piece on the bytes is the piece of the payload -/

namespace Wire

theorem PayloadHeader.toNat_nalType (header : PayloadHeader) :
    header.nalType.toNat = header.first.toNat / 2 % 64 := by
  rw [nalType, UInt8.toNat_mod, UInt8.toNat_div]
  rfl

theorem FragmentHeader.isStart_eq (header : FragmentHeader) :
    header.isStart = header.flagsType.toNat.testBit 7 := by
  have hlt := header.flagsType.toNat_lt
  rw [isStart, Nat.testBit_eq_decide_div_mod_eq, decide_eq_decide, UInt8.le_iff_toNat_le]
  show 128 ≤ header.flagsType.toNat ↔ _
  omega

theorem FragmentHeader.isEnd_eq (header : FragmentHeader) :
    header.isEnd = header.flagsType.toNat.testBit 6 := by
  rw [isEnd, Nat.testBit_eq_decide_div_mod_eq, decide_eq_decide, UInt8.le_iff_toNat_le,
    UInt8.toNat_mod]
  show 64 ≤ header.flagsType.toNat % 128 ↔ _
  omega

theorem FragmentHeader.toNat_innerType (header : FragmentHeader) :
    header.innerType.toNat = header.flagsType.toNat % 64 := by
  rw [innerType, UInt8.toNat_mod]
  rfl

end Wire

theorem Frame.toNat_nalType_header (frame : Frame) :
    (frame.header PayloadHeader (34 + frame.networkLength)).nalType.toNat = frame.nalType := by
  rw [PayloadHeader.toNat_nalType, frame.toNat_first]
  rfl

theorem Frame.isFragment_header_iff (frame : Frame) :
    (frame.header PayloadHeader (34 + frame.networkLength)).isFragment = true ↔
      frame.nalType = 49 := by
  rw [PayloadHeader.isFragment, beq_iff_eq, ← UInt8.toNat_inj, frame.toNat_nalType_header]
  rfl

theorem piece?_payloadAt (frame : Frame) :
    (Traffic.payloadAt frame (UInt64.ofNat (34 + frame.networkLength))).piece? =
      frame.piece? := by
  have hbound := frame.networkLength_le
  have hsize : 34 + frame.networkLength + WireHeader.size PayloadHeader =
      36 + frame.networkLength := by
    show 34 + frame.networkLength + 2 = _
    omega
  have hsize' : 36 + frame.networkLength + WireHeader.size FragmentHeader =
      37 + frame.networkLength := by
    show 36 + frame.networkLength + 1 = _
    omega
  have hread := Frame.read?_ofNat PayloadHeader frame (34 + frame.networkLength)
    (by unfold UInt64.size; omega)
  have hread' := Frame.read?_ofNat FragmentHeader frame (36 + frame.networkLength)
    (by unfold UInt64.size; omega)
  have hplace : UInt64.ofNat (34 + frame.networkLength) + 2 =
      UInt64.ofNat (36 + frame.networkLength) := by
    rw [show (2 : UInt64) = UInt64.ofNat 2 from rfl, ← UInt64.ofNat_add, Nat.add_right_comm]
  have hnalType := frame.toNat_nalType_header
  have hisFragment := frame.isFragment_header_iff
  unfold Frame.piece?
  rw [Traffic.payloadAt_eq, hread, hsize, hplace, hread', hsize']
  by_cases hlen : 36 + frame.networkLength ≤ frame.length
  · simp only [hlen, if_true, hisFragment, Nat.not_lt.mpr hlen, if_false]
    by_cases htype : frame.nalType = 49
    · simp only [htype, if_true]
      by_cases hlen' : 37 + frame.networkLength ≤ frame.length
      · simp only [hlen', if_true, Nat.not_lt.mpr hlen', if_false, VideoPayload.piece?,
          FragmentHeader.isStart_eq, FragmentHeader.isEnd_eq, FragmentHeader.toNat_innerType,
          frame.toNat_flagsType, Frame.fragmentByte]
      · simp only [hlen', if_false, Nat.not_le.mp hlen', if_true, VideoPayload.piece?]
    · simp only [htype, if_false, VideoPayload.piece?, hnalType]
  · simp only [hlen, if_false, Nat.not_le.mp hlen, if_true, VideoPayload.piece?]

/-! ## Sample packets -/

/-- A sample packet of a camera that carries one part behind its RTP header. -/
def SampleFrame.video (camera : UInt16) (part : PayloadPart) : SampleFrame where
  destination := videoHost
  port := cameraBasePort + camera
  parts := [.rtp rtpVersion, part]

end VideoGate
