import VideoGate.Proofs.Video.Piece

/-!
# The beginning of a frame

A frame that was cut off, and the frame that it was cut from, agree on all bytes that are left.  So
they agree on every header that is left, and on whatever these headers say: where the next one
stands, whom the packet is for, and which piece of video it holds.
-/

namespace VideoGate

open Wire

namespace Frame

variable {frame longer : Frame} (h : frame <+: longer)
include h

theorem byte_of_isPrefix {place : Nat} (hplace : place < frame.length) :
    longer.byte place = frame.byte place := by
  obtain ⟨rest, rfl⟩ := h
  unfold byte
  rw [List.getElem?_append_left hplace]

theorem word_of_isPrefix {place : Nat} (hplace : place + 1 < frame.length) :
    longer.word place = frame.word place := by
  unfold word
  rw [byte_of_isPrefix h (by omega), byte_of_isPrefix h hplace]

theorem header_of_isPrefix (α : Type) [WireHeader α] (place : Nat)
    (hplace : place + WireHeader.size α ≤ frame.length) :
    longer.header α place = frame.header α place := by
  obtain ⟨rest, rfl⟩ := h
  unfold header
  congr 1
  ext i hi
  have hbyte : place + i < frame.length := by omega
  simp [bytesFrom, List.getElem?_append_left hbyte]

/-- A header that is left is read alike. -/
theorem read?_congr_of_isPrefix (α : Type) [WireHeader α] (place : Nat)
    (hsize : place + WireHeader.size α < UInt64.size)
    (hplace : place + WireHeader.size α ≤ frame.length) :
    read? α longer (UInt64.ofNat place) = read? α frame (UInt64.ofNat place) := by
  have hlength := h.length_le
  rw [read?_ofNat α longer place hsize, read?_ofNat α frame place hsize, if_pos hplace,
    if_pos (by omega), header_of_isPrefix h α place hplace]

theorem networkLength_of_isPrefix (hlength : 15 ≤ frame.length) :
    longer.networkLength = frame.networkLength := by
  unfold networkLength
  rw [byte_of_isPrefix h (by omega)]

theorem isToVideoHost_of_isPrefix (hlength : 34 ≤ frame.length) :
    longer.IsToVideoHost ↔ frame.IsToVideoHost := by
  unfold IsToVideoHost
  rw [byte_of_isPrefix h (by omega), byte_of_isPrefix h (by omega),
    byte_of_isPrefix h (by omega), byte_of_isPrefix h (by omega)]

theorem port_of_isPrefix (hudp : frame.IsUdp) : longer.port = frame.port := by
  have hheaders := hudp.headers
  have hcomplete := hudp.udp
  unfold port
  rw [networkLength_of_isPrefix h (by omega), word_of_isPrefix h (by omega)]

theorem IsUdp.of_isPrefix (hudp : frame.IsUdp) : longer.IsUdp := by
  have hlength := h.length_le
  have hheaders := hudp.headers
  have hcomplete := hudp.udp
  have hnetwork := networkLength_of_isPrefix h (by omega)
  constructor
  case headers => omega
  case etherType => exact (word_of_isPrefix h (by omega)).trans hudp.etherType
  case protocol => exact (byte_of_isPrefix h (by omega)).trans hudp.protocol
  case ipLength => exact hnetwork ▸ hudp.ipLength
  case udp => omega

theorem IsPosition.of_isPrefix (hposition : frame.IsPosition) : longer.IsPosition :=
  ⟨hposition.toIsUdp.of_isPrefix h,
    (port_of_isPrefix h hposition.toIsUdp).trans hposition.port⟩

theorem IsVideo.of_isPrefix {camera : UInt32} (hvideo : frame.IsVideo camera) :
    longer.IsVideo camera := by
  have hlength := h.length_le
  have hheaders := hvideo.headers
  have hrtp := hvideo.rtp
  have hnetwork := networkLength_of_isPrefix h (by omega)
  constructor
  case toIsUdp => exact hvideo.toIsUdp.of_isPrefix h
  case host => exact (isToVideoHost_of_isPrefix h hheaders).mpr hvideo.host
  case port => exact (port_of_isPrefix h hvideo.toIsUdp).trans hvideo.port
  case inRange => exact hvideo.inRange
  case rtp => omega
  case version =>
    rw [hnetwork, byte_of_isPrefix h (by omega)]
    exact hvideo.version

/-- If the headers of a camera's packet are left, the rest is a packet of this camera too. -/
theorem IsVideo.cut {camera : UInt32} (hvideo : longer.IsVideo camera)
    (hlength : 34 + longer.networkLength ≤ frame.length) : frame.IsVideo camera := by
  have hnetwork := networkLength_of_isPrefix h (by omega)
  have hudp : frame.IsUdp := by
    constructor
    case headers => omega
    case etherType => exact (word_of_isPrefix h (by omega)).symm.trans hvideo.etherType
    case protocol => exact (byte_of_isPrefix h (by omega)).symm.trans hvideo.protocol
    case ipLength => exact hnetwork ▸ hvideo.ipLength
    case udp => omega
  constructor
  case toIsUdp => exact hudp
  case host => exact (isToVideoHost_of_isPrefix h (by omega)).mp hvideo.host
  case port => exact (port_of_isPrefix h hudp).symm.trans hvideo.port
  case inRange => exact hvideo.inRange
  case rtp => omega
  case version =>
    have hversion := hvideo.version
    rwa [hnetwork, byte_of_isPrefix h (by omega)] at hversion

end Frame

/-! ## Pieces -/

namespace Frame

/-- The length up to which the headers of a piece reach. -/
def neededLength (frame : Frame) : Nat :=
  if frame.nalType = 49 then 37 + frame.networkLength else 36 + frame.networkLength

theorem le_neededLength (frame : Frame) : 36 + frame.networkLength ≤ frame.neededLength := by
  unfold neededLength
  split <;> omega

theorem isSome_piece?_iff (frame : Frame) :
    frame.piece?.isSome = true ↔ frame.neededLength ≤ frame.length := by
  unfold piece? neededLength
  by_cases htype : frame.nalType = 49
  · simp only [htype, if_true]
    split
    · exact iff_of_false nofun (by omega)
    · split
      · exact iff_of_false nofun (by omega)
      · exact iff_of_true rfl (by omega)
  · simp only [htype, if_false]
    split
    · exact iff_of_false nofun (by omega)
    · exact iff_of_true rfl (by omega)

variable {frame longer : Frame} (h : frame <+: longer)
include h

theorem nalType_of_isPrefix (hlength : 36 + frame.networkLength ≤ frame.length) :
    longer.nalType = frame.nalType := by
  unfold nalType
  rw [networkLength_of_isPrefix h (by omega), byte_of_isPrefix h (by omega)]

theorem neededLength_of_isPrefix (hlength : 36 + frame.networkLength ≤ frame.length) :
    longer.neededLength = frame.neededLength := by
  unfold neededLength
  rw [nalType_of_isPrefix h hlength, networkLength_of_isPrefix h (by omega)]

/-- The payload of a piece whose headers are left is read alike. -/
theorem payloadAt_of_isPrefix (hlength : frame.neededLength ≤ frame.length) :
    Traffic.payloadAt longer (UInt64.ofNat (34 + frame.networkLength)) =
      Traffic.payloadAt frame (UInt64.ofNat (34 + frame.networkLength)) := by
  have hbound := frame.networkLength_le
  have hheader := frame.le_neededLength
  have hsize : WireHeader.size PayloadHeader = 2 := rfl
  have hsize' : WireHeader.size FragmentHeader = 1 := rfl
  have hread := read?_congr_of_isPrefix h PayloadHeader (34 + frame.networkLength)
    (by unfold UInt64.size; omega) (by omega)
  have hplace : UInt64.ofNat (34 + frame.networkLength) + 2 =
      UInt64.ofNat (36 + frame.networkLength) := by
    rw [show (2 : UInt64) = UInt64.ofNat 2 from rfl, ← UInt64.ofNat_add, Nat.add_right_comm]
  rw [Traffic.payloadAt_eq, Traffic.payloadAt_eq, hread,
    read?_ofNat PayloadHeader frame (34 + frame.networkLength) (by unfold UInt64.size; omega),
    if_pos (by omega), hplace]
  dsimp only
  by_cases hfragment : (frame.header PayloadHeader (34 + frame.networkLength)).isFragment = true
  · have htype := frame.isFragment_header_iff.mp hfragment
    rw [neededLength, if_pos htype] at hlength
    rw [if_pos hfragment, if_pos hfragment, read?_congr_of_isPrefix h FragmentHeader
      (36 + frame.networkLength) (by unfold UInt64.size; omega) (by omega)]
  · rw [if_neg hfragment, if_neg hfragment]

end Frame

end VideoGate
