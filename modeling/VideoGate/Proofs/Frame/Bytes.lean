import VideoGate.Frame.View

/-!
# Headers as bytes of a frame

A frame is known by its bytes.  `Frame.header` is the header that stands at a place, and a read
returns it exactly if all of it lies inside the frame (`read?_ofNat`).  The fields that the
filter looks at are then single bytes of the frame, or words of two.
-/

namespace VideoGate.Frame

open Wire

/-- The byte at a place, as a number; zero past the end of the frame. -/
def byte (frame : Frame) (place : Nat) : Nat := (frame[place]?.getD 0).toNat

/-- The word of two bytes at a place, the high byte first. -/
def word (frame : Frame) (place : Nat) : Nat :=
  frame.byte place * 256 + frame.byte (place + 1)

/-- The word of four bytes at a place, the high byte first. -/
def longWord (frame : Frame) (place : Nat) : Nat :=
  frame.word place * 65536 + frame.word (place + 2)

/-- The `count` bytes from a place on; zeros past the end of the frame. -/
def bytesFrom (frame : Frame) (place count : Nat) : Vector UInt8 count :=
  Vector.ofFn fun i => frame[place + i.val]?.getD 0

/-- The header at a place, whether or not all of it lies inside the frame. -/
def header (α : Type) [WireHeader α] (frame : Frame) (place : Nat) : α :=
  WireHeader.decode (frame.bytesFrom place (WireHeader.size α))

theorem toNat_getElem_bytesFrom (frame : Frame) {place count i : Nat} (h : i < count) :
    (frame.bytesFrom place count)[i].toNat = frame.byte (place + i) := by
  simp [bytesFrom, byte]

theorem toNat_word16_bytesFrom (frame : Frame) {place count i : Nat} (h : i + 1 < count) :
    (word16 (frame.bytesFrom place count)[i] (frame.bytesFrom place count)[i + 1]).toNat =
      frame.word (place + i) := by
  rw [word16_toNat, toNat_getElem_bytesFrom, toNat_getElem_bytesFrom]
  rfl

theorem toNat_word32_bytesFrom (frame : Frame) {place count i : Nat} (h : i + 3 < count) :
    (word32 (frame.bytesFrom place count)[i] (frame.bytesFrom place count)[i + 1]
      (frame.bytesFrom place count)[i + 2] (frame.bytesFrom place count)[i + 3]).toNat =
      frame.longWord (place + i) := by
  simp only [word32_toNat, toNat_getElem_bytesFrom, longWord, word, Nat.add_assoc,
    Nat.reduceAdd]
  omega

/-! ## Reads -/

theorem fetch_ofNat (frame : Frame) {place count : Nat} (h : place + count < UInt64.size) :
    fetch frame (UInt64.ofNat place) count =
      if place + count ≤ frame.length then some (frame.bytesFrom place count) else none := by
  have hplace : (UInt64.ofNat place).toNat = place :=
    UInt64.toNat_ofNat_of_lt' (Nat.lt_of_le_of_lt (Nat.le_add_right place count) h)
  unfold fetch
  by_cases hle : place + count ≤ frame.length
  · rw [dif_pos (by rw [hplace]; exact ⟨h, hle⟩), if_pos hle]
    congr 1
    ext i hi
    have hlt : place + i < frame.length := by omega
    simp [bytesFrom, hplace, List.getElem?_eq_getElem hlt]
  · rw [dif_neg (by rw [hplace]; exact fun hc => hle hc.2), if_neg hle]

/-- **A read returns the header at its offset** exactly if the header ends inside the frame. -/
theorem read?_ofNat (α : Type) [WireHeader α] (frame : Frame) (place : Nat)
    (h : place + WireHeader.size α < UInt64.size) :
    read? α frame (UInt64.ofNat place) =
      if place + WireHeader.size α ≤ frame.length then some (frame.header α place) else none := by
  have hfetch := fetch_ofNat frame h
  unfold read?
  rw [show FrameView.fetch frame (UInt64.ofNat place) (WireHeader.size α) =
    fetch frame (UInt64.ofNat place) (WireHeader.size α) from rfl, hfetch]
  split <;> rfl

theorem bytesFrom_of_isPrefix {frame : Frame} {place count : Nat} {bytes : Vector UInt8 count}
    (h : bytes.toList <+: frame.drop place) : frame.bytesFrom place count = bytes := by
  ext i hi
  have hlength : i < bytes.toList.length := by
    rw [Vector.length_toList]
    exact hi
  have hbyte := h.getElem hlength
  have hplace : place + i < frame.length := by
    have hle := h.length_le
    rw [List.length_drop] at hle
    omega
  rw [List.getElem_drop] at hbyte
  simp [bytesFrom, List.getElem?_eq_getElem hplace, ← hbyte]

/-- **A header is read back** from where its bytes stand. -/
theorem read?_of_isPrefix {α : Type} [WireHeader α] {frame : Frame} {place : Nat} {header : α}
    (h : (WireHeader.encode header).toList <+: frame.drop place) (hplace : place ≤ frame.length)
    (hsize : place + WireHeader.size α < UInt64.size) :
    read? α frame (UInt64.ofNat place) = some header := by
  have hle := h.length_le
  rw [Vector.length_toList, List.length_drop] at hle
  rw [read?_ofNat α frame place hsize, if_pos (by omega), Frame.header, bytesFrom_of_isPrefix h,
    WireHeader.decode_encode]

/-! ## Fields -/

section Fields

variable (frame : Frame) (place : Nat)

theorem toNat_etherType :
    (frame.header EthernetHeader place).etherType.toNat = frame.word (place + 12) :=
  frame.toNat_word16_bytesFrom (by decide)

theorem toNat_versionIhl :
    (frame.header Ipv4Header place).versionIhl.toNat = frame.byte place :=
  frame.toNat_getElem_bytesFrom (i := 0) (by decide)

theorem toNat_protocol :
    (frame.header Ipv4Header place).protocol.toNat = frame.byte (place + 9) :=
  frame.toNat_getElem_bytesFrom (by decide)

theorem toNat_destination_port :
    (frame.header UdpHeader place).destination.toNat = frame.word (place + 2) :=
  frame.toNat_word16_bytesFrom (by decide)

theorem toNat_versionFlags :
    (frame.header RtpHeader place).versionFlags.toNat = frame.byte place :=
  frame.toNat_getElem_bytesFrom (i := 0) (by decide)

theorem toNat_first :
    (frame.header PayloadHeader place).first.toNat = frame.byte place :=
  frame.toNat_getElem_bytesFrom (i := 0) (by decide)

theorem toNat_flagsType :
    (frame.header FragmentHeader place).flagsType.toNat = frame.byte place :=
  frame.toNat_getElem_bytesFrom (i := 0) (by decide)

theorem toNat_x : (frame.header Position place).x.toNat = frame.longWord place :=
  frame.toNat_word32_bytesFrom (i := 0) (by decide)

theorem toNat_y : (frame.header Position place).y.toNat = frame.longWord (place + 4) :=
  frame.toNat_word32_bytesFrom (by decide)

theorem destination_eq_iff (a b c d : UInt8) :
    (frame.header Ipv4Header place).destination = #v[a, b, c, d] ↔
      frame.byte (place + 16) = a.toNat ∧ frame.byte (place + 17) = b.toNat ∧
        frame.byte (place + 18) = c.toNat ∧ frame.byte (place + 19) = d.toNat := by
  have hfields : (frame.header Ipv4Header place).destination =
      #v[(frame.bytesFrom place 20)[16], (frame.bytesFrom place 20)[17],
        (frame.bytesFrom place 20)[18], (frame.bytesFrom place 20)[19]] := rfl
  rw [hfields, Vector.mk.injEq]
  simp [← UInt8.toNat_inj, toNat_getElem_bytesFrom]

end Fields

end VideoGate.Frame
