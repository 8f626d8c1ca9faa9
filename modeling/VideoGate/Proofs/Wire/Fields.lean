import VideoGate.Proofs.Frame.Bytes
import VideoGate.Proofs.Positional
import VideoGate.Robot.Sink

/-!
# Headers field by field

The layout of a header is the list of its fields, each of them bytes that are kept or a number.  A
header stands in a run of bytes if the run can be cut into its fields, one after the other, and
every number is that of its bytes to the base 256 (`Stands`).  Each header is written with its
fields in their places, so it stands in the bytes that it is written as, and in no others
(`stands_iff`).

A read from a place returns the header that stands in the bytes from there on, and is refused only
if they end past the end of the frame, however near to the greatest word the place is
(`reads_exactly`).
-/

namespace VideoGate

namespace Wire

/-- The number that these bytes are to the base 256, the most significant byte first. -/
def bigEndian (bytes : List UInt8) : Nat := positional 256 (bytes.map UInt8.toNat)

/-- A field of a header, as it is taken from the header. -/
inductive HeaderField (α : Type) where
  /-- Bytes that are kept as they are. -/
  | bytes (count : Nat) (content : α → Vector UInt8 count)
  | byte (value : α → UInt8)
  | word16 (value : α → UInt16)
  | word32 (value : α → UInt32)

namespace HeaderField

variable {α : Type} {header : α} {fields : List (HeaderField α)} {run : List UInt8}

/-- The number of bytes of a field. -/
def size : HeaderField α → Nat
  | bytes count _ => count
  | byte _ => 1
  | word16 _ => 2
  | word32 _ => 4

/-- A field of a header holds what a run of bytes says. -/
def Holds (header : α) (run : List UInt8) : HeaderField α → Prop
  | bytes _ content => (content header).toList = run
  | byte value => (value header).toNat = bigEndian run
  | word16 value => (value header).toNat = bigEndian run
  | word32 value => (value header).toNat = bigEndian run

/-- The fields of a header stand in a run of bytes, one after the other from its first byte to its
last. -/
def Stands (header : α) : List (HeaderField α) → List UInt8 → Prop
  | [], run => run = []
  | field :: fields, run =>
      field.size ≤ run.length ∧ field.Holds header (run.take field.size) ∧
        Stands header fields (run.drop field.size)

/-- The bytes that a field of a header is written as. -/
def written (header : α) : HeaderField α → List UInt8
  | bytes _ content => (content header).toList
  | byte value => [value header]
  | word16 value => [(bytes16 (value header)).1, (bytes16 (value header)).2]
  | word32 value =>
      [(bytes32 (value header)).1, (bytes32 (value header)).2.1, (bytes32 (value header)).2.2.1,
        (bytes32 (value header)).2.2.2]

theorem length_written (header : α) (field : HeaderField α) :
    (field.written header).length = field.size := by
  cases field with
  | bytes => exact Vector.length_toList
  | byte | word16 | word32 => rfl

/-! ## Numbers and their bytes -/

theorem bigEndian_concat (bytes : List UInt8) (b : UInt8) :
    bigEndian (bytes ++ [b]) = bigEndian bytes * 256 + b.toNat := by
  rw [bigEndian, List.map_append, List.map_singleton, positional_concat, bigEndian]

theorem bigEndian_byte (a : UInt8) : bigEndian [a] = a.toNat := by
  have hbytes : [a] = [] ++ [a] := rfl
  rw [hbytes, bigEndian_concat]
  exact Nat.zero_add _

theorem bigEndian_word16 (a b : UInt8) : bigEndian [a, b] = (Wire.word16 a b).toNat := by
  have hbytes : [a, b] = [a] ++ [b] := rfl
  rw [hbytes, bigEndian_concat, bigEndian_byte, word16_toNat]

theorem bigEndian_word32 (a b c d : UInt8) :
    bigEndian [a, b, c, d] = (Wire.word32 a b c d).toNat := by
  have hbytes : [a, b, c, d] = [a] ++ [b] ++ [c] ++ [d] := rfl
  rw [hbytes, bigEndian_concat, bigEndian_concat, bigEndian_concat, bigEndian_byte, word32_toNat]

theorem bytes16_eq_iff {value : UInt16} {a b : UInt8} :
    value = Wire.word16 a b ↔ [(bytes16 value).1, (bytes16 value).2] = [a, b] := by
  constructor
  · rintro rfl
    rw [bytes16_word16]
  · intro h
    simp only [List.cons.injEq, and_true] at h
    rw [← h.1, ← h.2, word16_bytes16]

theorem bytes32_eq_iff {value : UInt32} {a b c d : UInt8} :
    value = Wire.word32 a b c d ↔
      [(bytes32 value).1, (bytes32 value).2.1, (bytes32 value).2.2.1, (bytes32 value).2.2.2] =
        [a, b, c, d] := by
  constructor
  · rintro rfl
    rw [bytes32_word32]
  · intro h
    simp only [List.cons.injEq, and_true] at h
    rw [← h.1, ← h.2.1, ← h.2.2.1, ← h.2.2.2, word32_bytes32]

/-- A field holds what the bytes say that it is written as, and nothing else of this length. -/
theorem holds_iff {field : HeaderField α} (hlength : run.length = field.size) :
    field.Holds header run ↔ field.written header = run := by
  match field, run, hlength with
  | .bytes _ _, _, _ => exact Iff.rfl
  | .byte _, [a], _ => rw [Holds, bigEndian_byte, UInt8.toNat_inj, written, List.singleton_inj]
  | .word16 _, [a, b], _ => rw [Holds, bigEndian_word16, UInt16.toNat_inj, bytes16_eq_iff, written]
  | .word32 _, [a, b, c, d], _ =>
      rw [Holds, bigEndian_word32, UInt32.toNat_inj, bytes32_eq_iff, written]

/-- **Fields stand in the bytes that they are written as**, one after the other, and in no
others. -/
theorem stands_iff :
    Stands header fields run ↔ (fields.flatMap fun field => field.written header) = run := by
  induction fields generalizing run with
  | nil => exact eq_comm
  | cons field fields ih =>
      rw [Stands, List.flatMap_cons, ih]
      constructor
      · rintro ⟨hle, hfield, hrest⟩
        have htaken : (run.take field.size).length = field.size := by
          rw [List.length_take, Nat.min_eq_left hle]
        rw [(holds_iff htaken).mp hfield, hrest, List.take_append_drop]
      · intro hrun
        have hlength := field.length_written header
        have htake : run.take field.size = field.written header := by
          rw [← hrun, List.take_left' hlength]
        have hdrop : run.drop field.size = fields.flatMap fun field => field.written header := by
          rw [← hrun, List.drop_left' hlength]
        refine ⟨?_, ?_, hdrop.symm⟩
        · rw [← hrun, List.length_append, hlength]
          exact Nat.le_add_right _ _
        · rw [htake]
          exact (holds_iff hlength).mpr rfl

end HeaderField

/-! ## Layouts -/

/-- A header is written with these fields, one after the other. -/
def LaidOut (α : Type) [WireHeader α] (fields : List (HeaderField α)) : Prop :=
  ∀ header : α, (WireHeader.encode header).toList = fields.flatMap fun field => field.written header

def EthernetHeader.fields : List (HeaderField EthernetHeader) :=
  [.bytes 6 destination, .bytes 6 source, .word16 etherType]

theorem EthernetHeader.laidOut : LaidOut EthernetHeader fields := by
  intro header
  match header with
  | ⟨⟨⟨[_, _, _, _, _, _]⟩, _⟩, ⟨⟨[_, _, _, _, _, _]⟩, _⟩, _⟩ => rfl

def Ipv4Header.fields : List (HeaderField Ipv4Header) :=
  [.byte versionIhl, .byte serviceType, .word16 totalLength, .word16 identification,
    .word16 fragmentOffset, .byte timeToLive, .byte protocol, .word16 checksum, .bytes 4 source,
    .bytes 4 destination]

theorem Ipv4Header.laidOut : LaidOut Ipv4Header fields := by
  intro header
  match header with
  | ⟨_, _, _, _, _, _, _, _, ⟨⟨[_, _, _, _]⟩, _⟩, ⟨⟨[_, _, _, _]⟩, _⟩⟩ => rfl

def UdpHeader.fields : List (HeaderField UdpHeader) :=
  [.word16 source, .word16 destination, .word16 length, .word16 checksum]

theorem UdpHeader.laidOut : LaidOut UdpHeader fields := fun _ => rfl

def RtpHeader.fields : List (HeaderField RtpHeader) :=
  [.byte versionFlags, .byte markerType, .word16 sequence, .word32 timestamp, .word32 source]

theorem RtpHeader.laidOut : LaidOut RtpHeader fields := fun _ => rfl

def PayloadHeader.fields : List (HeaderField PayloadHeader) := [.byte first, .byte second]

theorem PayloadHeader.laidOut : LaidOut PayloadHeader fields := fun _ => rfl

def FragmentHeader.fields : List (HeaderField FragmentHeader) := [.byte flagsType]

theorem FragmentHeader.laidOut : LaidOut FragmentHeader fields := fun _ => rfl

end Wire

def Position.fields : List (Wire.HeaderField Position) := [.word32 x, .word32 y]

theorem Position.laidOut : Wire.LaidOut Position fields := fun _ => rfl

/-! ## Reads -/

open Wire

namespace Frame

variable {α : Type} [WireHeader α] {frame : Frame}

theorem toList_bytesFrom {place count : Nat} (h : place + count ≤ frame.length) :
    (frame.bytesFrom place count).toList = (frame.drop place).take count := by
  apply List.ext_getElem
  · rw [Vector.length_toList, List.length_take, List.length_drop]
    omega
  · intro i hi hi'
    have hplace : place + i < frame.length := by
      rw [Vector.length_toList] at hi
      omega
    simp [bytesFrom, List.getElem?_eq_getElem hplace]

/-- A read is refused only if its end lies past the end of the frame: the end of a read that cannot
be counted in a word does so too. -/
theorem read?_eq_ite (α : Type) [WireHeader α] (hframe : frame.length < UInt64.size)
    (offset : UInt64) :
    read? α frame offset =
      if offset.toNat + WireHeader.size α ≤ frame.length then some (frame.header α offset.toNat)
      else none := by
  by_cases hword : offset.toNat + WireHeader.size α < UInt64.size
  case pos =>
    have hread := read?_ofNat α frame offset.toNat hword
    rwa [UInt64.ofNat_toNat] at hread
  case neg =>
    have hfetch : FrameView.fetch frame offset (WireHeader.size α) = none :=
      dif_neg fun hinside => hword hinside.1
    rw [read?, hfetch, if_neg (by omega)]
    rfl

/-- **A read returns the header that is written as the bytes from its offset on.** -/
theorem read?_eq_some_iff (hframe : frame.length < UInt64.size) {offset : UInt64} {header : α} :
    read? α frame offset = some header ↔
      offset.toNat + WireHeader.size α ≤ frame.length ∧
        (WireHeader.encode header).toList =
          (frame.drop offset.toNat).take (WireHeader.size α) := by
  rw [read?_eq_ite α hframe]
  split
  case isTrue hinside =>
    rw [← toList_bytesFrom hinside, Vector.toList_inj, Option.some_inj, Frame.header]
    constructor
    · rintro rfl
      exact ⟨hinside, WireHeader.encode_decode _⟩
    · rintro ⟨-, hencode⟩
      rw [← hencode, WireHeader.decode_encode]
  case isFalse hpast =>
    rw [eq_comm, iff_false_left (Option.some_ne_none header)]
    exact fun hread => hpast hread.1

/-- Reading a header of so many bytes from an offset of a frame is exact: it is refused only if they
end past the end of the frame, and the header that is returned is the one whose fields stand in
them. -/
structure ReadsExactly (α : Type) [WireHeader α] (size : Nat) (fields : List (HeaderField α))
    (frame : Frame) (offset : UInt64) : Prop where
  granted_iff : (read? α frame offset).isSome = true ↔ offset.toNat + size ≤ frame.length
  returned_iff : ∀ header, read? α frame offset = some header ↔
    offset.toNat + size ≤ frame.length ∧
      HeaderField.Stands header fields ((frame.drop offset.toNat).take size)

theorem ReadsExactly.of_laidOut {fields : List (HeaderField α)} (h : LaidOut α fields)
    (hframe : frame.length < UInt64.size) (offset : UInt64) :
    ReadsExactly α (WireHeader.size α) fields frame offset where
  granted_iff := by
    rw [read?_eq_ite α hframe]
    split
    case isTrue hinside => exact iff_of_true rfl hinside
    case isFalse hpast => exact iff_of_false nofun hpast
  returned_iff header := by
    rw [read?_eq_some_iff hframe, h header, HeaderField.stands_iff]

/-- A header that has been read is written as the bytes that it was read from. -/
theorem map_encode_read? (α : Type) [WireHeader α] (hframe : frame.length < UInt64.size)
    (offset : UInt64) :
    ((read? α frame offset).map fun header => (WireHeader.encode header).toList) =
      if offset.toNat + WireHeader.size α ≤ frame.length then
        some ((frame.drop offset.toNat).take (WireHeader.size α))
      else none := by
  cases hread : read? α frame offset with
  | none =>
      rw [read?_eq_ite α hframe] at hread
      split at hread
      case isTrue => cases hread
      case isFalse hpast => rw [if_neg hpast, Option.map_none]
  | some header =>
      obtain ⟨hinside, hbytes⟩ := (read?_eq_some_iff hframe).mp hread
      rw [if_pos hinside, Option.map_some, hbytes]

/-- A header is read back from what it is written as. -/
theorem read?_encode (header : α) (hsize : WireHeader.size α < UInt64.size) :
    read? α ((WireHeader.encode header).toList : Frame) 0 = some header := by
  have hread : read? α ((WireHeader.encode header).toList : Frame) (UInt64.ofNat 0) = some header :=
    read?_of_isPrefix List.prefix_rfl (Nat.zero_le _) (by rwa [Nat.zero_add])
  exact hread

end Frame

/-- **Every header is read exactly**, from every offset of every frame that a memory can hold.  A
position that has been read is written as the bytes that it was read from, and the datagram of a
position is its record, which is read back. -/
theorem reads_exactly (n : UInt64) (bytes : Vector UInt8 n.toNat) (offset : UInt64) :
    let frame : Frame := bytes.toList
    (Frame.ReadsExactly EthernetHeader 14 EthernetHeader.fields frame offset ∧
      Frame.ReadsExactly Ipv4Header 20 Ipv4Header.fields frame offset ∧
      Frame.ReadsExactly UdpHeader 8 UdpHeader.fields frame offset ∧
      Frame.ReadsExactly RtpHeader 12 RtpHeader.fields frame offset ∧
      Frame.ReadsExactly PayloadHeader 2 PayloadHeader.fields frame offset ∧
      Frame.ReadsExactly FragmentHeader 1 FragmentHeader.fields frame offset ∧
      Frame.ReadsExactly Position 8 Position.fields frame offset) ∧
    ((read? Position frame offset).map fun position => (WireHeader.encode position).toList) =
      (if offset.toNat + 8 ≤ frame.length then some ((frame.drop offset.toNat).take 8) else none) ∧
    ∀ x y : UInt32,
      let position : Position := { x, y }
      encodePosition position = (WireHeader.encode position).toList ∧
        read? Position (encodePosition position : Frame) 0 = some position := by
  intro frame
  have hlength : frame.length = n.toNat := Vector.length_toList
  have hframe : frame.length < UInt64.size := hlength ▸ n.toNat_lt
  refine ⟨⟨.of_laidOut EthernetHeader.laidOut hframe offset,
    .of_laidOut Ipv4Header.laidOut hframe offset, .of_laidOut UdpHeader.laidOut hframe offset,
    .of_laidOut RtpHeader.laidOut hframe offset, .of_laidOut PayloadHeader.laidOut hframe offset,
    .of_laidOut FragmentHeader.laidOut hframe offset,
    .of_laidOut Position.laidOut hframe offset⟩, ?_, ?_⟩
  · exact Frame.map_encode_read? Position hframe offset
  · intro x y position
    exact ⟨encodePosition_eq position, Frame.read?_encode position (by decide)⟩

/-- The last byte of a frame is read, and none behind it, up to the greatest word. -/
example :
    let frame : Frame := List.replicate 13 0
    (read? FragmentHeader frame 12).isSome = true ∧ read? FragmentHeader frame 13 = none ∧
      read? FragmentHeader frame 18446744073709551615 = none := by
  decide

end VideoGate
