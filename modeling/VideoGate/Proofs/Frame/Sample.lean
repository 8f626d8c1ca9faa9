import VideoGate.Frame.Sample
import VideoGate.Proofs.Frame.Bytes

/-!
# Sample frames are read back

A sample frame is its headers one behind the other, so each of them stands at the length of what is
in front of it and is read from there (`Frame.read?_behind`).  Whatever the description states is
found in the headers again, the version and the types cut down to their bits, and so is every part
of the payload at its place (`SampleFrame.read_back`).
-/

namespace VideoGate

open Wire

/-- **A header is read from behind what is in front of it.** -/
theorem Frame.read?_behind {α : Type} [WireHeader α] {frame before after : Frame} {header : α}
    {place : Nat} (h : frame = before ++ ((WireHeader.encode header).toList ++ after))
    (hplace : before.length = place) (hsize : place + WireHeader.size α < UInt64.size) :
    read? α frame (UInt64.ofNat place) = some header := by
  subst h hplace
  refine read?_of_isPrefix ?_ ?_ hsize
  · rw [List.drop_left]
    exact List.prefix_append _ _
  · rw [List.length_append]
    exact Nat.le_add_right _ _

/-! ## Fields that are cut down to their bits -/

namespace PayloadPart

theorem version_rtpHeader (version : UInt8) : (rtpHeader version).version = version % 4 := by
  apply UInt8.toNat_inj.mp
  simp only [rtpHeader, RtpHeader.version, UInt8.toNat_div, UInt8.toNat_mul, UInt8.toNat_mod,
    UInt8.reduceToNat]
  omega

theorem nalType_payloadHeader (nalType : UInt8) :
    (payloadHeader nalType).nalType = nalType % 64 := by
  apply UInt8.toNat_inj.mp
  simp only [payloadHeader, PayloadHeader.nalType, UInt8.toNat_div, UInt8.toNat_mul,
    UInt8.toNat_mod, UInt8.reduceToNat]
  omega

theorem toNat_flagsType_fragmentHeader (isStart isEnd : Bool) (innerType : UInt8) :
    (fragmentHeader isStart isEnd innerType).flagsType.toNat =
      (if isStart then 128 else 0) + (if isEnd then 64 else 0) + innerType.toNat % 64 := by
  cases isStart <;> cases isEnd <;>
    simp only [fragmentHeader, UInt8.toNat_add, UInt8.toNat_mod, UInt8.reduceToNat, if_true,
      Bool.false_eq_true, if_false] <;>
    omega

theorem isStart_fragmentHeader (isStart isEnd : Bool) (innerType : UInt8) :
    (fragmentHeader isStart isEnd innerType).isStart = isStart := by
  simp only [FragmentHeader.isStart, UInt8.le_iff_toNat_le, toNat_flagsType_fragmentHeader,
    UInt8.reduceToNat]
  cases isStart <;> cases isEnd <;> simp <;> omega

theorem isEnd_fragmentHeader (isStart isEnd : Bool) (innerType : UInt8) :
    (fragmentHeader isStart isEnd innerType).isEnd = isEnd := by
  simp only [FragmentHeader.isEnd, UInt8.le_iff_toNat_le, UInt8.toNat_mod,
    toNat_flagsType_fragmentHeader, UInt8.reduceToNat]
  cases isStart <;> cases isEnd <;> simp <;> omega

theorem innerType_fragmentHeader (isStart isEnd : Bool) (innerType : UInt8) :
    (fragmentHeader isStart isEnd innerType).innerType = innerType % 64 := by
  apply UInt8.toNat_inj.mp
  rw [FragmentHeader.innerType, UInt8.toNat_mod, toNat_flagsType_fragmentHeader, UInt8.toNat_mod]
  cases isStart <;> cases isEnd <;> simp <;> omega

/-! ## Parts of a payload -/

/-- What is stated by a part is read from a place of a frame. -/
def IsReadAt (frame : Frame) (place : Nat) : PayloadPart → Prop
  | .rtp version =>
      ∃ header, read? RtpHeader frame (UInt64.ofNat place) = some header ∧
        header.version = version % 4
  | .nalUnit nalType =>
      ∃ header, read? PayloadHeader frame (UInt64.ofNat place) = some header ∧
        header.nalType = nalType % 64
  | .fragment isStart isEnd innerType =>
      (∃ header, read? PayloadHeader frame (UInt64.ofNat place) = some header ∧
        header.nalType = 49) ∧
      ∃ header, read? FragmentHeader frame (UInt64.ofNat (place + 2)) = some header ∧
        header.isStart = isStart ∧ header.isEnd = isEnd ∧ header.innerType = innerType % 64
  | .position x y => read? Position frame (UInt64.ofNat place) = some { x, y }

/-- A part is read from where its bytes stand. -/
theorem isReadAt_of_bytes {frame before after : Frame} {part : PayloadPart} {place : Nat}
    (h : frame = before ++ (part.bytes ++ after)) (hplace : before.length = place)
    (hsize : frame.length < UInt64.size) : part.IsReadAt frame place := by
  have hlength : place + part.bytes.length < UInt64.size := by
    rw [h, List.length_append, List.length_append, hplace] at hsize
    omega
  cases part with
  | rtp version =>
      rw [bytes, Vector.length_toList] at hlength
      exact ⟨_, Frame.read?_behind h hplace hlength, version_rtpHeader version⟩
  | nalUnit nalType =>
      rw [bytes, Vector.length_toList] at hlength
      exact ⟨_, Frame.read?_behind h hplace hlength, nalType_payloadHeader nalType⟩
  | fragment isStart isEnd innerType =>
      rw [bytes, List.length_append, Vector.length_toList, Vector.length_toList,
        ← Nat.add_assoc] at hlength
      rw [bytes, List.append_assoc] at h
      have hfirst := Frame.read?_behind h hplace (Nat.lt_of_le_of_lt (Nat.le_add_right _ _) hlength)
      -- The fragment header stands behind the payload header.
      rw [← List.append_assoc] at h
      have hbehind : (before ++
          (WireHeader.encode (payloadHeader fragmentationUnit)).toList).length = place + 2 := by
        rw [List.length_append, Vector.length_toList, hplace]
        rfl
      exact ⟨⟨_, hfirst, nalType_payloadHeader fragmentationUnit⟩,
        _, Frame.read?_behind h hbehind hlength, isStart_fragmentHeader ..,
        isEnd_fragmentHeader .., innerType_fragmentHeader ..⟩
  | position x y =>
      rw [bytes, Vector.length_toList] at hlength
      exact Frame.read?_behind h hplace hlength

end PayloadPart

/-! ## The frame -/

namespace SampleFrame

variable {sample : SampleFrame}

theorem networkLength_of_le (h : 5 ≤ sample.ihl) :
    sample.networkLength = 4 * sample.ihl.toNat := by
  have hle : 5 ≤ sample.ihl.toNat := h
  have hmin : minHeaderWords.toNat = 5 := rfl
  rw [networkLength, hmin, Nat.max_eq_left hle, Nat.mul_comm]

theorem ihl_ipv4Header (h : sample.ihl ≤ 15) : sample.ipv4Header.ihl = sample.ihl := by
  have hle : sample.ihl.toNat ≤ 15 := h
  apply UInt8.toNat_inj.mp
  simp only [ipv4Header, Ipv4Header.ihl, UInt8.toNat_add, UInt8.toNat_mod, UInt8.reduceToNat]
  omega

theorem headerLength?_ipv4Header (hmin : 5 ≤ sample.ihl) (hmax : sample.ihl ≤ 15) :
    sample.ipv4Header.headerLength? = some (4 * sample.ihl.toNat) := by
  have hle : ¬ sample.ihl < minHeaderWords := UInt8.not_lt.mpr hmin
  rw [Ipv4Header.headerLength?, ihl_ipv4Header hmax, if_neg hle, Nat.mul_comm]

/-- The bytes in front of the UDP header. -/
def networkBytes (sample : SampleFrame) : Frame :=
  (WireHeader.encode sample.ethernetHeader).toList ++
    ((WireHeader.encode sample.ipv4Header).toList ++
      List.replicate (sample.networkLength - 20) 0)

theorem bytes_eq (sample : SampleFrame) :
    sample.bytes =
      sample.networkBytes ++ ((WireHeader.encode sample.udpHeader).toList ++ sample.payload) := by
  simp only [bytes, networkBytes, List.append_assoc]

theorem length_networkBytes (h : 5 ≤ sample.ihl) :
    sample.networkBytes.length = 14 + 4 * sample.ihl.toNat := by
  have hle : 5 ≤ sample.ihl.toNat := h
  simp only [networkBytes, List.length_append, Vector.length_toList, List.length_replicate,
    networkLength_of_le h]
  show 14 + (20 + (4 * sample.ihl.toNat - 20)) = _
  omega

theorem length_headers (h : 5 ≤ sample.ihl) :
    (sample.networkBytes ++ (WireHeader.encode sample.udpHeader).toList).length =
      22 + 4 * sample.ihl.toNat := by
  rw [List.length_append, Vector.length_toList, length_networkBytes h]
  show 14 + 4 * sample.ihl.toNat + 8 = _
  omega

/-! ### Each header -/

theorem read?_ethernetHeader (sample : SampleFrame) :
    read? EthernetHeader sample.bytes (UInt64.ofNat 0) = some sample.ethernetHeader := by
  have hbytes : sample.bytes =
      [] ++ ((WireHeader.encode sample.ethernetHeader).toList ++
        ((WireHeader.encode sample.ipv4Header).toList ++
          (List.replicate (sample.networkLength - 20) 0 ++
            ((WireHeader.encode sample.udpHeader).toList ++ sample.payload)))) := by
    simp only [bytes, List.append_assoc, List.nil_append]
  exact Frame.read?_behind hbytes rfl (by decide)

theorem read?_ipv4Header (sample : SampleFrame) :
    read? Ipv4Header sample.bytes (UInt64.ofNat 14) = some sample.ipv4Header := by
  have hbytes : sample.bytes =
      (WireHeader.encode sample.ethernetHeader).toList ++
        ((WireHeader.encode sample.ipv4Header).toList ++
          (List.replicate (sample.networkLength - 20) 0 ++
            ((WireHeader.encode sample.udpHeader).toList ++ sample.payload))) := by
    simp only [bytes, List.append_assoc]
  exact Frame.read?_behind hbytes Vector.length_toList (by decide)

theorem read?_udpHeader (hmin : 5 ≤ sample.ihl) (hmax : sample.ihl ≤ 15) :
    read? UdpHeader sample.bytes (UInt64.ofNat (14 + 4 * sample.ihl.toNat)) =
      some sample.udpHeader := by
  have hbound : sample.ihl.toNat ≤ 15 := hmax
  refine Frame.read?_behind sample.bytes_eq (length_networkBytes hmin) ?_
  show 14 + 4 * sample.ihl.toNat + 8 < 2 ^ 64
  omega

/-- **Building a frame and reading it are inverse.**  A place is a word of 64 bits, as is the length
of every frame that a memory holds. -/
theorem read_back (sample : SampleFrame) (hmin : 5 ≤ sample.ihl) (hmax : sample.ihl ≤ 15) :
    let frame := sample.bytes
    let payloadStart := 22 + 4 * sample.ihl.toNat
    frame.length = payloadStart + sample.payload.length ∧
      frame.drop payloadStart = sample.payload ∧
      (∃ header, read? EthernetHeader frame 0 = some header ∧
        header.etherType = sample.etherType) ∧
      (∃ header, read? Ipv4Header frame 14 = some header ∧ header.ihl = sample.ihl ∧
        header.headerLength? = some (4 * sample.ihl.toNat) ∧
        header.protocol = sample.protocol ∧ header.destination = sample.destination) ∧
      (∃ header, read? UdpHeader frame (UInt64.ofNat (14 + 4 * sample.ihl.toNat)) = some header ∧
        header.destination = sample.port) ∧
      ∀ before part after, sample.parts = before ++ part :: after → frame.length < UInt64.size →
        part.IsReadAt frame (payloadStart + (before.flatMap PayloadPart.bytes).length) := by
  intro frame payloadStart
  have hframe : frame = (sample.networkBytes ++ (WireHeader.encode sample.udpHeader).toList) ++
      sample.payload := by rw [List.append_assoc]; exact sample.bytes_eq
  have hstart := length_headers hmin
  refine ⟨?_, ?_, ?_, ?_, ?_, ?_⟩
  · rw [hframe, List.length_append, hstart]
  · rw [hframe, List.drop_left' hstart]
  · exact ⟨_, sample.read?_ethernetHeader, rfl⟩
  · exact ⟨_, sample.read?_ipv4Header, ihl_ipv4Header hmax, headerLength?_ipv4Header hmin hmax,
      rfl, rfl⟩
  · exact ⟨_, read?_udpHeader hmin hmax, rfl⟩
  · intro before part after hparts hsize
    have hbytes : frame = ((sample.networkBytes ++ (WireHeader.encode sample.udpHeader).toList) ++
        before.flatMap PayloadPart.bytes) ++
        (part.bytes ++ after.flatMap PayloadPart.bytes) := by
      rw [hframe, payload, hparts, List.flatMap_append, List.flatMap_cons, ← List.append_assoc]
    refine PayloadPart.isReadAt_of_bytes hbytes ?_ hsize
    rw [List.length_append, hstart]

/-- A frame of another network, with as many options as there can be, whose version and inner type
do not fit into their bits. -/
def withOptions : SampleFrame where
  destination := #v[192, 168, 0, 255]
  port := 5001
  etherType := 0x86DD
  protocol := 6
  ihl := 15
  parts := [.rtp 7, .fragment true false 200, .position 0xFFFFFFFF 999]

theorem read_back_withOptions :
    5 ≤ withOptions.ihl ∧ withOptions.ihl ≤ 15 ∧ withOptions.bytes.length = 105 ∧
      (PayloadPart.fragment true false 200).IsReadAt withOptions.bytes 94 ∧
      (PayloadPart.position 0xFFFFFFFF 999).IsReadAt withOptions.bytes 97 := by
  obtain ⟨hlength, -, -, -, -, hparts⟩ := read_back withOptions (by decide) (by decide)
  have hsize : withOptions.bytes.length < UInt64.size := hlength ▸ by decide
  refine ⟨by decide, by decide, hlength, ?_, ?_⟩
  · exact hparts [.rtp 7] _ _ rfl hsize
  · exact hparts [.rtp 7, .fragment true false 200] _ _ rfl hsize

end SampleFrame

end VideoGate
