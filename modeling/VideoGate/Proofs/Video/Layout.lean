import VideoGate.Proofs.Frame.Bytes
import VideoGate.Video.Traffic

/-!
# The layout of a video frame

Where the headers of a frame stand depends on one byte, which states the length of the IPv4
header.  `Frame.IsUdp` and `Frame.IsVideo` say on the raw bytes which headers are complete and
what they hold; the equations of this module tie every step of the classification to such
conditions, and `Traffic.classify_eq_video_iff` puts them together.
-/

namespace VideoGate

open Wire

namespace Frame

/-! ## Conditions on the bytes -/

/-- Length that the IPv4 header states for itself, options included. -/
def networkLength (frame : Frame) : Nat := 4 * (frame.byte 14 % 16)

/-- The UDP destination port. -/
def port (frame : Frame) : Nat := frame.word (16 + frame.networkLength)

/-- Is the frame addressed to 10.1.1.2, the host that video is filtered for? -/
def IsToVideoHost (frame : Frame) : Prop :=
  frame.byte 30 = 10 ∧ frame.byte 31 = 1 ∧ frame.byte 32 = 1 ∧ frame.byte 33 = 2

/-- A frame with complete Ethernet, IPv4 and UDP headers. -/
structure IsUdp (frame : Frame) : Prop where
  headers : 34 ≤ frame.length
  etherType : frame.word 12 = 0x0800
  protocol : frame.byte 23 = 17
  ipLength : 20 ≤ frame.networkLength
  udp : 22 + frame.networkLength ≤ frame.length

/-- A packet to the position port, of any host. -/
structure IsPosition (frame : Frame) : Prop extends IsUdp frame where
  port : frame.port = 5555

/-- A packet of a camera, complete up to its RTP header. -/
structure IsVideo (frame : Frame) (camera : UInt32) : Prop extends IsUdp frame where
  host : frame.IsToVideoHost
  port : frame.port = 5000 + camera.toNat
  inRange : camera.toNat < 200
  rtp : 34 + frame.networkLength ≤ frame.length
  version : frame.byte (22 + frame.networkLength) / 64 = 2

/-- A packet to the port of some camera, complete up to its UDP header. -/
structure IsToCamera (frame : Frame) : Prop extends IsUdp frame where
  host : frame.IsToVideoHost
  port : 5000 ≤ frame.port ∧ frame.port < 5200

/-- A UDP packet whose UDP header is cut off. -/
structure IsCutAtUdp (frame : Frame) : Prop where
  headers : 34 ≤ frame.length
  etherType : frame.word 12 = 0x0800
  protocol : frame.byte 23 = 17
  ipLength : 20 ≤ frame.networkLength
  cut : frame.length < 22 + frame.networkLength

/-- A packet of some camera whose RTP header is cut off. -/
structure IsCutAtRtp (frame : Frame) : Prop extends IsUdp frame where
  host : frame.IsToVideoHost
  port : 5000 ≤ frame.port ∧ frame.port < 5200
  cut : frame.length < 34 + frame.networkLength

instance (frame : Frame) : Decidable frame.IsToVideoHost :=
  inferInstanceAs (Decidable (_ ∧ _ ∧ _ ∧ _))

instance (frame : Frame) : Decidable frame.IsUdp :=
  decidable_of_iff
    (34 ≤ frame.length ∧ frame.word 12 = 0x0800 ∧ frame.byte 23 = 17 ∧
      20 ≤ frame.networkLength ∧ 22 + frame.networkLength ≤ frame.length)
    ⟨fun ⟨h1, h2, h3, h4, h5⟩ => ⟨h1, h2, h3, h4, h5⟩,
      fun ⟨h1, h2, h3, h4, h5⟩ => ⟨h1, h2, h3, h4, h5⟩⟩

instance (frame : Frame) : Decidable frame.IsPosition :=
  decidable_of_iff (frame.IsUdp ∧ frame.port = 5555)
    ⟨fun ⟨hudp, hport⟩ => ⟨hudp, hport⟩, fun ⟨hudp, hport⟩ => ⟨hudp, hport⟩⟩

instance (frame : Frame) (camera : UInt32) : Decidable (frame.IsVideo camera) :=
  decidable_of_iff
    (frame.IsUdp ∧ frame.IsToVideoHost ∧ frame.port = 5000 + camera.toNat ∧
      camera.toNat < 200 ∧ 34 + frame.networkLength ≤ frame.length ∧
        frame.byte (22 + frame.networkLength) / 64 = 2)
    ⟨fun ⟨h1, h2, h3, h4, h5, h6⟩ => ⟨h1, h2, h3, h4, h5, h6⟩,
      fun ⟨h1, h2, h3, h4, h5, h6⟩ => ⟨h1, h2, h3, h4, h5, h6⟩⟩

instance (frame : Frame) : Decidable frame.IsToCamera :=
  decidable_of_iff (frame.IsUdp ∧ frame.IsToVideoHost ∧ 5000 ≤ frame.port ∧ frame.port < 5200)
    ⟨fun ⟨h1, h2, h3⟩ => ⟨h1, h2, h3⟩, fun ⟨h1, h2, h3⟩ => ⟨h1, h2, h3⟩⟩

instance (frame : Frame) : Decidable frame.IsCutAtUdp :=
  decidable_of_iff
    (34 ≤ frame.length ∧ frame.word 12 = 0x0800 ∧ frame.byte 23 = 17 ∧
      20 ≤ frame.networkLength ∧ frame.length < 22 + frame.networkLength)
    ⟨fun ⟨h1, h2, h3, h4, h5⟩ => ⟨h1, h2, h3, h4, h5⟩,
      fun ⟨h1, h2, h3, h4, h5⟩ => ⟨h1, h2, h3, h4, h5⟩⟩

instance (frame : Frame) : Decidable frame.IsCutAtRtp :=
  decidable_of_iff
    (frame.IsUdp ∧ frame.IsToVideoHost ∧ (5000 ≤ frame.port ∧ frame.port < 5200) ∧
      frame.length < 34 + frame.networkLength)
    ⟨fun ⟨h1, h2, h3, h4⟩ => ⟨h1, h2, h3, h4⟩, fun ⟨h1, h2, h3, h4⟩ => ⟨h1, h2, h3, h4⟩⟩

theorem networkLength_le (frame : Frame) : frame.networkLength ≤ 60 := by
  unfold networkLength
  omega

theorem IsVideo.camera_unique {frame : Frame} {a b : UInt32} (ha : frame.IsVideo a)
    (hb : frame.IsVideo b) : a = b := by
  have hport := ha.port.symm.trans hb.port
  exact UInt32.toNat_inj.mp (by omega)

theorem IsVideo.not_isPosition {frame : Frame} {camera : UInt32} (h : frame.IsVideo camera) :
    ¬ frame.IsPosition := by
  intro hposition
  have hport := h.port.symm.trans hposition.port
  have hrange := h.inRange
  omega

end Frame

/-! ## What the headers say -/

namespace Wire

theorem EthernetHeader.isIpv4_iff (header : EthernetHeader) :
    header.isIpv4 = true ↔ header.etherType.toNat = 0x0800 := by
  rw [isIpv4, beq_iff_eq, ← UInt16.toNat_inj]
  rfl

theorem Ipv4Header.isUdp_iff (header : Ipv4Header) :
    header.isUdp = true ↔ header.protocol.toNat = 17 := by
  rw [isUdp, beq_iff_eq, ← UInt8.toNat_inj]
  rfl

theorem Ipv4Header.headerLength?_eq_ite (header : Ipv4Header) :
    header.headerLength? =
      if 20 ≤ 4 * (header.versionIhl.toNat % 16) then some (4 * (header.versionIhl.toNat % 16))
      else none := by
  have hihl : header.ihl.toNat = header.versionIhl.toNat % 16 := UInt8.toNat_mod _ _
  have hshort : header.ihl < minHeaderWords ↔ header.versionIhl.toNat % 16 < 5 := by
    rw [UInt8.lt_iff_toNat_lt, hihl]
    rfl
  unfold headerLength?
  by_cases h : header.versionIhl.toNat % 16 < 5
  · rw [if_pos (hshort.mpr h), if_neg (by omega)]
  · rw [if_neg (fun hc => h (hshort.mp hc)), if_pos (by omega), hihl, Nat.mul_comm]

theorem RtpHeader.version_eq_iff (header : RtpHeader) :
    header.version = rtpVersion ↔ header.versionFlags.toNat / 64 = 2 := by
  rw [← UInt8.toNat_inj, version, UInt8.toNat_div]
  rfl

end Wire

theorem isCameraPort_iff (port : UInt16) :
    isCameraPort port = true ↔ 5000 ≤ port.toNat ∧ port.toNat < 5200 := by
  have hlow : cameraBasePort.toUInt32 ≤ port.toUInt32 ↔ 5000 ≤ port.toNat := by
    rw [UInt32.le_iff_toNat_le]
    rfl
  have hhigh : port.toUInt32 < cameraBasePort.toUInt32 + cameraPorts ↔ port.toNat < 5200 := by
    rw [UInt32.lt_iff_toNat_lt]
    rfl
  rw [isCameraPort, Bool.and_eq_true, decide_eq_true_eq, decide_eq_true_eq, hlow, hhigh]

theorem toNat_cameraOfPort {port : UInt16} (h : isCameraPort port = true) :
    (cameraOfPort port).toNat = port.toNat - 5000 := by
  have hlow : cameraBasePort.toUInt32 ≤ port.toUInt32 :=
    UInt32.le_iff_toNat_le.mpr ((isCameraPort_iff port).mp h).1
  rw [cameraOfPort, UInt32.toNat_sub_of_le _ _ hlow]
  rfl

/-- The port of a camera is never that of one that there cannot be. -/
theorem cameraOfPort_lt {port : UInt16} (h : isCameraPort port = true) :
    cameraOfPort port < cameraPorts := by
  have hport := (isCameraPort_iff port).mp h
  rw [UInt32.lt_iff_toNat_lt, toNat_cameraOfPort h]
  show _ < 200
  omega

/-- The camera of a port, if it is one of the cameras'. -/
def cameraOfPort? (port : UInt16) : Option UInt32 :=
  if isCameraPort port then some (cameraOfPort port) else none

theorem cameraOfPort?_eq_some_iff {port : UInt16} {camera : UInt32} :
    cameraOfPort? port = some camera ↔
      port.toNat = 5000 + camera.toNat ∧ camera.toNat < 200 := by
  rw [cameraOfPort?, Option.ite_none_right_eq_some, Option.some_inj, ← UInt32.toNat_inj]
  constructor
  · rintro ⟨hport, hcamera⟩
    rw [toNat_cameraOfPort hport] at hcamera
    have hrange := (isCameraPort_iff port).mp hport
    omega
  · rintro ⟨hport, hcamera⟩
    have hrange : isCameraPort port = true := (isCameraPort_iff port).mpr (by omega)
    refine ⟨hrange, ?_⟩
    rw [toNat_cameraOfPort hrange]
    omega

/-! ## The steps of the classification -/

namespace Traffic

section Steps

variable {π : Type} [FrameView π] (view : π)

/-- The payload that is found at an offset. -/
def payloadAt (offset : UInt64) : VideoPayload := (VideoPayload.readAt offset).run view

theorem payloadAt_eq (offset : UInt64) :
    payloadAt view offset =
      match read? PayloadHeader view offset with
      | none => .truncated
      | some header =>
        if header.isFragment then
          match read? FragmentHeader view (offset + 2) with
          | none => .truncated
          | some header => .fragment header
        else
          .single header.nalType := by
  unfold payloadAt VideoPayload.readAt
  rw [Reading.run_bind, Reading.run_header]
  cases read? PayloadHeader view offset with
  | none => rfl
  | some header =>
      dsimp only
      split
      · rw [Reading.run_bind, Reading.run_header]
        cases read? FragmentHeader view (offset + 2) <;> rfl
      · rfl

/-- The class that some headers lead to. -/
def led (headers : Reading Heading) : Traffic := Reading.run view do (← headers).classify

/-- The class of the RTP packet of a camera that starts at `offset`. -/
def ofRtp (camera : UInt32) (offset : UInt64) : Traffic := led view (Heading.ofRtp camera offset)

/-- The class of the UDP packet to `host` that starts at `offset`. -/
def ofUdp (host : Address) (offset : UInt64) : Traffic := led view (Heading.ofUdp host offset)

/-- The class of the IPv4 packet of a frame. -/
def ofIpv4 : Traffic := led view Heading.ofIpv4

theorem led_eq (headers : Reading Heading) :
    led view headers = ((headers.run view).classify).run view :=
  Reading.run_bind ..

theorem led_video (camera : UInt32) (payload : UInt64) :
    led view (pure (.video camera payload)) = .video camera (payloadAt view payload) := by
  rw [led_eq, Reading.run_pure, Heading.run_classify_video, payloadAt]

/-- Headers that begin with one of them lead to where what it says leads to. -/
theorem led_header {α : Type} [WireHeader α] (offset : UInt64)
    (next : Option α → Reading Heading) :
    led view (Reading.header α offset >>= next) = led view (next (read? α view offset)) := by
  rw [led_eq, led_eq, Reading.run_bind, Reading.run_header]

end Steps

variable (frame : Frame)

theorem classify_eq_ite :
    classify frame =
      if 14 ≤ frame.length ∧ frame.word 12 = 0x0800 then ofIpv4 frame else .notIpv4 := by
  have hread := Frame.read?_ofNat EthernetHeader frame 0 (by decide)
  have hisIpv4 : (frame.header EthernetHeader 0).isIpv4 = true ↔ frame.word 12 = 0x0800 := by
    rw [EthernetHeader.isIpv4_iff, frame.toNat_etherType]
  show led frame Heading.ofFrame = _
  unfold Heading.ofFrame
  rw [led_header, show (0 : UInt64) = UInt64.ofNat 0 from rfl, hread,
    show 0 + WireHeader.size EthernetHeader = 14 from rfl]
  by_cases hlen : 14 ≤ frame.length
  · simp only [hlen, if_true, hisIpv4, true_and]
    split <;> rfl
  · simp only [hlen, if_false, false_and]
    rfl

theorem ofIpv4_eq_ite :
    ofIpv4 frame =
      if 34 ≤ frame.length ∧ frame.byte 23 = 17 then
        if 20 ≤ frame.networkLength then
          ofUdp frame (frame.header Ipv4Header 14).destination
            (UInt64.ofNat (14 + frame.networkLength))
        else .malformedIpv4
      else .notUdp := by
  have hread := Frame.read?_ofNat Ipv4Header frame 14 (by decide)
  have hisUdp : (frame.header Ipv4Header 14).isUdp = true ↔ frame.byte 23 = 17 := by
    rw [Ipv4Header.isUdp_iff, frame.toNat_protocol]
  have hlength : (frame.header Ipv4Header 14).headerLength? =
      if 20 ≤ frame.networkLength then some frame.networkLength else none := by
    rw [Ipv4Header.headerLength?_eq_ite, frame.toNat_versionIhl]
    rfl
  unfold ofIpv4 Heading.ofIpv4
  rw [led_header, show (14 : UInt64) = UInt64.ofNat 14 from rfl, hread,
    show 14 + WireHeader.size Ipv4Header = 34 from rfl]
  by_cases hlen : 34 ≤ frame.length
  · simp only [hlen, if_true, hisUdp, hlength, true_and]
    by_cases hip : 20 ≤ frame.networkLength
    · simp only [hip, if_true, UInt64.ofNat_add]
      split <;> rfl
    · simp only [hip, if_false]
      split <;> rfl
  · simp only [hlen, if_false, false_and]
    rfl

theorem ofUdp_eq_ite (host : Address) :
    ofUdp frame host (UInt64.ofNat (14 + frame.networkLength)) =
      if 22 + frame.networkLength ≤ frame.length then
        if frame.port = 5555 then
          .position (read? Position frame (UInt64.ofNat (22 + frame.networkLength)))
        else if host ≠ videoHost then .otherHost
        else
          match cameraOfPort? (frame.header UdpHeader (14 + frame.networkLength)).destination with
          | none => .otherPort
          | some camera => ofRtp frame camera (UInt64.ofNat (22 + frame.networkLength))
      else .truncatedUdp := by
  have hbound := frame.networkLength_le
  have hsize : 14 + frame.networkLength + WireHeader.size UdpHeader = 22 + frame.networkLength := by
    show 14 + frame.networkLength + 8 = _
    omega
  have hread := Frame.read?_ofNat UdpHeader frame (14 + frame.networkLength)
    (by unfold UInt64.size; omega)
  have hport : (frame.header UdpHeader (14 + frame.networkLength)).destination = positionPort ↔
      frame.port = 5555 := by
    rw [← UInt16.toNat_inj, frame.toNat_destination_port, Frame.port,
      show 14 + frame.networkLength + 2 = 16 + frame.networkLength by omega]
    rfl
  have hpayload : UInt64.ofNat (14 + frame.networkLength) + 8 =
      UInt64.ofNat (22 + frame.networkLength) := by
    rw [show (8 : UInt64) = UInt64.ofNat 8 from rfl, ← UInt64.ofNat_add, Nat.add_right_comm]
  unfold ofUdp Heading.ofUdp
  rw [led_header, hread, hsize]
  by_cases hlen : 22 + frame.networkLength ≤ frame.length
  case neg =>
    rw [if_neg hlen, if_neg hlen]
    rfl
  simp only [hlen, if_true, hport, hpayload]
  split
  · exact led_header ..
  split
  · rfl
  unfold cameraOfPort?
  split
  case isTrue hother =>
    rw [if_neg (by simp [hother])]
    rfl
  case isFalse hcamera =>
    have hcamera := (Bool.not_eq_false _).mp hcamera
    rw [if_pos hcamera, if_neg (UInt32.not_le.mpr (cameraOfPort_lt hcamera))]
    rfl

theorem ofRtp_eq_ite (camera : UInt32) :
    ofRtp frame camera (UInt64.ofNat (22 + frame.networkLength)) =
      if 34 + frame.networkLength ≤ frame.length then
        if frame.byte (22 + frame.networkLength) / 64 = 2 then
          .video camera (payloadAt frame (UInt64.ofNat (34 + frame.networkLength)))
        else .otherVersion
      else .truncatedRtp := by
  have hbound := frame.networkLength_le
  have hsize : 22 + frame.networkLength + WireHeader.size RtpHeader = 34 + frame.networkLength := by
    show 22 + frame.networkLength + 12 = _
    omega
  have hread := Frame.read?_ofNat RtpHeader frame (22 + frame.networkLength)
    (by unfold UInt64.size; omega)
  have hversion : (frame.header RtpHeader (22 + frame.networkLength)).version = rtpVersion ↔
      frame.byte (22 + frame.networkLength) / 64 = 2 := by
    rw [RtpHeader.version_eq_iff, frame.toNat_versionFlags]
  have hpayload : UInt64.ofNat (22 + frame.networkLength) + 12 =
      UInt64.ofNat (34 + frame.networkLength) := by
    rw [show (12 : UInt64) = UInt64.ofNat 12 from rfl, ← UInt64.ofNat_add, Nat.add_right_comm]
  unfold ofRtp Heading.ofRtp
  rw [led_header, hread, hsize]
  by_cases hlen : 34 + frame.networkLength ≤ frame.length
  · simp only [hlen, if_true, hversion, hpayload]
    split
    · exact led_video ..
    · rfl
  · simp only [hlen, if_false]
    rfl

/-! ## Video on the bytes -/

/-- A frame that is not complete up to its UDP header is none of the classes behind it. -/
theorem isUdp_of_classify {traffic : Traffic} (h : classify frame = traffic)
    (hipv4 : traffic ≠ .notIpv4) (hudp : traffic ≠ .notUdp) (hip : traffic ≠ .malformedIpv4)
    (hcut : traffic ≠ .truncatedUdp) : frame.IsUdp := by
  rw [classify_eq_ite] at h
  split at h
  · rename_i hethernet
    rw [ofIpv4_eq_ite] at h
    split at h
    · rename_i hheaders
      split at h
      · rename_i hlength
        rw [ofUdp_eq_ite] at h
        split at h
        · rename_i hcomplete
          exact ⟨hheaders.1, hethernet.2, hheaders.2, hlength, hcomplete⟩
        · exact absurd h.symm hcut
      · exact absurd h.symm hip
    · exact absurd h.symm hudp
  · exact absurd h.symm hipv4

theorem classify_of_isUdp {frame : Frame} (h : frame.IsUdp) :
    classify frame =
      if frame.port = 5555 then
        .position (read? Position frame (UInt64.ofNat (22 + frame.networkLength)))
      else if (frame.header Ipv4Header 14).destination ≠ videoHost then .otherHost
      else
        match cameraOfPort? (frame.header UdpHeader (14 + frame.networkLength)).destination with
        | none => .otherPort
        | some camera => ofRtp frame camera (UInt64.ofNat (22 + frame.networkLength)) := by
  have hlen := h.headers
  rw [classify_eq_ite, if_pos ⟨by omega, h.etherType⟩, ofIpv4_eq_ite,
    if_pos ⟨hlen, h.protocol⟩, if_pos h.ipLength, ofUdp_eq_ite, if_pos h.udp]

theorem destination_eq_videoHost_iff :
    (frame.header Ipv4Header 14).destination = videoHost ↔ frame.IsToVideoHost :=
  frame.destination_eq_iff 14 10 1 1 2

theorem cameraOfPort?_destination_eq_some_iff {camera : UInt32} :
    cameraOfPort? (frame.header UdpHeader (14 + frame.networkLength)).destination =
        some camera ↔
      frame.port = 5000 + camera.toNat ∧ camera.toNat < 200 := by
  rw [cameraOfPort?_eq_some_iff, frame.toNat_destination_port, Nat.add_right_comm]
  rfl

/-- **Video is recognised by its bytes**: a frame is video of a camera exactly if its headers
are complete and say so. -/
theorem classify_eq_video_iff {camera : UInt32} {payload : VideoPayload} :
    classify frame = .video camera payload ↔
      frame.IsVideo camera ∧
        payloadAt frame (UInt64.ofNat (34 + frame.networkLength)) = payload := by
  constructor
  · intro h
    have hudp := isUdp_of_classify frame h (by simp) (by simp) (by simp) (by simp)
    rw [classify_of_isUdp hudp] at h
    -- Each test behind the UDP header must have succeeded: a failure is a class of its own.
    split at h
    · cases h
    split at h
    · cases h
    rename_i hhost
    have hhost := (destination_eq_videoHost_iff frame).mp (Decidable.not_not.mp hhost)
    split at h
    · cases h
    rename_i other hcamera
    obtain ⟨hport, hrange⟩ := (cameraOfPort?_destination_eq_some_iff frame).mp hcamera
    rw [ofRtp_eq_ite] at h
    split at h
    · rename_i hrtp
      split at h
      · rename_i hversion
        obtain ⟨rfl, rfl⟩ := Traffic.video.inj h
        exact ⟨⟨hudp, hhost, hport, hrange, hrtp, hversion⟩, rfl⟩
      · cases h
    · cases h
  · rintro ⟨h, rfl⟩
    have hport := h.port
    have hrange := h.inRange
    have hhost := (destination_eq_videoHost_iff frame).mpr h.host
    have hcamera := (cameraOfPort?_destination_eq_some_iff frame).mpr ⟨hport, hrange⟩
    rw [classify_of_isUdp h.toIsUdp, if_neg (by omega), if_neg (by simp [hhost]), hcamera]
    show ofRtp frame camera _ = _
    rw [ofRtp_eq_ite, if_pos h.rtp, if_pos h.version]

/-- **A position packet is recognised by its bytes**, whatever of its record is there. -/
theorem classify_eq_position_iff {record : Option Position} :
    classify frame = .position record ↔
      frame.IsPosition ∧
        read? Position frame (UInt64.ofNat (22 + frame.networkLength)) = record := by
  constructor
  · intro h
    have hudp := isUdp_of_classify frame h (by simp) (by simp) (by simp) (by simp)
    rw [classify_of_isUdp hudp] at h
    split at h
    · rename_i hport
      exact ⟨⟨hudp, hport⟩, Traffic.position.inj h⟩
    split at h
    · cases h
    split at h
    · cases h
    rw [ofRtp_eq_ite] at h
    split at h
    · split at h <;> cases h
    · cases h
  · rintro ⟨h, rfl⟩
    rw [classify_of_isUdp h.toIsUdp, if_pos h.port]

/-- What a complete UDP packet can be. -/
theorem classify_cases_of_isUdp {frame : Frame} (hudp : frame.IsUdp) :
    (∃ record, classify frame = .position record) ∨
      classify frame ∈ [.otherHost, .otherPort, .truncatedRtp, .otherVersion] ∨
        ∃ camera payload, classify frame = .video camera payload := by
  rw [classify_of_isUdp hudp]
  split
  · exact .inl ⟨_, rfl⟩
  refine .inr ?_
  split
  · exact .inl (by simp)
  split
  · exact .inl (by simp)
  rw [ofRtp_eq_ite]
  split
  · split
    · exact .inr ⟨_, _, rfl⟩
    · exact .inl (by simp)
  · exact .inl (by simp)

/-- A port of the cameras is never that of a camera that there cannot be: the second look at it
turns nothing away. -/
theorem classify_ne_noCamera : classify frame ≠ .noCamera := by
  intro h
  have hudp := isUdp_of_classify frame h (by simp) (by simp) (by simp) (by simp)
  have hcases := classify_cases_of_isUdp hudp
  simp [h] at hcases

theorem classify_ne_truncatedUdp {frame : Frame} (hudp : frame.IsUdp) :
    classify frame ≠ .truncatedUdp := by
  intro h
  have hcases := classify_cases_of_isUdp hudp
  simp [h] at hcases

/-- A cut-off UDP header is recognised by the bytes in front of it. -/
theorem classify_eq_truncatedUdp_iff : classify frame = .truncatedUdp ↔ frame.IsCutAtUdp := by
  constructor
  · intro hclass
    have h := hclass
    rw [classify_eq_ite] at h
    split at h
    · rename_i hethernet
      rw [ofIpv4_eq_ite] at h
      split at h
      · rename_i hheaders
        split at h
        · rename_i hlength
          refine ⟨hheaders.1, hethernet.2, hheaders.2, hlength, Nat.lt_of_not_le fun hudp => ?_⟩
          exact classify_ne_truncatedUdp
            ⟨hheaders.1, hethernet.2, hheaders.2, hlength, hudp⟩ hclass
        · cases h
      · cases h
    · cases h
  · intro h
    have hlen := h.headers
    rw [classify_eq_ite, if_pos ⟨by omega, h.etherType⟩, ofIpv4_eq_ite,
      if_pos ⟨hlen, h.protocol⟩, if_pos h.ipLength, ofUdp_eq_ite,
      if_neg (Nat.not_le_of_lt h.cut)]

/-- A UDP packet that none of the tests on host and port turned away is for a camera. -/
theorem isToCamera_of_classify {frame : Frame} {traffic : Traffic} (h : classify frame = traffic)
    (hudp : frame.IsUdp) (hposition : ∀ record, traffic ≠ .position record)
    (hhost : traffic ≠ .otherHost) (hport : traffic ≠ .otherPort) : frame.IsToCamera := by
  rw [classify_of_isUdp hudp] at h
  split at h
  · exact absurd h.symm (hposition _)
  split at h
  · exact absurd h.symm hhost
  rename_i htoHost
  split at h
  · exact absurd h.symm hport
  · rename_i camera hcamera
    obtain ⟨hcameraPort, hrange⟩ := (cameraOfPort?_destination_eq_some_iff frame).mp hcamera
    exact ⟨hudp, (destination_eq_videoHost_iff frame).mp (Decidable.not_not.mp htoHost), by omega⟩

theorem classify_of_isToCamera {frame : Frame} (h : frame.IsToCamera) :
    ∃ camera, classify frame = ofRtp frame camera (UInt64.ofNat (22 + frame.networkLength)) := by
  obtain ⟨hlow, hhigh⟩ := h.port
  have hhost := (destination_eq_videoHost_iff frame).mpr h.host
  have hid : (UInt32.ofNat (frame.port - 5000)).toNat = frame.port - 5000 :=
    UInt32.toNat_ofNat_of_lt' (by unfold UInt32.size; omega)
  have hcamera := (cameraOfPort?_destination_eq_some_iff frame).mpr
    (show frame.port = 5000 + (UInt32.ofNat (frame.port - 5000)).toNat ∧
      (UInt32.ofNat (frame.port - 5000)).toNat < 200 by omega)
  refine ⟨UInt32.ofNat (frame.port - 5000), ?_⟩
  rw [classify_of_isUdp h.toIsUdp, if_neg (by omega), if_neg (not_not_intro hhost), hcamera]

/-- A cut-off RTP header is recognised by the bytes in front of it. -/
theorem classify_eq_truncatedRtp_iff : classify frame = .truncatedRtp ↔ frame.IsCutAtRtp := by
  constructor
  · intro h
    have hudp := isUdp_of_classify frame h (by simp) (by simp) (by simp) (by simp)
    have hcamera := isToCamera_of_classify h hudp (by simp) (by simp) (by simp)
    obtain ⟨camera, hclass⟩ := classify_of_isToCamera hcamera
    rw [hclass, ofRtp_eq_ite] at h
    split at h
    · split at h <;> cases h
    · rename_i hcut
      exact ⟨hudp, hcamera.host, hcamera.port, Nat.lt_of_not_le hcut⟩
  · intro h
    obtain ⟨camera, hclass⟩ := classify_of_isToCamera ⟨h.toIsUdp, h.host, h.port⟩
    rw [hclass, ofRtp_eq_ite, if_neg (Nat.not_le_of_lt h.cut)]

end Traffic

end VideoGate
