import VideoGate.Frame.Reading

/-!
# Classes of traffic

What a frame is to the video filter depends on its bytes alone.  The headers are read one after the
other, and name the first point at which the frame stops being of interest, or what it carries: a
position of the tracked object, or a piece of a camera's video (`Heading.ofFrame`).  The payload of
video is read in a step of its own, since not every camera is filtered.

No header is read past byte 97, so a view whose bound is a sum of words serves as well as one
that checks the sum.
-/

namespace VideoGate

open Wire

/-! ## Addressing -/

def videoHost : Address := #v[10, 1, 1, 2]

def cameraBasePort : UInt16 := 5000

/-- The port on which positions of the tracked object arrive, for any host. -/
def positionPort : UInt16 := 5555

def cameraPorts : UInt32 := 200

def isCameraPort (port : UInt16) : Bool :=
  cameraBasePort.toUInt32 ≤ port.toUInt32 && port.toUInt32 < cameraBasePort.toUInt32 + cameraPorts

def cameraOfPort (port : UInt16) : UInt32 := port.toUInt32 - cameraBasePort.toUInt32

/-! ## What a frame carries -/

/-- The start of an H.265 payload, as far as the filter looks into it. -/
inductive VideoPayload where
  /-- The payload header, or the header of a fragment, is cut off. -/
  | truncated
  /-- A NAL unit in one piece. -/
  | single (nalType : UInt8)
  /-- One fragment of a NAL unit. -/
  | fragment (header : FragmentHeader)
deriving DecidableEq, Repr

/-- What a frame is to the filter. -/
inductive Traffic where
  /-- No complete Ethernet header with the ether type of IPv4. -/
  | notIpv4
  /-- No complete IPv4 header with the protocol number of UDP. -/
  | notUdp
  /-- The stated length of the IPv4 header is too small. -/
  | malformedIpv4
  | truncatedUdp
  /-- A packet to the position port, with its record unless that is cut off. -/
  | position (record : Option Position)
  /-- UDP to a host other than the video host. -/
  | otherHost
  /-- UDP to the video host, on a port of no camera. -/
  | otherPort
  /-- UDP to the video host, on the port of a camera that there cannot be. -/
  | noCamera
  | truncatedRtp
  /-- RTP of a version that is not filtered. -/
  | otherVersion
  | video (camera : UInt32) (payload : VideoPayload)
deriving DecidableEq, Repr

/-- What the headers in front of a payload make of a frame. -/
inductive Heading where
  /-- The class of the frame, whatever is behind the headers. -/
  | settled (traffic : Traffic)
  /-- Video of a camera, with the place where its payload starts. -/
  | video (camera : UInt32) (payload : UInt64)
deriving DecidableEq, Repr

/-! ## Headers -/

namespace Heading

def ofRtp (camera : UInt32) (offset : UInt64) : Reading Heading := do
  match ← Reading.header RtpHeader offset with
  | none => return .settled .truncatedRtp
  | some rtp =>
    if rtp.version = rtpVersion then
      return .video camera (offset + 12)
    else
      return .settled .otherVersion

/-- Looks at the UDP packet to `host` that starts at `offset`.  That a port is one of the cameras'
is looked at twice, as a port and as the number of a camera. -/
def ofUdp (host : Address) (offset : UInt64) : Reading Heading := do
  match ← Reading.header UdpHeader offset with
  | none => return .settled .truncatedUdp
  | some udp =>
    let payload := offset + 8
    if udp.destination = positionPort then
      return .settled (.position (← Reading.header Position payload))
    else if host ≠ videoHost then
      return .settled .otherHost
    else if isCameraPort udp.destination = false then
      return .settled .otherPort
    else
      let camera := cameraOfPort udp.destination
      if cameraPorts ≤ camera then
        return .settled .noCamera
      else
        ofRtp camera payload

def ofIpv4 : Reading Heading := do
  match ← Reading.header Ipv4Header 14 with
  | none => return .settled .notUdp
  | some ip =>
    if ip.isUdp then
      match ip.headerLength? with
      | none => return .settled .malformedIpv4
      | some length => ofUdp ip.destination (14 + UInt64.ofNat length)
    else
      return .settled .notUdp

def ofFrame : Reading Heading := do
  match ← Reading.header EthernetHeader 0 with
  | none => return .settled .notIpv4
  | some ethernet => if ethernet.isIpv4 then ofIpv4 else return .settled .notIpv4

end Heading

/-! ## Payloads -/

def VideoPayload.readAt (offset : UInt64) : Reading VideoPayload := do
  match ← Reading.header PayloadHeader offset with
  | none => return .truncated
  | some header =>
    if header.isFragment then
      match ← Reading.header FragmentHeader (offset + 2) with
      | none => return .truncated
      | some header => return .fragment header
    else
      return .single header.nalType

/-- Looks at what is behind the headers, as far as that bears on the class of the frame. -/
def Heading.classify : Heading → Reading Traffic
  | settled traffic => return traffic
  | video camera payload => return .video camera (← VideoPayload.readAt payload)

theorem Heading.run_classify_video {π : Type} [FrameView π] (view : π) (camera : UInt32)
    (payload : UInt64) :
    (video camera payload).classify.run view =
      .video camera ((VideoPayload.readAt payload).run view) := by
  rw [classify, Reading.run_bind, Reading.run_pure]

def Traffic.classify {π : Type} [FrameView π] (view : π) : Traffic :=
  Reading.run view do (← Heading.ofFrame).classify

end VideoGate
