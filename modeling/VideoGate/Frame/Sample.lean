import VideoGate.Frame.View

/-!
# Building sample frames

A `SampleFrame` describes an Ethernet, IPv4 and UDP frame with a payload made of parts: RTP
headers, H.265 payload headers, fragments and position records.  `SampleFrame.bytes` writes
it.  Nothing follows the last part, so every cut removes a piece of some header.
-/

namespace VideoGate

open Wire

inductive PayloadPart where
  /-- An RTP header that states this version, of which two bits are kept. -/
  | rtp (version : UInt8)
  /-- The payload header of a NAL unit sent in one piece. -/
  | nalUnit (nalType : UInt8)
  /-- The payload and fragment headers of one fragment. -/
  | fragment (isStart isEnd : Bool) (innerType : UInt8)
  | position (x y : UInt32)
deriving DecidableEq, Repr

namespace PayloadPart

/-- The RTP header of a sample, all of it fixed but for the version. -/
def rtpHeader (version : UInt8) : RtpHeader where
  versionFlags := version % 4 * 64
  markerType := 96
  sequence := 1
  timestamp := 90000
  source := 0xC0FFEE00

def payloadHeader (nalType : UInt8) : PayloadHeader where
  first := nalType % 64 * 2
  second := 1

def fragmentHeader (isStart isEnd : Bool) (innerType : UInt8) : FragmentHeader where
  flagsType := (if isStart then 128 else 0) + (if isEnd then 64 else 0) + innerType % 64

def bytes : PayloadPart → List UInt8
  | .rtp version => (WireHeader.encode (rtpHeader version)).toList
  | .nalUnit nalType => (WireHeader.encode (payloadHeader nalType)).toList
  | .fragment isStart isEnd innerType =>
      (WireHeader.encode (payloadHeader fragmentationUnit)).toList ++
        (WireHeader.encode (fragmentHeader isStart isEnd innerType)).toList
  | .position x y => (WireHeader.encode { x, y : Position }).toList

end PayloadPart

structure SampleFrame where
  destination : Address
  port : UInt16
  etherType : UInt16 := etherTypeIpv4
  protocol : UInt8 := protocolUdp
  /-- Stated IPv4 header length in words; values above 5 add options of zero bytes, and
  only the low four bits are stated. -/
  ihl : UInt8 := minHeaderWords
  parts : List PayloadPart := []
deriving Repr

namespace SampleFrame

def payload (sample : SampleFrame) : List UInt8 :=
  sample.parts.flatMap PayloadPart.bytes

/-- Bytes taken by the IPv4 header and its options. -/
def networkLength (sample : SampleFrame) : Nat :=
  max sample.ihl.toNat minHeaderWords.toNat * 4

/-- Bytes taken by the UDP header and the payload. -/
def transportLength (sample : SampleFrame) : Nat :=
  8 + sample.payload.length

def ethernetHeader (sample : SampleFrame) : EthernetHeader where
  destination := #v[2, 0, 0, 0, 0, 2]
  source := #v[2, 0, 0, 0, 0, 1]
  etherType := sample.etherType

/-- Lengths are stated modulo 2^16; the checksum is left at zero. -/
def ipv4Header (sample : SampleFrame) : Ipv4Header where
  versionIhl := 64 + sample.ihl % 16
  serviceType := 0
  totalLength := UInt16.ofNat (sample.networkLength + sample.transportLength)
  identification := 0
  fragmentOffset := 0x4000
  timeToLive := 64
  protocol := sample.protocol
  checksum := 0
  source := #v[10, 1, 1, 1]
  destination := sample.destination

def udpHeader (sample : SampleFrame) : UdpHeader where
  source := 40000
  destination := sample.port
  length := UInt16.ofNat sample.transportLength
  checksum := 0

def bytes (sample : SampleFrame) : Frame :=
  (WireHeader.encode sample.ethernetHeader).toList ++
    (WireHeader.encode sample.ipv4Header).toList ++
    List.replicate (sample.networkLength - 20) 0 ++
    (WireHeader.encode sample.udpHeader).toList ++
    sample.payload

end SampleFrame

end VideoGate
