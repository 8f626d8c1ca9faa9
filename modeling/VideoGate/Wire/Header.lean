import VideoGate.Camera.Position
import VideoGate.Wire.Word

/-!
# Headers on the wire

A header is a record of fixed size whose fields stand one after the other, numbers in
big-endian order.  `WireHeader` ties a record to its bytes: `decode` and `encode` are
inverse to each other, so a header holds exactly the bytes it was read from.
-/

namespace VideoGate.Wire

/-- A record of fixed size with its form on the wire. -/
class WireHeader (α : Type) where
  size : Nat
  /-- The record written in `size` bytes. -/
  decode : Vector UInt8 size → α
  encode : α → Vector UInt8 size
  encode_decode : ∀ bytes, encode (decode bytes) = bytes
  decode_encode : ∀ header, decode (encode header) = header

/-! ## Ethernet -/

def etherTypeIpv4 : UInt16 := 0x0800

structure EthernetHeader where
  destination : Vector UInt8 6
  source : Vector UInt8 6
  etherType : UInt16
deriving DecidableEq, Repr

namespace EthernetHeader

def isIpv4 (h : EthernetHeader) : Bool := h.etherType == etherTypeIpv4

end EthernetHeader

/-! ## IPv4 -/

/-- An IPv4 address, its first byte first. -/
abbrev Address := Vector UInt8 4

def protocolUdp : UInt8 := 17

/-- The smallest header length that a valid IPv4 header can state, in 32-bit words. -/
def minHeaderWords : UInt8 := 5

structure Ipv4Header where
  versionIhl : UInt8
  serviceType : UInt8
  totalLength : UInt16
  identification : UInt16
  fragmentOffset : UInt16
  timeToLive : UInt8
  protocol : UInt8
  checksum : UInt16
  source : Address
  destination : Address
deriving DecidableEq, Repr

namespace Ipv4Header

/-- The stated header length in 32-bit words. -/
def ihl (h : Ipv4Header) : UInt8 := h.versionIhl % 16

def isUdp (h : Ipv4Header) : Bool := h.protocol == protocolUdp

/-- The header length in bytes, options included; none if it is stated as shorter than
the fixed part, since the transport header would then overlap it. -/
def headerLength? (h : Ipv4Header) : Option Nat :=
  if h.ihl < minHeaderWords then none else some (h.ihl.toNat * 4)

end Ipv4Header

/-! ## UDP -/

structure UdpHeader where
  source : UInt16
  destination : UInt16
  length : UInt16
  checksum : UInt16
deriving DecidableEq, Repr

/-! ## RTP -/

/-- The only RTP version that the filter takes for video. -/
def rtpVersion : UInt8 := 2

/-- The fixed 12 bytes of an RTP header; contributing sources and extensions are not read. -/
structure RtpHeader where
  versionFlags : UInt8
  markerType : UInt8
  sequence : UInt16
  timestamp : UInt32
  source : UInt32
deriving DecidableEq, Repr

namespace RtpHeader

def version (h : RtpHeader) : UInt8 := h.versionFlags / 64

end RtpHeader

/-! ## H.265 -/

def fragmentationUnit : UInt8 := 49

/-- Is this the NAL unit type of a P slice? -/
def isPSlice (nalType : UInt8) : Bool := 1 ≤ nalType && nalType ≤ 9

structure PayloadHeader where
  first : UInt8
  second : UInt8
deriving DecidableEq, Repr

namespace PayloadHeader

/-- The NAL unit type, six bits below the forbidden bit. -/
def nalType (h : PayloadHeader) : UInt8 := h.first / 2 % 64

def isFragment (h : PayloadHeader) : Bool := h.nalType == fragmentationUnit

end PayloadHeader

/-- The byte that follows the payload header of a fragmentation unit. -/
structure FragmentHeader where
  flagsType : UInt8
deriving DecidableEq, Repr

namespace FragmentHeader

def isStart (h : FragmentHeader) : Bool := 128 ≤ h.flagsType

def isEnd (h : FragmentHeader) : Bool := 64 ≤ h.flagsType % 128

def innerType (h : FragmentHeader) : UInt8 := h.flagsType % 64

end FragmentHeader

/-! ## The forms on the wire -/

/-- A vector is the list of its entries. -/
private theorem four_entries (v : Vector UInt8 4) : #v[v[0], v[1], v[2], v[3]] = v := by
  ext i hi
  match i, hi with
  | 0, _ | 1, _ | 2, _ | 3, _ => simp

private theorem six_entries (v : Vector UInt8 6) :
    #v[v[0], v[1], v[2], v[3], v[4], v[5]] = v := by
  ext i hi
  match i, hi with
  | 0, _ | 1, _ | 2, _ | 3, _ | 4, _ | 5, _ => simp

instance : WireHeader EthernetHeader where
  size := 14
  decode b :=
    { destination := #v[b[0], b[1], b[2], b[3], b[4], b[5]]
      source := #v[b[6], b[7], b[8], b[9], b[10], b[11]]
      etherType := word16 b[12] b[13] }
  encode h :=
    let d := h.destination
    let s := h.source
    let t := bytes16 h.etherType
    #v[d[0], d[1], d[2], d[3], d[4], d[5], s[0], s[1], s[2], s[3], s[4], s[5], t.1, t.2]
  encode_decode b := by
    ext i hi
    match i, hi with
    | 0, _ | 1, _ | 2, _ | 3, _ | 4, _ | 5, _ | 6, _ | 7, _ | 8, _ | 9, _ | 10, _ | 11, _
    | 12, _ | 13, _ => simp
  decode_encode h := by
    cases h
    simp [six_entries]

instance : WireHeader Ipv4Header where
  size := 20
  decode b :=
    { versionIhl := b[0]
      serviceType := b[1]
      totalLength := word16 b[2] b[3]
      identification := word16 b[4] b[5]
      fragmentOffset := word16 b[6] b[7]
      timeToLive := b[8]
      protocol := b[9]
      checksum := word16 b[10] b[11]
      source := #v[b[12], b[13], b[14], b[15]]
      destination := #v[b[16], b[17], b[18], b[19]] }
  encode h :=
    let l := bytes16 h.totalLength
    let n := bytes16 h.identification
    let f := bytes16 h.fragmentOffset
    let c := bytes16 h.checksum
    let s := h.source
    let d := h.destination
    #v[h.versionIhl, h.serviceType, l.1, l.2, n.1, n.2, f.1, f.2, h.timeToLive, h.protocol,
      c.1, c.2, s[0], s[1], s[2], s[3], d[0], d[1], d[2], d[3]]
  encode_decode b := by
    ext i hi
    match i, hi with
    | 0, _ | 1, _ | 2, _ | 3, _ | 4, _ | 5, _ | 6, _ | 7, _ | 8, _ | 9, _ => simp
    | n + 10, h =>
      have hn : n < 10 := by omega
      match n, h, hn with
      | 0, _, _ | 1, _, _ | 2, _, _ | 3, _, _ | 4, _, _ => simp
      | 5, _, _ | 6, _, _ | 7, _, _ | 8, _, _ | 9, _, _ => simp
  decode_encode h := by
    cases h
    simp [four_entries]

instance : WireHeader UdpHeader where
  size := 8
  decode b :=
    { source := word16 b[0] b[1]
      destination := word16 b[2] b[3]
      length := word16 b[4] b[5]
      checksum := word16 b[6] b[7] }
  encode h :=
    let s := bytes16 h.source
    let d := bytes16 h.destination
    let l := bytes16 h.length
    let c := bytes16 h.checksum
    #v[s.1, s.2, d.1, d.2, l.1, l.2, c.1, c.2]
  encode_decode b := by
    ext i hi
    match i, hi with
    | 0, _ | 1, _ | 2, _ | 3, _ | 4, _ | 5, _ | 6, _ | 7, _ => simp
  decode_encode h := by
    cases h
    simp

instance : WireHeader RtpHeader where
  size := 12
  decode b :=
    { versionFlags := b[0]
      markerType := b[1]
      sequence := word16 b[2] b[3]
      timestamp := word32 b[4] b[5] b[6] b[7]
      source := word32 b[8] b[9] b[10] b[11] }
  encode h :=
    let n := bytes16 h.sequence
    let t := bytes32 h.timestamp
    let s := bytes32 h.source
    #v[h.versionFlags, h.markerType, n.1, n.2, t.1, t.2.1, t.2.2.1, t.2.2.2,
      s.1, s.2.1, s.2.2.1, s.2.2.2]
  encode_decode b := by
    ext i hi
    match i, hi with
    | 0, _ | 1, _ | 2, _ | 3, _ | 4, _ | 5, _ | 6, _ | 7, _ | 8, _ | 9, _ | 10, _ | 11, _ =>
      simp
  decode_encode h := by
    cases h
    simp

instance : WireHeader PayloadHeader where
  size := 2
  decode b := { first := b[0], second := b[1] }
  encode h := #v[h.first, h.second]
  encode_decode b := by
    ext i hi
    match i, hi with
    | 0, _ | 1, _ => simp
  decode_encode _ := rfl

instance : WireHeader FragmentHeader where
  size := 1
  decode b := { flagsType := b[0] }
  encode h := #v[h.flagsType]
  encode_decode b := by
    ext i hi
    match i, hi with
    | 0, _ => simp
  decode_encode _ := rfl

instance : WireHeader Position where
  size := 8
  decode b :=
    { x := word32 b[0] b[1] b[2] b[3]
      y := word32 b[4] b[5] b[6] b[7] }
  encode h :=
    let x := bytes32 h.x
    let y := bytes32 h.y
    #v[x.1, x.2.1, x.2.2.1, x.2.2.2, y.1, y.2.1, y.2.2.1, y.2.2.2]
  encode_decode b := by
    ext i hi
    match i, hi with
    | 0, _ | 1, _ | 2, _ | 3, _ | 4, _ | 5, _ | 6, _ | 7, _ => simp
  decode_encode h := by
    cases h
    simp

end VideoGate.Wire
