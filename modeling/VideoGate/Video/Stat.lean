/-!
# Counters of the video filter

The filter keeps one counter for each thing that can happen to a frame.  A counter has a
place in the table of counters and a name under which it is exported.
-/

namespace VideoGate

/-- What the video filter counts. -/
inductive VideoStat where
  | totalPackets
  | rtpPackets
  | fragmentStarts
  | pSlices
  | dropped
  | forwarded
  | positionPackets
  | modeOff
  | modeDropP
  | modeForwardP
  | cameraOutOfRange
  | lookupFailed
  | positionsApplied
  | positionPortMatched
  | stageEntries
  | ipv4Packets
  | udpPackets
  | portChecks
  | wrongHost
  | wrongPort
  | wrongVersion
deriving DecidableEq, Repr, Inhabited

namespace VideoStat

abbrev count : Nat := 21

def index : VideoStat → Fin count
  | totalPackets => 0
  | rtpPackets => 1
  | fragmentStarts => 2
  | pSlices => 3
  | dropped => 4
  | forwarded => 5
  | positionPackets => 6
  | modeOff => 7
  | modeDropP => 8
  | modeForwardP => 9
  | cameraOutOfRange => 10
  | lookupFailed => 11
  | positionsApplied => 12
  | positionPortMatched => 13
  | stageEntries => 14
  | ipv4Packets => 15
  | udpPackets => 16
  | portChecks => 17
  | wrongHost => 18
  | wrongPort => 19
  | wrongVersion => 20

theorem index_lt (stat : VideoStat) : stat.index.val < count :=
  stat.index.isLt

def all : List VideoStat :=
  [totalPackets, rtpPackets, fragmentStarts, pSlices, dropped, forwarded, positionPackets,
    modeOff, modeDropP, modeForwardP, cameraOutOfRange, lookupFailed, positionsApplied,
    positionPortMatched, stageEntries, ipv4Packets, udpPackets, portChecks, wrongHost,
    wrongPort, wrongVersion]

def name : VideoStat → String
  | totalPackets => "total_packets"
  | rtpPackets => "rtp_packets"
  | fragmentStarts => "fu_start"
  | pSlices => "p_slices"
  | dropped => "dropped"
  | forwarded => "forwarded"
  | positionPackets => "position_packets"
  | modeOff => "mode_off"
  | modeDropP => "mode_drop_p"
  | modeForwardP => "mode_forward_p"
  | cameraOutOfRange => "camera_out_of_range"
  | lookupFailed => "map_lookup_failed"
  | positionsApplied => "coords_updated"
  | positionPortMatched => "position_port_matched"
  | stageEntries => "stage2_entry"
  | ipv4Packets => "ipv4_packets"
  | udpPackets => "udp_packets"
  | portChecks => "pre_port_check"
  | wrongHost => "wrong_ip"
  | wrongPort => "wrong_port_range"
  | wrongVersion => "rtp_version_fail"

@[simp] theorem all_getElem_index (stat : VideoStat) : all[stat.index]? = some stat := by
  cases stat <;> rfl

theorem index_injective {a b : VideoStat} (h : a.index = b.index) : a = b := by
  have found := all_getElem_index a
  rw [h, all_getElem_index b] at found
  exact (Option.some.inj found).symm

end VideoStat

end VideoGate
