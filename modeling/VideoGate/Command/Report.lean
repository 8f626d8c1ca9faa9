import VideoGate.Decimal.Layout
import VideoGate.Stats.Snapshot

/-!
# What the operator is shown

The banner that is printed when the program starts on longer work, and the summary of a snapshot.
Numbers stand below each other in the summary, so they are padded to one width.
-/

namespace VideoGate.Command

def banner : List String :=
  ["",
    "╔═══════════════════════════════════════════════════╗",
    "║          XDP Stage Pipeline - Video Filter        ║",
    "║                  Control Plane                    ║",
    "╚═══════════════════════════════════════════════════╝",
    "    "]

def counterLine (label : String) (count : UInt64) : String :=
  "    " ++ label ++ Numeral.padLeft 10 (Numeral.text count.toNat)

def cameraList (cameras : List UInt32) : String :=
  "[" ++ ", ".intercalate (cameras.map fun camera => Numeral.text camera.toNat) ++ "]"

def ruler : String := "============================================"

def summary (snapshot : Snapshot Float) : List String :=
  ["",
    ruler,
    "             Summary Report",
    ruler,
    "",
    "  Duration:           " ++ Numeral.text snapshot.durationSeconds.toNat ++ " seconds",
    "  Samples:            " ++ Numeral.text snapshot.samples.toNat,
    "",
    "  Dispatcher:",
    counterLine "admitted:  " (snapshot.dispatcher.get .admitted),
    counterLine "stage1:    " (snapshot.dispatcher.get .stage1),
    counterLine "stage2:    " (snapshot.dispatcher.get .stage2),
    counterLine "bridged:   " (snapshot.dispatcher.get .bridged),
    counterLine "output:    " (snapshot.dispatcher.get .outputRedirects),
    "",
    "  Video Filter:",
    counterLine "rtp:       " (snapshot.video.get VideoStat.rtpPackets.name),
    counterLine "p_slices:  " (snapshot.video.get VideoStat.pSlices.name),
    counterLine "dropped:   " (snapshot.video.get VideoStat.dropped.name),
    counterLine "forwarded: " (snapshot.video.get VideoStat.forwarded.name),
    counterLine "positions: " (snapshot.video.get VideoStat.positionPackets.name),
    "    drop ratio: " ++ Numeral.padLeft 8 (Decimal.writePercent snapshot.dropRatio) ++
      "% (peak interval " ++ Decimal.writePercent snapshot.peakDropRatio ++ "%)",
    "",
    "  Tracking:",
    "    position:  (" ++ Numeral.text snapshot.position.x.toNat ++ ", " ++
      Numeral.text snapshot.position.y.toNat ++ ")",
    "    unfiltered cameras: " ++ cameraList snapshot.cameras.unfiltered,
    "    max visits: stage1 " ++ Numeral.text snapshot.visits.stage1.toNat ++ " / stage2 " ++
      Numeral.text snapshot.visits.stage2.toNat,
    "",
    ruler]

end VideoGate.Command
