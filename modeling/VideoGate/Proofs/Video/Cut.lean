import VideoGate.Proofs.Frame.Prefix
import VideoGate.Proofs.Video.Step

/-!
# Frames that are cut off or padded

A verdict rests on the headers that led to it, and on nothing behind them.  A frame that covers
these headers (`Frame.Covers`) may be padded with any bytes (`process_of_covers`).  A frame that is
dropped may be cut off behind its last header and is still dropped; one byte less, and it passes
and moves nothing (`verdict_of_cut_and_padded`).
-/

namespace VideoGate

open VideoFilter

/-- All headers that the filter reads on its way to a verdict lie inside the frame; up to where
that is, the headers themselves say. -/
structure Frame.Covers (frame : Frame) (tables : VideoTables) : Prop where
  ethernet : 14 ≤ frame.length
  network : frame.word 12 = 0x0800 → 34 ≤ frame.length
  udp : frame.word 12 = 0x0800 → frame.byte 23 = 17 → 20 ≤ frame.networkLength →
    22 + frame.networkLength ≤ frame.length
  position : frame.IsPosition → 30 + frame.networkLength ≤ frame.length
  rtp : frame.IsUdp → frame.IsToVideoHost → 5000 ≤ frame.port → frame.port < 5200 →
    34 + frame.networkLength ≤ frame.length
  payload : frame.IsFiltered tables → 36 + frame.networkLength ≤ frame.length
  fragment : frame.IsFiltered tables → frame.nalType = 49 →
    37 + frame.networkLength ≤ frame.length

/-- The payload of a camera that is not filtered does not matter. -/
theorem VideoFilter.decideVideo_congr {tables : VideoTables} {camera : UInt32}
    (h : ¬ tables.Filters camera) (payload payload' : VideoPayload) :
    decideVideo camera payload tables = decideVideo camera payload' tables := by
  have hoff := (activeMode_eq tables camera).1.trans ((FilterMode.ofRaw_eq_off_iff _).mpr h)
  simp only [decideVideo_eq]
  generalize activeMode camera tables = active at hoff ⊢
  obtain ⟨mode, looked⟩ := active
  cases hoff
  rfl

/-! ## Padding -/

section Padding

variable {frame longer : Frame} {tables : VideoTables} (h : frame <+: longer)
include h

theorem classify_of_covers_of_not_isUdp (hcovers : frame.Covers tables) (hudp : ¬ frame.IsUdp) :
    Traffic.classify longer = Traffic.classify frame := by
  have hlength := h.length_le
  have hethernet := hcovers.ethernet
  rw [Traffic.classify_eq_ite, Traffic.classify_eq_ite, Frame.word_of_isPrefix h (by omega)]
  by_cases hipv4 : frame.word 12 = 0x0800
  · have hnetwork := hcovers.network hipv4
    rw [if_pos ⟨by omega, hipv4⟩, if_pos ⟨hethernet, hipv4⟩, Traffic.ofIpv4_eq_ite,
      Traffic.ofIpv4_eq_ite, Frame.byte_of_isPrefix h (by omega),
      Frame.networkLength_of_isPrefix h (by omega)]
    by_cases hprotocol : frame.byte 23 = 17
    · have hshort : ¬ 20 ≤ frame.networkLength := fun hip =>
        hudp ⟨hnetwork, hipv4, hprotocol, hip, hcovers.udp hipv4 hprotocol hip⟩
      rw [if_pos ⟨by omega, hprotocol⟩, if_neg hshort, if_pos ⟨hnetwork, hprotocol⟩, if_neg hshort]
    · rw [if_neg fun hc => hprotocol hc.2, if_neg fun hc => hprotocol hc.2]
  · rw [if_neg fun hc => hipv4 hc.2, if_neg fun hc => hipv4 hc.2]

/-- A packet of another RTP version stays one. -/
theorem ofRtp_of_isPrefix (camera : UInt32)
    (hlength : 34 + frame.networkLength ≤ frame.length)
    (hversion : frame.byte (22 + frame.networkLength) / 64 ≠ 2) :
    Traffic.ofRtp longer camera (UInt64.ofNat (22 + frame.networkLength)) =
      Traffic.ofRtp frame camera (UInt64.ofNat (22 + frame.networkLength)) := by
  have hlonger := h.length_le
  have hrtp := Traffic.ofRtp_eq_ite longer camera
  rw [Frame.networkLength_of_isPrefix h (by omega), Frame.byte_of_isPrefix h (by omega)] at hrtp
  rw [hrtp, Traffic.ofRtp_eq_ite, if_pos hlength, if_pos (by omega)]
  simp only [hversion, if_false]

theorem classify_of_covers_of_isUdp (hcovers : frame.Covers tables) (hudp : frame.IsUdp)
    (hvideo : ∀ camera, ¬ frame.IsVideo camera) :
    Traffic.classify longer = Traffic.classify frame := by
  have hheaders := hudp.headers
  have hcomplete := hudp.udp
  have hbound := frame.networkLength_le
  have hnetwork := Frame.networkLength_of_isPrefix h (by omega)
  have hip := Frame.header_of_isPrefix h Wire.Ipv4Header 14 hheaders
  have hheader := Frame.header_of_isPrefix h Wire.UdpHeader (14 + frame.networkLength)
    (by show _ + 8 ≤ _; omega)
  rw [Traffic.classify_of_isUdp (hudp.of_isPrefix h), Traffic.classify_of_isUdp hudp,
    Frame.port_of_isPrefix h hudp, hnetwork, hip, hheader]
  by_cases hport : frame.port = 5555
  · have hrecord := hcovers.position ⟨hudp, hport⟩
    rw [if_pos hport, if_pos hport, Frame.read?_congr_of_isPrefix h Position
      (22 + frame.networkLength) (by show _ + 8 < _; unfold UInt64.size; omega)
      (by show _ + 8 ≤ _; omega)]
  rw [if_neg hport, if_neg hport]
  by_cases hhost : (frame.header Wire.Ipv4Header 14).destination = videoHost
  case neg => rw [if_pos hhost, if_pos hhost]
  rw [if_neg (not_not_intro hhost), if_neg (not_not_intro hhost)]
  split
  · rfl
  · -- To a camera's port, but no video: it must be the version that is another.
    rename_i camera hcamera
    obtain ⟨hcameraPort, hrange⟩ := (Traffic.cameraOfPort?_destination_eq_some_iff frame).mp hcamera
    have hhost := (Traffic.destination_eq_videoHost_iff frame).mp hhost
    have hrtp := hcovers.rtp hudp hhost (by omega) (by omega)
    refine ofRtp_of_isPrefix h camera hrtp ?_
    intro hversion
    exact hvideo camera ⟨hudp, hhost, hcameraPort, hrange, hrtp, hversion⟩

/-- **What is covered is all that matters**: bytes behind it change neither the verdict nor the
tables. -/
theorem process_of_covers (hcovers : frame.Covers tables) :
    process longer tables = process frame tables := by
  by_cases hudp : frame.IsUdp
  case neg =>
    simp only [process_eq]
    rw [classify_of_covers_of_not_isUdp h hcovers hudp]
  by_cases hvideo : ∃ camera, frame.IsVideo camera
  case neg =>
    simp only [process_eq]
    rw [classify_of_covers_of_isUdp h hcovers hudp (not_exists.mp hvideo)]
  obtain ⟨camera, hvideo⟩ := hvideo
  have hheaders := hudp.headers
  have hclass := (Traffic.classify_eq_video_iff frame).mpr ⟨hvideo, rfl⟩
  have hclass' := (Traffic.classify_eq_video_iff longer).mpr ⟨hvideo.of_isPrefix h, rfl⟩
  rw [Frame.networkLength_of_isPrefix h (by omega)] at hclass'
  simp only [process_eq]
  rw [hclass, hclass']
  by_cases hfilters : tables.Filters camera
  · have hfiltered : frame.IsFiltered tables := ⟨camera, hvideo, hfilters⟩
    have hneeded : frame.neededLength ≤ frame.length := by
      unfold Frame.neededLength
      split
      · exact hcovers.fragment hfiltered ‹_›
      · exact hcovers.payload hfiltered
    rw [Frame.payloadAt_of_isPrefix h hneeded]
  · -- The headers of the payload may be incomplete here: nobody looks at them.
    have hkept := VideoTables.uncounted_countAll
      (.stageEntries :: .totalPackets :: countedOnTheWay (.video camera .truncated)) tables
    exact decideVideo_congr (mt (VideoTables.filters_iff_of_uncounted hkept camera).mp hfilters) _ _

end Padding

/-! ## Cutting -/

section Cutting

variable {frame : Frame} {tables : VideoTables}

theorem Frame.IsFiltered.covers (hfiltered : frame.IsFiltered tables)
    (hneeded : frame.neededLength ≤ frame.length) : frame.Covers tables := by
  have hheader := frame.le_neededLength
  obtain ⟨camera, hvideo, -⟩ := hfiltered
  have hheaders := hvideo.headers
  constructor
  case ethernet => omega
  case network => exact fun _ => hheaders
  case udp => exact fun _ _ _ => hvideo.udp
  case position => exact fun hposition => absurd hposition hvideo.not_isPosition
  case rtp => exact fun _ _ _ _ => hvideo.rtp
  case payload => exact fun _ => Nat.le_trans hheader hneeded
  case fragment =>
    intro _ htype
    rwa [neededLength, if_pos htype] at hneeded

theorem Frame.IsFiltered.take (hfiltered : frame.IsFiltered tables) {count : Nat}
    (hcount : frame.neededLength ≤ count) (hneeded : frame.neededLength ≤ frame.length) :
    Frame.IsFiltered (frame.take count) tables ∧
      Frame.neededLength (frame.take count) ≤ (frame.take count).length := by
  have hprefix : frame.take count <+: frame := List.take_prefix count frame
  have hheader := frame.le_neededLength
  have hlength : frame.neededLength ≤ (frame.take count).length := by
    rw [List.length_take]
    exact Nat.le_min.mpr ⟨hcount, hneeded⟩
  have hnetwork := networkLength_of_isPrefix hprefix (by omega)
  obtain ⟨camera, hvideo, hfilters⟩ := hfiltered
  refine ⟨⟨camera, hvideo.cut hprefix (by omega), hfilters⟩, ?_⟩
  rwa [← neededLength_of_isPrefix hprefix (by omega)]

/-- A filtered packet whose headers are cut off passes, and leaves nothing behind but counts. -/
theorem Frame.IsFiltered.pass_of_cut (hfiltered : frame.IsFiltered tables) {count : Nat}
    (hcount : count < frame.neededLength) :
    (process (frame.take count) tables).1 = .pass ∧
      (process (frame.take count) tables).2.uncounted = tables.uncounted := by
  have hprefix : frame.take count <+: frame := List.take_prefix count frame
  obtain ⟨camera, hvideo, -⟩ := hfiltered
  have hposition : ¬ Frame.IsPosition (frame.take count) :=
    fun hposition => hvideo.not_isPosition (hposition.of_isPrefix hprefix)
  have hshows : ∀ piece, ¬ Frame.Shows (frame.take count) tables piece := by
    rintro piece ⟨-, hpiece⟩
    have hneeded := (isSome_piece?_iff _).mp (Option.isSome_of_eq_some hpiece)
    have hheader := le_neededLength (frame.take count)
    have hlength := List.length_take_le count frame
    have hsame := neededLength_of_isPrefix hprefix (by omega)
    omega
  obtain ⟨hverdict, hkept⟩ := process_of_not_shows hposition hshows
  exact ⟨hverdict, hkept⟩

end Cutting

/-- **Cutting and padding.**  A frame that is dropped may be padded with any bytes, or cut off
behind its last header, and is dropped with the same effect; cut off in front of that, it passes
and only counters change.  A frame that is passed may be padded too, if it covers the headers that
its way through the filter reads. -/
theorem verdict_of_cut_and_padded (frame : Frame) (tables : VideoTables) :
    ((process frame tables).1 = .drop →
      (∀ padding, process (frame ++ padding) tables = (.drop, (process frame tables).2)) ∧
      (∀ count, frame.neededLength ≤ count →
        process (frame.take count) tables = (.drop, (process frame tables).2)) ∧
      (∀ count, count < frame.neededLength →
        (process (frame.take count) tables).1 = .pass ∧
          (process (frame.take count) tables).2.uncounted = tables.uncounted)) ∧
    ((process frame tables).1 = .pass → frame.Covers tables →
      ∀ padding, process (frame ++ padding) tables = (.pass, (process frame tables).2)) := by
  refine ⟨?dropped, ?passed⟩
  case dropped =>
    intro hdrop
    obtain ⟨piece, ⟨hfiltered, hpiece⟩, -⟩ := process_eq_drop_iff.mp hdrop
    have hneeded := frame.isSome_piece?_iff.mp (Option.isSome_of_eq_some hpiece)
    have hsame : process frame tables = (.drop, (process frame tables).2) := Prod.ext hdrop rfl
    rw [← hsame]
    refine ⟨?_, ?_, fun count hcount => hfiltered.pass_of_cut hcount⟩
    · intro padding
      exact process_of_covers (List.prefix_append frame padding) (hfiltered.covers hneeded)
    · intro count hcount
      obtain ⟨hfiltered, hneeded⟩ := hfiltered.take hcount hneeded
      exact (process_of_covers (List.take_prefix count frame) (hfiltered.covers hneeded)).symm
  case passed =>
    intro hpass hcovers padding
    exact (process_of_covers (List.prefix_append frame padding) hcovers).trans (Prod.ext hpass rfl)

/-- The first fragment of a P slice and an IDR picture, both of a filtered camera. -/
theorem verdict_of_cut_and_padded_fragment :
    let tables := VideoTables.empty.setCameraRaw 0 1
    let slice := (SampleFrame.video 0 (.fragment true false 1)).bytes
    let picture := (SampleFrame.video 0 (.nalUnit 19)).bytes
    (process slice tables).1 = .drop ∧ slice.neededLength = 57 ∧
      (process (slice ++ [7, 7]) tables).1 = .drop ∧
      (process (slice.take 57) tables).1 = .drop ∧
      (process (slice.take 56) tables).1 = .pass ∧
      (process picture tables).1 = .pass ∧ picture.Covers tables ∧
      (process (picture ++ [7, 7]) tables).1 = .pass := by
  intro tables slice picture
  obtain ⟨hdropped, -⟩ := verdict_of_cut_and_padded slice tables
  obtain ⟨-, hpassed⟩ := verdict_of_cut_and_padded picture tables
  have hdrop : (process slice tables).1 = .drop := by decide +kernel
  have hneeded : slice.neededLength = 57 := by decide +kernel
  obtain ⟨hpadded, hkept, hcut⟩ := hdropped hdrop
  have hpass : (process picture tables).1 = .pass := by decide +kernel
  have hfiltered : picture.IsFiltered tables := ⟨0, by decide +kernel, by decide +kernel⟩
  have hcovers : picture.Covers tables := hfiltered.covers (by decide +kernel)
  refine ⟨hdrop, hneeded, ?_, ?_, ?_, hpass, hcovers, ?_⟩
  · rw [hpadded]
  · rw [hkept 57 (Nat.le_of_eq hneeded)]
  · exact (hcut 56 (by omega)).1
  · rw [hpassed hpass hcovers]

end VideoGate
