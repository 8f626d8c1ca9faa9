import VideoGate.Proofs.Video.Accounts

/-!
# Stray frames

The filter also counts as forwarded what never came near a camera: frames that are no UDP packets,
and UDP packets for other hosts or ports.  With these strays (`Frame.IsStray`) what was dropped and
forwarded is more than the video that arrived: for one frame (`process_dropShare`) as for every
run (`run_dropShare`) the two differ by the number of strays.
-/

namespace VideoGate

open VideoFilter

namespace Frame

/-- A frame that is for no camera, brings no position, and is no UDP packet that was cut off. -/
structure IsStray (frame : Frame) : Prop where
  not_isCutAtUdp : ¬ frame.IsCutAtUdp
  not_isPosition : ¬ frame.IsPosition
  not_isToCamera : ¬ frame.IsToCamera

instance (frame : Frame) : Decidable frame.IsStray :=
  decidable_of_iff (¬ frame.IsCutAtUdp ∧ ¬ frame.IsPosition ∧ ¬ frame.IsToCamera)
    ⟨fun ⟨h1, h2, h3⟩ => ⟨h1, h2, h3⟩, fun ⟨h1, h2, h3⟩ => ⟨h1, h2, h3⟩⟩

end Frame

/-! ## The classes of strays -/

namespace Traffic

/-- The classes that are forwarded before a camera is looked for. -/
def strays : List Traffic := [.notIpv4, .notUdp, .malformedIpv4, .otherHost, .otherPort]

variable {frame : Frame}

theorem ofRtp_not_mem_strays (camera : UInt32) :
    ofRtp frame camera (UInt64.ofNat (22 + frame.networkLength)) ∉ strays := by
  rw [ofRtp_eq_ite]
  split
  · split <;> simp [strays]
  · simp [strays]

/-- **Strays are recognised by their bytes.** -/
theorem classify_mem_strays_iff : classify frame ∈ strays ↔ frame.IsStray := by
  constructor
  · intro h
    constructor
    case not_isCutAtUdp =>
      intro hcut
      rw [(classify_eq_truncatedUdp_iff frame).mpr hcut] at h
      exact absurd h (by decide)
    case not_isPosition =>
      intro hposition
      rw [(classify_eq_position_iff frame).mpr ⟨hposition, rfl⟩] at h
      exact absurd h (by simp [strays])
    case not_isToCamera =>
      intro hcamera
      obtain ⟨camera, hclass⟩ := classify_of_isToCamera hcamera
      exact ofRtp_not_mem_strays camera (hclass ▸ h)
  · intro h
    cases hclass : classify frame with
    | notIpv4 | notUdp | malformedIpv4 | otherHost | otherPort => simp [strays]
    | noCamera => exact absurd hclass (classify_ne_noCamera frame)
    | truncatedUdp =>
        exact absurd ((classify_eq_truncatedUdp_iff frame).mp hclass) h.not_isCutAtUdp
    | position record =>
        exact absurd ((classify_eq_position_iff frame).mp hclass).1 h.not_isPosition
    | truncatedRtp | otherVersion | video camera payload =>
        have hudp := isUdp_of_classify frame hclass (by simp) (by simp) (by simp) (by simp)
        have hcamera := isToCamera_of_classify hclass hudp (by simp) (by simp) (by simp)
        exact absurd hcamera h.not_isToCamera

end Traffic

/-! ## What strays add -/

/-- Of some arrivals so many were dropped, forwarded, and packets of cameras, and so many were
strays. -/
structure DropShare (dropped forwarded rtpPackets arrivals strays : Nat) : Prop where
  decided : dropped + forwarded = rtpPackets + strays
  le_arrivals : dropped + forwarded ≤ arrivals

theorem DropShare.add {dropped forwarded rtpPackets arrivals strays dropped' forwarded' rtpPackets'
      arrivals' strays' : Nat}
    (h : DropShare dropped forwarded rtpPackets arrivals strays)
    (h' : DropShare dropped' forwarded' rtpPackets' arrivals' strays') :
    DropShare (dropped + dropped') (forwarded + forwarded') (rtpPackets + rtpPackets')
      (arrivals + arrivals') (strays + strays') := by
  obtain ⟨hdecided, hle⟩ := h
  obtain ⟨hdecided', hle'⟩ := h'
  constructor <;> omega

/-- What some events come to for the drop share. -/
def DropShare.OfEntries (entries : List VideoStat) (arrivals strays : Nat) : Prop :=
  DropShare (entries.count .dropped) (entries.count .forwarded) (entries.count .rtpPackets)
    arrivals strays

/-- **The events of one frame**: video is dropped or forwarded, and so is a stray. -/
theorem VideoFilter.Booked.dropShare {traffic : Traffic} {verdict : Disposition}
    {entries : List VideoStat} (h : Booked traffic verdict entries) :
    DropShare.OfEntries (.stageEntries :: .totalPackets :: countedOnTheWay traffic ++ entries) 1
      (if traffic ∈ Traffic.strays then 1 else 0) := by
  cases h with
  | forwarded htraffic =>
      simp only [List.mem_cons, List.not_mem_nil, or_false] at htraffic
      rcases htraffic with rfl | rfl | rfl | rfl | rfl <;> constructor <;> decide
  | ignored htraffic =>
      simp only [List.mem_cons, List.not_mem_nil, or_false] at htraffic
      rcases htraffic with rfl | rfl | rfl <;> constructor <;> decide
  | position record applied =>
      have hstray : Traffic.position record ∉ Traffic.strays := by simp [Traffic.strays]
      rw [if_neg hstray]
      cases applied <;> constructor <;> simp only [countedOnTheWay] <;> decide
  | unfiltered camera payload missed =>
      have hstray : Traffic.video camera payload ∉ Traffic.strays := by simp [Traffic.strays]
      rw [if_neg hstray]
      cases missed <;> constructor <;> simp only [countedOnTheWay] <;> decide
  | filtered camera payload missed starts verdict hmode =>
      have hstray : Traffic.video camera payload ∉ Traffic.strays := by simp [Traffic.strays]
      rw [if_neg hstray]
      rcases hmode with rfl | rfl <;> cases missed <;> cases starts <;> cases verdict <;>
        constructor <;> simp only [countedOnTheWay] <;> decide

theorem process_dropShare (frame : Frame) (tables : VideoTables) :
    ∃ entries, tables.CountedAs entries (process frame tables).2 ∧
      DropShare.OfEntries entries [frame].length ([frame].countP fun frame => frame.IsStray) := by
  obtain ⟨entries, hbooked, hcounted⟩ := process_booked tables frame
  refine ⟨_, hcounted, ?_⟩
  have hshare := hbooked.dropShare
  simp only [Traffic.classify_mem_strays_iff] at hshare
  simpa only [List.length_singleton, List.countP_singleton, decide_eq_true_eq] using hshare

/-- **The events of a run.** -/
theorem run_dropShare (events : List FilterEvent) (tables : VideoTables) :
    ∃ entries, tables.CountedAs entries (events.foldl FilterEvent.step tables) ∧
      DropShare.OfEntries entries (framesOf events).length
        ((framesOf events).countP fun frame => frame.IsStray) := by
  refine run_of_frames (fun frames _ entries =>
    DropShare.OfEntries entries frames.length (frames.countP fun frame => frame.IsStray))
    ⟨rfl, Nat.le_refl 0⟩ ?_ process_dropShare events tables
  intro frames frames' verdicts verdicts' entries entries' hframes hframes'
  unfold DropShare.OfEntries
  simpa only [List.count_append, List.countP_append, List.length_append] using
    hframes.add hframes'

end VideoGate
