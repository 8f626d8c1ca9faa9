import VideoGate.Proofs.Video.Piece
import VideoGate.Table.Video
import VideoGate.Video.Filter

/-!
# One frame through the filter

What the filter does with a frame depends on little: whether the frame is a packet of a camera
whose video is filtered, and which piece it then shows (`Frame.Shows`).  Apart from the counters
such a frame can only move the flag (`process_of_shows`); every other frame but a position
packet leaves all the rest alone (`process_of_not_shows`), and a position packet is passed
without a look at the flag (`process_of_isPosition`).
-/

namespace VideoGate

open VideoStore VideoFilter

namespace VideoTables

/-- The raw mode that holds for a camera: its own, or else the global one, or else 0. -/
def effectiveRaw (tables : VideoTables) (camera : UInt32) : UInt32 :=
  (tables.cameraRaw? camera).getD (tables.globalRaw?.getD 0)

/-- Is the video of a camera filtered?  Both modes but `off` look at its pieces. -/
def Filters (tables : VideoTables) (camera : UInt32) : Prop :=
  tables.effectiveRaw camera = 1 ∨ tables.effectiveRaw camera = 2

instance (tables : VideoTables) (camera : UInt32) : Decidable (tables.Filters camera) :=
  inferInstanceAs (Decidable (_ ∨ _))

/-- The tables with all counters back at zero: what is held apart from them. -/
def uncounted (tables : VideoTables) : VideoTables :=
  { tables with stats := Vector.replicate _ 0 }

@[simp] theorem uncounted_count (stat : VideoStat) (tables : VideoTables) :
    (VideoStore.count stat tables).uncounted = tables.uncounted := rfl

@[simp] theorem uncounted_countAll (stats : List VideoStat) (tables : VideoTables) :
    (countAll stats tables).uncounted = tables.uncounted := by
  induction stats generalizing tables with
  | nil => rfl
  | cons stat stats ih => exact (ih _).trans (uncounted_count stat tables)

theorem pFrame_eq_of_uncounted {a b : VideoTables} (h : a.uncounted = b.uncounted) :
    a.pFrame = b.pFrame :=
  congrArg (·.pFrame) h

theorem filters_iff_of_uncounted {a b : VideoTables} (h : a.uncounted = b.uncounted)
    (camera : UInt32) : a.Filters camera ↔ b.Filters camera :=
  iff_of_eq (congrArg (·.Filters camera) h)

/-- The result of a decision about a piece, or about a frame that shows none: the verdict and
the flag are those of the piece, and all the rest but the counters is as before. -/
structure DecidedAs (shown : Option Piece) (tables : VideoTables)
    (result : Disposition × VideoTables) : Prop where
  verdict : result.1 = shown.elim .pass (·.disposition tables.pFrame)
  kept : result.2.uncounted =
    { tables.uncounted with pFrame := shown.elim tables.pFrame (·.inFrameAfter tables.pFrame) }

theorem DecidedAs.of_uncounted {shown : Option Piece} {a b : VideoTables}
    {result : Disposition × VideoTables} (h : DecidedAs shown a result)
    (hab : a.uncounted = b.uncounted) : DecidedAs shown b result := by
  have hflag := pFrame_eq_of_uncounted hab
  exact ⟨hflag ▸ h.verdict, hflag ▸ hab ▸ h.kept⟩

theorem DecidedAs.uncounted_eq {shown : Option Piece} {tables : VideoTables}
    {result : Disposition × VideoTables} (h : DecidedAs shown tables result) :
    result.2.uncounted = { tables.uncounted with pFrame := result.2.pFrame } := by
  have hflag : result.2.pFrame = _ := congrArg (·.pFrame) h.kept
  rw [h.kept, hflag]

theorem pFrame_removeCamera (tables : VideoTables) (camera : UInt32) :
    (tables.removeCamera camera).pFrame = tables.pFrame := by
  unfold removeCamera
  split <;> rfl

/-- Gives cameras their modes, one after the other, and makes their entries present. -/
def writeEntries (modes : List (UInt32 × FilterMode))
    (cameras : Vector CameraEntry Camera.capacity) : Vector CameraEntry Camera.capacity :=
  modes.foldl (fun cameras entry =>
    cameras.setIfInBounds entry.1.toNat { raw := entry.2.toRaw, present := true }) cameras

/-- The tables with a position and with the modes that belong to it. -/
def withPosition (tables : VideoTables) (position : Position) : VideoTables :=
  { tables with cameras := writeEntries (Camera.modesAt position) tables.cameras, position }

theorem stats_withPosition (tables : VideoTables) (position : Position) :
    (tables.withPosition position).stats = tables.stats := by
  unfold withPosition
  rfl

theorem stat_withPosition (tables : VideoTables) (position : Position) (stat : VideoStat) :
    (tables.withPosition position).stat stat = tables.stat stat := by
  unfold VideoTables.stat
  rw [stats_withPosition]

/-- Writing modes changes the cameras and nothing else. -/
theorem writeModes_eq (position : Position) (tables : VideoTables) :
    writeModes position tables =
      { tables with cameras := writeEntries (Camera.modesAt position) tables.cameras } := by
  unfold writeModes writeEntries
  induction Camera.modesAt position generalizing tables with
  | nil => rfl
  | cons entry entries ih => exact ih (setCameraMode entry.1 entry.2 tables)

theorem applyPosition_of_inRange {position : Position} (h : position.inRange = true)
    (tables : VideoTables) :
    applyPosition position tables =
      (true, (tables.withPosition position).count .positionsApplied) := by
  unfold applyPosition
  rw [if_pos h, writeModes_eq]
  rfl

theorem applyPosition_of_not_inRange {position : Position} (h : position.inRange = false)
    (tables : VideoTables) :
    applyPosition position tables = (false, { tables with position }) := by
  unfold applyPosition
  rw [h]
  rfl

/-- A position moves cameras; the flag and the global mode stay. -/
theorem uncounted_applyPosition (position : Position) (tables : VideoTables) :
    (applyPosition position tables).2.uncounted =
      { tables.uncounted with cameras := (applyPosition position tables).2.cameras, position } := by
  cases hrange : position.inRange with
  | false =>
      rw [applyPosition_of_not_inRange hrange]
      rfl
  | true =>
      rw [applyPosition_of_inRange hrange]
      unfold withPosition
      rfl

theorem pFrame_applyPosition (position : Position) (tables : VideoTables) :
    (applyPosition position tables).2.pFrame = tables.pFrame :=
  congrArg (·.pFrame) (uncounted_applyPosition position tables)

end VideoTables

/-! ## The parts of the filter -/

theorem Wire.isPSlice_eq (nalType : UInt8) : isPSlice nalType = isSliceType nalType.toNat := by
  rw [isPSlice, isSliceType, Bool.eq_iff_iff]
  simp [UInt8.le_iff_toNat_le]

theorem FilterMode.ofRaw_eq_off_iff (raw : UInt32) : ofRaw raw = .off ↔ ¬ (raw = 1 ∨ raw = 2) := by
  unfold ofRaw ofRaw?
  by_cases h0 : raw = 0
  · subst h0
    decide
  by_cases h1 : raw = 1
  · simp [h1]
  by_cases h2 : raw = 2
  · simp [h2]
  simp [h0, h1, h2]

namespace VideoFilter

open VideoTables

variable (tables : VideoTables)

theorem forward_decidedAs : DecidedAs none tables (forward tables) := ⟨rfl, rfl⟩

theorem activeMode_eq (camera : UInt32) :
    (activeMode camera tables).1 = .ofRaw (tables.effectiveRaw camera) ∧
      (activeMode camera tables).2.uncounted = tables.uncounted := by
  unfold activeMode effectiveRaw
  rw [show cameraMode camera tables = tables.cameraRaw? camera from rfl]
  cases tables.cameraRaw? camera with
  | some raw => exact ⟨rfl, rfl⟩
  | none =>
      refine ⟨?_, rfl⟩
      have hglobal : globalMode (VideoStore.count .lookupFailed tables) = tables.globalRaw? := rfl
      simp only [hglobal]
      cases tables.globalRaw? with
      | some raw => rfl
      | none => rfl

theorem decideFragment_decidedAs (header : Wire.FragmentHeader) :
    DecidedAs (VideoPayload.fragment header).piece? tables (decideFragment header tables) := by
  obtain ⟨stats, cameras, globalRaw, globalReadable, pFrame, position⟩ := tables
  have hslice : Wire.isPSlice header.innerType =
      (Piece.fragment header.isStart header.isEnd header.innerType.toNat).isSlice :=
    Wire.isPSlice_eq _
  unfold decideFragment VideoPayload.piece?
  rw [hslice]
  cases hpiece : (Piece.fragment header.isStart header.isEnd header.innerType.toNat).isSlice
  -- Only the flag, the two bits of the fragment and its type decide; the counters do not.
  all_goals
    constructor <;>
      simp only [Option.elim, Piece.disposition, Piece.inFrameAfter, Piece.isDropped, hpiece] <;>
      cases pFrame <;> cases header.isStart <;> cases header.isEnd <;> rfl

theorem decidePayload_decidedAs (payload : VideoPayload) :
    DecidedAs payload.piece? tables (decidePayload payload tables) := by
  cases payload with
  | truncated => exact forward_decidedAs tables
  | single nalType =>
      have hslice : Wire.isPSlice nalType = (Piece.whole nalType.toNat).isSlice :=
        Wire.isPSlice_eq nalType
      show DecidedAs (some (.whole nalType.toNat)) tables
        (if Wire.isPSlice nalType then dropSlice tables else forward tables)
      rw [hslice]
      cases hpiece : (Piece.whole nalType.toNat).isSlice
      all_goals
        constructor <;>
          simp only [Option.elim, Piece.disposition, Piece.inFrameAfter, Piece.isDropped,
            hpiece] <;>
          rfl
  | fragment header => exact decideFragment_decidedAs tables header

/-- Video of a camera that is not filtered is passed. -/
theorem decideVideo_of_not_filters {camera : UInt32} (h : ¬ tables.Filters camera)
    (payload : VideoPayload) : DecidedAs none tables (decideVideo camera payload tables) := by
  obtain ⟨hmode, hkept⟩ := activeMode_eq tables camera
  have hoff := hmode.trans ((FilterMode.ofRaw_eq_off_iff _).mpr h)
  simp only [decideVideo_eq]
  generalize activeMode camera tables = active at hoff hkept
  obtain ⟨mode, counted⟩ := active
  cases hoff
  exact (forward_decidedAs _).of_uncounted hkept

/-- Video of a filtered camera is decided by its payload. -/
theorem decideVideo_of_filters {camera : UInt32} (h : tables.Filters camera)
    (payload : VideoPayload) :
    DecidedAs payload.piece? tables (decideVideo camera payload tables) := by
  obtain ⟨hmode, hkept⟩ := activeMode_eq tables camera
  have hfilters : (activeMode camera tables).1 ≠ .off := by
    rw [hmode]
    intro hoff
    exact (FilterMode.ofRaw_eq_off_iff _).mp hoff h
  simp only [decideVideo_eq]
  generalize activeMode camera tables = active at hfilters hkept
  obtain ⟨mode, counted⟩ := active
  cases mode with
  | off => exact absurd rfl hfilters
  | dropP => exact (decidePayload_decidedAs _ payload).of_uncounted hkept
  | forwardP => exact (decidePayload_decidedAs _ payload).of_uncounted hkept

/-- Traffic that is neither a position nor video shows nothing. -/
theorem decideTraffic_decidedAs {traffic : Traffic}
    (hposition : ∀ record, traffic ≠ .position record)
    (hvideo : ∀ camera payload, traffic ≠ .video camera payload) :
    DecidedAs none tables (decideTraffic traffic tables) := by
  cases traffic with
  | position record => exact absurd rfl (hposition record)
  | video camera payload => exact absurd rfl (hvideo camera payload)
  | _ => exact ⟨rfl, rfl⟩

/-- A position is passed, and the flag stays. -/
theorem decideTraffic_position (record : Option Position) :
    (decideTraffic (.position record) tables).1 = .pass ∧
      (decideTraffic (.position record) tables).2.pFrame = tables.pFrame := by
  have hcounted := pFrame_eq_of_uncounted (uncounted_countAll
    (.stageEntries :: .totalPackets :: countedOnTheWay (.position record)) tables)
  cases record with
  | none => exact ⟨rfl, hcounted⟩
  | some position => exact ⟨rfl, (pFrame_applyPosition position _).trans hcounted⟩

end VideoFilter

/-! ## Whole frames -/

namespace Frame

/-- The frame is a packet of a camera whose video is filtered. -/
def IsFiltered (frame : Frame) (tables : VideoTables) : Prop :=
  ∃ camera, frame.IsVideo camera ∧ tables.Filters camera

/-- The frame is filtered, and this piece is on its bytes. -/
structure Shows (frame : Frame) (tables : VideoTables) (piece : Piece) : Prop where
  isFiltered : frame.IsFiltered tables
  piece_eq : frame.piece? = some piece

variable {frame : Frame} {tables : VideoTables} {piece : Piece}

theorem Shows.unique {other : Piece} (h : frame.Shows tables piece)
    (hother : frame.Shows tables other) : piece = other :=
  Option.some.inj (h.piece_eq.symm.trans hother.piece_eq)

theorem Shows.not_isPosition (h : frame.Shows tables piece) : ¬ frame.IsPosition := by
  obtain ⟨camera, hvideo, _⟩ := h.isFiltered
  exact hvideo.not_isPosition

end Frame

namespace VideoFilter

open VideoTables

variable {frame : Frame} {tables : VideoTables}

/-- **A piece of filtered video** is dropped or passed as the flag and the piece say, and
nothing but the flag and the counters changes. -/
theorem process_of_shows {piece : Piece} (h : frame.Shows tables piece) :
    DecidedAs (some piece) tables (process frame tables) := by
  obtain ⟨⟨camera, hvideo, hfilters⟩, hpiece⟩ := h
  have hclass := (Traffic.classify_eq_video_iff frame).mpr ⟨hvideo, rfl⟩
  have hkept := uncounted_countAll (.stageEntries :: .totalPackets :: countedOnTheWay
    (.video camera (Traffic.payloadAt frame (UInt64.ofNat (34 + frame.networkLength))))) tables
  have hfilters := (filters_iff_of_uncounted hkept camera).mpr hfilters
  simp only [process_eq]
  rw [hclass, ← hpiece, ← piece?_payloadAt]
  exact (decideVideo_of_filters _ hfilters _).of_uncounted hkept

/-- **A frame that shows nothing** is passed; unless it is a position packet, only counters
change. -/
theorem process_of_not_shows (hposition : ¬ frame.IsPosition)
    (h : ∀ piece, ¬ frame.Shows tables piece) :
    DecidedAs none tables (process frame tables) := by
  cases hclass : Traffic.classify frame with
  | position record =>
      exact absurd ((Traffic.classify_eq_position_iff frame).mp hclass).1 hposition
  | video camera payload =>
      obtain ⟨hvideo, hpayload⟩ := (Traffic.classify_eq_video_iff frame).mp hclass
      have hkept := uncounted_countAll
        (.stageEntries :: .totalPackets :: countedOnTheWay (.video camera payload)) tables
      simp only [process_eq]
      rw [hclass]
      by_cases hfilters : tables.Filters camera
      · have hnone : payload.piece? = none := by
          rw [← hpayload, piece?_payloadAt, Option.eq_none_iff_forall_ne_some]
          intro piece hpiece
          exact h piece ⟨⟨camera, hvideo, hfilters⟩, hpiece⟩
        rw [← hnone]
        exact (decideVideo_of_filters _ ((filters_iff_of_uncounted hkept camera).mpr hfilters)
          payload).of_uncounted hkept
      · have hoff := mt (filters_iff_of_uncounted hkept camera).mp hfilters
        exact (decideVideo_of_not_filters _ hoff payload).of_uncounted hkept
  | _ =>
      simp only [process_eq]
      rw [hclass]
      exact decideTraffic_decidedAs tables (by simp) (by simp)

/-- **A position packet** is passed, and the flag stays. -/
theorem process_of_isPosition (h : frame.IsPosition) :
    (process frame tables).1 = .pass ∧ (process frame tables).2.pFrame = tables.pFrame := by
  have hclass := (Traffic.classify_eq_position_iff frame).mpr ⟨h, rfl⟩
  simp only [process_eq]
  rw [hclass]
  exact decideTraffic_position tables _

/-- **Unless it is a position packet**, a frame changes nothing but the flag and the counters. -/
theorem uncounted_process (tables : VideoTables) (hposition : ¬ frame.IsPosition) :
    (process frame tables).2.uncounted =
      { tables.uncounted with pFrame := (process frame tables).2.pFrame } := by
  by_cases hshows : ∃ piece, frame.Shows tables piece
  · obtain ⟨piece, hpiece⟩ := hshows
    exact (process_of_shows hpiece).uncounted_eq
  · exact (process_of_not_shows hposition (not_exists.mp hshows)).uncounted_eq

/-- The modes that hold stay as they are, unless a position packet moves the cameras. -/
theorem filters_process (hposition : ¬ frame.IsPosition) :
    (process frame tables).2.Filters = tables.Filters := by
  have hkept := congrArg VideoTables.Filters (uncounted_process tables hposition)
  exact hkept

/-! ## Verdict and flag -/

theorem pFrame_process_of_shows {piece : Piece} (h : frame.Shows tables piece) :
    (process frame tables).2.pFrame = piece.inFrameAfter tables.pFrame :=
  congrArg (·.pFrame) (process_of_shows h).kept

theorem pass_of_not_shows (h : ∀ piece, ¬ frame.Shows tables piece) :
    (process frame tables).1 = .pass ∧ (process frame tables).2.pFrame = tables.pFrame := by
  by_cases hposition : frame.IsPosition
  · exact process_of_isPosition hposition
  · obtain ⟨hverdict, hkept⟩ := process_of_not_shows hposition h
    exact ⟨hverdict, congrArg (·.pFrame) hkept⟩

/-- Only pieces of filtered video are dropped. -/
theorem process_eq_drop_iff :
    (process frame tables).1 = .drop ↔
      ∃ piece, frame.Shows tables piece ∧ piece.isDropped tables.pFrame = true := by
  by_cases hshows : ∃ piece, frame.Shows tables piece
  · obtain ⟨piece, hpiece⟩ := hshows
    rw [(process_of_shows hpiece).verdict]
    refine piece.disposition_eq_drop_iff.trans ?_
    constructor
    · intro hdropped
      exact ⟨piece, hpiece, hdropped⟩
    · rintro ⟨other, hother, hdropped⟩
      rwa [hpiece.unique hother]
  · have hnone := not_exists.mp hshows
    rw [(pass_of_not_shows hnone).1]
    refine iff_of_false (by simp) ?_
    rintro ⟨piece, hpiece, _⟩
    exact hnone piece hpiece

end VideoFilter

end VideoGate
