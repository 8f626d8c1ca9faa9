import Mathlib.Data.List.Induction
import VideoGate.Proofs.Video.Separation

/-!
# The cameras follow the tracked object

Whatever else arrives, the table of cameras is a function of the position records among the
frames, and of these only the last one that was accepted counts.  `VideoTables.Follows` says what
the tables hold after some records; a frame moves them as its record says, or not at all
(`Follows.process`), and so the tables follow the records of every sequence of frames
(`tablesAfter_follow_records`).
-/

namespace VideoGate

open VideoStore VideoFilter

/-! ## Position records -/

/-- The position record on the bytes of a frame, if it is there in full: two long words behind the
UDP header of a packet to the position port. -/
def Frame.positionRecord? (frame : Frame) : Option (Nat × Nat) :=
  if frame.IsPosition ∧ 30 + frame.networkLength ≤ frame.length then
    some (frame.longWord (22 + frame.networkLength), frame.longWord (26 + frame.networkLength))
  else none

def recordsOf (frames : List Frame) : List (Nat × Nat) := frames.filterMap Frame.positionRecord?

/-- A record is accepted if both its words lie below 1000. -/
def isAccepted (record : Nat × Nat) : Bool := record.1 < 1000 && record.2 < 1000

def lastAccepted? (records : List (Nat × Nat)) : Option (Nat × Nat) :=
  (records.filter isAccepted).getLast?

/-- The mode of a camera when this is the last record that was accepted: of the cameras that watch
a strip, the two that see the object are not filtered, and all others are. -/
def modeFollowing : Option (Nat × Nat) → Nat → FilterMode
  | none, _ => .off
  | some (x, y), camera =>
    if camera < 100 ∧ camera ≠ y / 20 ∧ camera ≠ 50 + x / 20 then .dropP else .off

namespace VideoTables

/-- What the tables hold of the records so far: the last one as the position, accepted or not, the
number of those that were accepted, and the cameras as the last accepted one puts them.  The
counter stops at its largest word. -/
structure Follows (records : List (Nat × Nat)) (tables : VideoTables) : Prop where
  position : (tables.position.x.toNat, tables.position.y.toNat) = records.getLast?.getD (0, 0)
  applied : (tables.stat .positionsApplied).toNat =
    min (records.countP isAccepted) (UInt64.size - 1)
  cameras : ∀ camera : UInt32, camera.toNat < 200 →
    tables.cameraRaw? camera =
      some (modeFollowing (lastAccepted? records) camera.toNat).toRaw

end VideoTables

/-! ## Frames with and without a record -/

theorem Frame.read?_position (frame : Frame) :
    read? Position frame (UInt64.ofNat (22 + frame.networkLength)) =
      if 30 + frame.networkLength ≤ frame.length then
        some (frame.header Position (22 + frame.networkLength))
      else none := by
  have hbound := frame.networkLength_le
  have hsize : 22 + frame.networkLength + Wire.WireHeader.size Position =
      30 + frame.networkLength := by
    show 22 + frame.networkLength + 8 = _
    omega
  rw [Frame.read?_ofNat Position frame (22 + frame.networkLength)
    (by unfold UInt64.size; omega), hsize]

namespace Traffic

variable {frame : Frame}

theorem classify_of_positionRecord {x y : Nat} (h : frame.positionRecord? = some (x, y)) :
    ∃ position : Position, classify frame = .position (some position) ∧
      position.x.toNat = x ∧ position.y.toNat = y := by
  have hread := frame.read?_position
  unfold Frame.positionRecord? at h
  split at h
  case isFalse => cases h
  case isTrue hrecord =>
    rw [if_pos hrecord.2] at hread
    refine ⟨_, (classify_eq_position_iff frame).mpr ⟨hrecord.1, hread⟩, ?_⟩
    cases h
    rw [Frame.toNat_x, Frame.toNat_y, Nat.add_right_comm]
    exact ⟨rfl, rfl⟩

theorem classify_of_no_positionRecord (h : frame.positionRecord? = none)
    (hposition : frame.IsPosition) : classify frame = .position none := by
  have hcut : ¬ 30 + frame.networkLength ≤ frame.length := by
    intro hcomplete
    rw [Frame.positionRecord?, if_pos ⟨hposition, hcomplete⟩] at h
    cases h
  have hread := frame.read?_position
  rw [if_neg hcut] at hread
  exact (classify_eq_position_iff frame).mpr ⟨hposition, hread⟩

end Traffic

section Frame

variable {frame : Frame} (tables : VideoTables)

/-- A frame without a record leaves the position, the cameras, and the number of positions that
were applied. -/
theorem process_of_no_positionRecord (h : frame.positionRecord? = none) :
    (process frame tables).2.position = tables.position ∧
      (process frame tables).2.cameras = tables.cameras ∧
      (process frame tables).2.stat .positionsApplied = tables.stat .positionsApplied := by
  by_cases hposition : frame.IsPosition
  · have hkept := VideoTables.uncounted_countAll
      (.stageEntries :: .totalPackets :: countedOnTheWay (.position none)) tables
    simp only [process_eq]
    rw [Traffic.classify_of_no_positionRecord h hposition]
    exact ⟨congrArg (·.position) hkept, congrArg (·.cameras) hkept,
      VideoTables.stat_countAll_of_not_mem (by decide) tables⟩
  · obtain ⟨hcameras, hkept, hstats⟩ := keepsPositions_process tables hposition
    exact ⟨hkept, hcameras, hstats .positionsApplied (by decide)⟩

/-- A frame with a position takes it in; what is counted for its headers does not matter here. -/
theorem process_of_classify_position {position : Position}
    (h : Traffic.classify frame = .position (some position)) :
    ∃ counted : VideoTables,
      counted.position = tables.position ∧ counted.cameras = tables.cameras ∧
      counted.stat .positionsApplied = tables.stat .positionsApplied ∧
      process frame tables = (.pass, (applyPosition position counted).2) := by
  have hkept := VideoTables.uncounted_countAll
    (.stageEntries :: .totalPackets :: countedOnTheWay (.position none)) tables
  refine ⟨_, congrArg (·.position) hkept, congrArg (·.cameras) hkept,
    VideoTables.stat_countAll_of_not_mem (by decide) tables, ?_⟩
  simp only [process_eq]
  rw [h]
  rfl

theorem process_of_positionRecord {x y : Nat} (h : frame.positionRecord? = some (x, y)) :
    ∃ (position : Position) (counted : VideoTables),
      position.x.toNat = x ∧ position.y.toNat = y ∧
      counted.position = tables.position ∧ counted.cameras = tables.cameras ∧
      counted.stat .positionsApplied = tables.stat .positionsApplied ∧
      (process frame tables).2 = (applyPosition position counted).2 := by
  obtain ⟨position, hclass, hx, hy⟩ := Traffic.classify_of_positionRecord h
  obtain ⟨counted, hkept, hcameras, hstat, hstep⟩ := process_of_classify_position tables hclass
  exact ⟨position, counted, hx, hy, hkept, hcameras, hstat, congrArg Prod.snd hstep⟩

end Frame

/-! ## Following -/

theorem isAccepted_eq_inRange (position : Position) :
    isAccepted (position.x.toNat, position.y.toNat) = position.inRange := by
  rw [Bool.eq_iff_iff, position.inRange_iff, isAccepted, Bool.and_eq_true, decide_eq_true_iff,
    decide_eq_true_iff]

theorem lastAccepted?_concat (records : List (Nat × Nat)) (record : Nat × Nat) :
    lastAccepted? (records ++ [record]) =
      if isAccepted record then some record else lastAccepted? records := by
  unfold lastAccepted?
  rw [List.filter_append]
  by_cases haccepted : isAccepted record = true
  · rw [if_pos haccepted, List.filter_cons_of_pos haccepted]
    exact List.getLast?_concat
  · rw [if_neg haccepted, List.filter_cons_of_neg haccepted, List.filter_nil, List.append_nil]

theorem Camera.modeAt_eq_modeFollowing {position : Position} (h : position.inRange = true)
    {camera : UInt32} (hcamera : camera.toNat < 100) :
    modeAt camera position =
      modeFollowing (some (position.x.toNat, position.y.toNat)) camera.toNat := by
  have hsees := sees_iff camera h
  show (if sees camera position then FilterMode.off else FilterMode.dropP) =
    if camera.toNat < 100 ∧ camera.toNat ≠ position.y.toNat / 20 ∧
      camera.toNat ≠ 50 + position.x.toNat / 20 then FilterMode.dropP else FilterMode.off
  by_cases hseen : sees camera position = true
  · have hstrip := hsees.mp hseen
    rw [if_pos hseen, if_neg (by omega)]
  · have hstrip := mt hsees.mpr hseen
    rw [if_neg hseen, if_pos (by omega)]

/-- Cameras that watch no strip are never filtered. -/
theorem modeFollowing_of_le {camera : Nat} (h : 100 ≤ camera) (last? : Option (Nat × Nat)) :
    modeFollowing last? camera = .off := by
  cases last? with
  | none => rfl
  | some record => exact if_neg fun hwatching => absurd hwatching.1 (Nat.not_lt_of_le h)

namespace VideoTables

theorem cameraRaw?_congr {a b : VideoTables} (h : a.cameras = b.cameras) (camera : UInt32) :
    a.cameraRaw? camera = b.cameraRaw? camera := by
  unfold cameraRaw?
  rw [h]

namespace Follows

theorem empty : Follows [] empty where
  position := rfl
  applied := rfl
  cameras camera hcamera := by
    have hentry : VideoTables.empty.cameras[camera.toNat]? = some { raw := 0, present := true } :=
      Vector.getElem?_replicate.trans (if_pos hcamera)
    unfold cameraRaw?
    rw [hentry]
    rfl

variable {records : List (Nat × Nat)} {tables counted : VideoTables} {position : Position}

/-- The tables still follow if only other things change. -/
theorem congr (h : Follows records tables) (hposition : counted.position = tables.position)
    (hcameras : counted.cameras = tables.cameras)
    (hstat : counted.stat .positionsApplied = tables.stat .positionsApplied) :
    Follows records counted where
  position := by rw [hposition]; exact h.position
  applied := by rw [hstat]; exact h.applied
  cameras camera hcamera := (cameraRaw?_congr hcameras camera).trans (h.cameras camera hcamera)

/-- A position that is out of range is kept, and that is all. -/
theorem record_of_not_inRange (h : Follows records tables) (hrange : position.inRange = false) :
    Follows (records ++ [(position.x.toNat, position.y.toNat)])
      (applyPosition position tables).2 := by
  have hrefused := (isAccepted_eq_inRange position).trans hrange
  rw [applyPosition_of_not_inRange hrange]
  constructor
  case position => rw [List.getLast?_concat]; rfl
  case applied =>
    rw [List.countP_append, List.countP_singleton, hrefused]
    exact h.applied
  case cameras =>
    rw [lastAccepted?_concat, hrefused]
    exact h.cameras

/-- A position in range moves the cameras, and is counted. -/
theorem record_of_inRange (h : Follows records tables) (hrange : position.inRange = true) :
    Follows (records ++ [(position.x.toNat, position.y.toNat)])
      (applyPosition position tables).2 := by
  have haccepted := (isAccepted_eq_inRange position).trans hrange
  have hmodes := cameraRaw?_writeModes position tables
  rw [writeModes_eq] at hmodes
  rw [applyPosition_of_inRange hrange]
  constructor
  case position => rw [List.getLast?_concat]; rfl
  case applied =>
    rw [List.countP_append, List.countP_singleton, if_pos haccepted, stat_count_self,
      stat_withPosition, Counter.toNat_increment]
    exact (congrArg (fun count => min (count + 1) (UInt64.size - 1)) h.applied).trans (by omega)
  case cameras =>
    intro camera hcamera
    rw [lastAccepted?_concat, if_pos haccepted]
    refine (hmodes camera).trans ?_
    by_cases hwatching : camera.toNat < 100
    · rw [if_pos hwatching, Camera.modeAt_eq_modeFollowing hrange hwatching]
    · have hidle := Nat.le_of_not_lt hwatching
      rw [if_neg hwatching, modeFollowing_of_le hidle]
      exact (h.cameras camera hcamera).trans (by rw [modeFollowing_of_le hidle])

/-- **A frame moves the tables as its record says.** -/
theorem process (h : Follows records tables) (frame : Frame) :
    Follows (records ++ frame.positionRecord?.toList) (process frame tables).2 := by
  cases hrecord : frame.positionRecord? with
  | none =>
      obtain ⟨hposition, hcameras, hstat⟩ := process_of_no_positionRecord tables hrecord
      rw [Option.toList_none, List.append_nil]
      exact h.congr hposition hcameras hstat
  | some record =>
      obtain ⟨position, counted, hx, hy, hkept, hcameras, hstat, hstep⟩ :=
        process_of_positionRecord tables hrecord
      have hcounted := h.congr hkept hcameras hstat
      have hwords : record = (position.x.toNat, position.y.toNat) := Prod.ext hx.symm hy.symm
      rw [hstep, hwords, Option.toList_some]
      cases hrange : position.inRange with
      | false => exact hcounted.record_of_not_inRange hrange
      | true => exact hcounted.record_of_inRange hrange

end Follows

end VideoTables

/-- **The tables follow the records** of every sequence of frames, from fresh tables on. -/
theorem tablesAfter_follow_records (frames : List Frame) :
    VideoTables.Follows (recordsOf frames) (tablesAfter .empty frames) := by
  induction frames using List.reverseRecOn with
  | nil => exact .empty
  | append_singleton frames frame ih =>
      have hrecords : recordsOf (frames ++ [frame]) =
          recordsOf frames ++ frame.positionRecord?.toList := by
        unfold recordsOf
        rw [List.filterMap_append]
        cases hrecord : frame.positionRecord? with
        | none => rw [List.filterMap_cons_none hrecord]; rfl
        | some record => rw [List.filterMap_cons_some hrecord]; rfl
      have htables : tablesAfter .empty (frames ++ [frame]) =
          (process frame (tablesAfter .empty frames)).2 := List.foldl_concat ..
      rw [hrecords, htables]
      exact ih.process frame

end VideoGate
