import VideoGate.Proofs.Camera.Ingestion
import VideoGate.Proofs.Video.Booking
import VideoGate.Proofs.Video.Stream

/-!
# Positions and video side by side

Positions and video come through one filter and share its tables, but each works on a part of its
own.  A position packet, complete or cut off, leaves all that video works on (`KeepsVideo`), and
every other frame all that positions work on (`KeepsPositions`), whatever else is wrong or right
with it (`process_separates`).
-/

namespace VideoGate

open VideoStore VideoFilter

namespace VideoTables

/-- From one table to the other, what video works on stayed as it was. -/
structure KeepsVideo (before after : VideoTables) : Prop where
  pFrame : after.pFrame = before.pFrame
  globalRaw : after.globalRaw = before.globalRaw
  globalReadable : after.globalReadable = before.globalReadable
  stats : ∀ stat ∈ videoStats, after.stat stat = before.stat stat
  others : ∀ camera, 100 ≤ camera → after.cameras[camera]? = before.cameras[camera]?

/-- From one table to the other, what positions work on stayed as it was. -/
structure KeepsPositions (before after : VideoTables) : Prop where
  cameras : after.cameras = before.cameras
  position : after.position = before.position
  stats : ∀ stat ∈ positionStats, after.stat stat = before.stat stat

theorem CountedAs.stat_eq_of_not_mem {entries : List VideoStat} {before after : VideoTables}
    (h : CountedAs entries before after) {stat : VideoStat} (hstat : stat ∉ entries) :
    after.stat stat = before.stat stat :=
  (h.stat_eq stat).trans (stat_countAll_of_not_mem hstat before)

end VideoTables

open VideoTables

variable {frame : Frame} (tables : VideoTables)

/-- A position packet changes the position, watching cameras and counters. -/
theorem uncounted_process_of_isPosition (h : frame.IsPosition) :
    ∃ cameras position,
      (process frame tables).2.uncounted = { tables.uncounted with cameras, position } ∧
        ∀ camera, 100 ≤ camera → cameras[camera]? = tables.cameras[camera]? := by
  have hclass := (Traffic.classify_eq_position_iff frame).mpr ⟨h, rfl⟩
  let counted := countAll
    (.stageEntries :: .totalPackets :: countedOnTheWay (.position none)) tables
  have hheaders : counted.uncounted = tables.uncounted := uncounted_countAll _ tables
  simp only [process_eq]
  rw [hclass]
  cases read? Position frame (UInt64.ofNat (22 + frame.networkLength)) with
  | none =>
      refine ⟨tables.cameras, tables.position, hheaders, ?_⟩
      intro camera _
      rfl
  | some position =>
      refine ⟨(applyPosition position counted).2.cameras, position, ?_, ?_⟩
      · show (applyPosition position counted).2.uncounted = _
        rw [uncounted_applyPosition, hheaders]
      · intro camera hcamera
        exact (entry_applyPosition_of_le position _ hcamera).trans
          (congrArg (·.cameras[camera]?) hheaders)

theorem keepsVideo_process (h : frame.IsPosition) : KeepsVideo tables (process frame tables).2 := by
  obtain ⟨cameras, position, hkept, hothers⟩ := uncounted_process_of_isPosition tables h
  obtain ⟨entries, hbooked, hcounted⟩ := process_booked tables frame
  constructor
  case pFrame => exact congrArg (·.pFrame) hkept
  case globalRaw => exact congrArg (·.globalRaw) hkept
  case globalReadable => exact congrArg (·.globalReadable) hkept
  case stats =>
    intro stat hstat
    rw [(Traffic.classify_eq_position_iff frame).mpr ⟨h, rfl⟩] at hbooked hcounted
    exact hcounted.stat_eq_of_not_mem (hbooked.videoStats_not_mem stat hstat)
  case others =>
    intro camera hcamera
    exact (congrArg (·.cameras[camera]?) hkept).trans (hothers camera hcamera)

theorem keepsPositions_process (h : ¬ frame.IsPosition) :
    KeepsPositions tables (process frame tables).2 := by
  have hkept := uncounted_process tables h
  obtain ⟨entries, hbooked, hcounted⟩ := process_booked tables frame
  constructor
  case cameras => exact congrArg (·.cameras) hkept
  case position => exact congrArg (·.position) hkept
  case stats =>
    intro stat hstat
    apply hcounted.stat_eq_of_not_mem
    apply hbooked.positionStats_not_mem _ stat hstat
    intro record hclass
    exact h ((Traffic.classify_eq_position_iff frame).mp hclass).1

/-- **Positions and video do not disturb each other.** -/
theorem process_separates (frame : Frame) (tables : VideoTables) :
    (frame.IsPosition →
        (process frame tables).1 = .pass ∧ KeepsVideo tables (process frame tables).2) ∧
      (¬ frame.IsPosition → KeepsPositions tables (process frame tables).2) := by
  constructor
  · intro hposition
    exact ⟨(process_of_isPosition hposition).1, keepsVideo_process tables hposition⟩
  · intro hother
    exact keepsPositions_process tables hother

/-- A record whose last byte is missing, and video sent to the port behind those of the cameras. -/
theorem process_separates_at_the_edges :
    let record := SampleFrame.bytes
      { destination := videoHost, port := positionPort, parts := [.position 999 0] }
    let stray := SampleFrame.bytes
      { destination := videoHost, port := 5200, parts := [.rtp 2, .nalUnit 1] }
    let tables := VideoTables.empty.setCameraRaw 0 1
    ((process record.dropLast tables).1 = .pass ∧
        KeepsVideo tables (process record.dropLast tables).2) ∧
      KeepsPositions tables (process stray tables).2 := by
  intro record stray tables
  have hrecord := (process_separates record.dropLast tables).1
  have hstray := (process_separates stray tables).2
  exact ⟨hrecord (by decide +kernel), hstray (by decide +kernel)⟩

end VideoGate
