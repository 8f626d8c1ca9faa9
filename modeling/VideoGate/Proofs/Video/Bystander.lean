import VideoGate.Proofs.Video.Simulation
import VideoGate.Proofs.Video.Stray
import VideoGate.Proofs.Video.Tracking

/-!
# Frames beside the video

What is dropped and forwarded depends on the modes, the flag and the video itself.  A frame that is
neither video nor a stray leaves all of that alone, except that a position writes modes.  So other
frames may be put into a run (`Interspersed`), positions in place of the modes that they write, and
the run drops and forwards as many frames as without them (`Interspersed.decidesAlike`).
-/

namespace VideoGate

open VideoStore VideoFilter

namespace VideoTables

/-- Tables that may differ in the last position and in what is counted besides the frames that
were dropped and forwarded. -/
structure DecidesAlike (a b : VideoTables) : Prop where
  cameras : a.cameras = b.cameras
  globalRaw : a.globalRaw = b.globalRaw
  globalReadable : a.globalReadable = b.globalReadable
  pFrame : a.pFrame = b.pFrame
  dropped : a.stat .dropped = b.stat .dropped
  forwarded : a.stat .forwarded = b.stat .forwarded

namespace DecidesAlike

variable {a b c : VideoTables}

theorem refl (tables : VideoTables) : DecidesAlike tables tables := ⟨rfl, rfl, rfl, rfl, rfl, rfl⟩

theorem trans (hab : DecidesAlike a b) (hbc : DecidesAlike b c) : DecidesAlike a c where
  cameras := hab.cameras.trans hbc.cameras
  globalRaw := hab.globalRaw.trans hbc.globalRaw
  globalReadable := hab.globalReadable.trans hbc.globalReadable
  pFrame := hab.pFrame.trans hbc.pFrame
  dropped := hab.dropped.trans hbc.dropped
  forwarded := hab.forwarded.trans hbc.forwarded

theorem count (stat : VideoStat) (h : DecidesAlike a b) :
    DecidesAlike (a.count stat) (b.count stat) where
  cameras := h.cameras
  globalRaw := h.globalRaw
  globalReadable := h.globalReadable
  pFrame := h.pFrame
  dropped := by rw [stat_count, stat_count, h.dropped]
  forwarded := by rw [stat_count, stat_count, h.forwarded]

theorem setCameraRaw (camera raw : UInt32) (h : DecidesAlike a b) :
    DecidesAlike (a.setCameraRaw camera raw) (b.setCameraRaw camera raw) where
  cameras := congrArg (fun cameras =>
    cameras.setIfInBounds camera.toNat { raw, present := true }) h.cameras
  globalRaw := h.globalRaw
  globalReadable := h.globalReadable
  pFrame := h.pFrame
  dropped := h.dropped
  forwarded := h.forwarded

theorem removeCamera (camera : UInt32) (h : DecidesAlike a b) :
    DecidesAlike (a.removeCamera camera) (b.removeCamera camera) := by
  unfold VideoTables.removeCamera
  rw [h.cameras]
  cases b.cameras[camera.toNat]? with
  | none => exact h
  | some entry =>
      exact ⟨rfl, h.globalRaw, h.globalReadable, h.pFrame, h.dropped, h.forwarded⟩

/-- Nothing else is asked by the filter. -/
theorem stores : VideoStoresAlike DecidesAlike where
  count stat _ _ h := h.count stat
  cameraMode camera _ _ h := cameraRaw?_congr h.cameras camera
  setCameraMode camera mode _ _ h := h.setCameraRaw camera mode.toRaw
  globalMode h := by
    show (if _ then some _ else none) = if _ then some _ else none
    rw [h.globalReadable, h.globalRaw]
  pFrameInProgress h := h.pFrame
  setPFrameInProgress _ _ _ h :=
    ⟨h.cameras, h.globalRaw, h.globalReadable, rfl, h.dropped, h.forwarded⟩
  recordPosition _ _ _ h :=
    ⟨h.cameras, h.globalRaw, h.globalReadable, h.pFrame, h.dropped, h.forwarded⟩

/-- The same event keeps tables alike. -/
theorem step (h : DecidesAlike a b) (event : FilterEvent) :
    DecidesAlike (event.step a) (event.step b) := by
  cases event with
  | arrival frame => exact (process_alike stores rfl h).rest
  | setCamera camera raw => exact h.setCameraRaw camera raw
  | removeCamera camera => exact h.removeCamera camera
  | setGlobal raw => exact ⟨h.cameras, rfl, h.globalReadable, h.pFrame, h.dropped, h.forwarded⟩

theorem of_countAll {entries : List VideoStat} (hdropped : .dropped ∉ entries)
    (hforwarded : .forwarded ∉ entries) (tables : VideoTables) :
    DecidesAlike tables (countAll entries tables) := by
  have hkept := (uncounted_countAll entries tables).symm
  exact ⟨congrArg (·.cameras) hkept, congrArg (·.globalRaw) hkept,
    congrArg (·.globalReadable) hkept, congrArg (·.pFrame) hkept,
    (stat_countAll_of_not_mem hdropped tables).symm,
    (stat_countAll_of_not_mem hforwarded tables).symm⟩

end DecidesAlike

end VideoTables

open VideoTables

/-! ## Frames without an effect on the video -/

/-- No stray, no video, and no complete position record. -/
structure Frame.IsBystander (frame : Frame) : Prop where
  not_isStray : ¬ frame.IsStray
  not_isVideo : ∀ camera, ¬ frame.IsVideo camera
  positionRecord? : frame.positionRecord? = none

theorem Frame.IsBystander.decidesAlike {frame : Frame} (h : frame.IsBystander)
    (tables : VideoTables) : DecidesAlike tables (process frame tables).2 := by
  have hstray := mt Traffic.classify_mem_strays_iff.mp h.not_isStray
  simp only [process_eq]
  cases hclass : Traffic.classify frame with
  | notIpv4 | notUdp | malformedIpv4 | otherHost | otherPort =>
      exact absurd (hclass ▸ by decide) hstray
  | noCamera => exact absurd hclass (Traffic.classify_ne_noCamera frame)
  | truncatedUdp | truncatedRtp | otherVersion =>
      exact .of_countAll (by decide) (by decide) tables
  | video camera payload =>
      exact absurd ((Traffic.classify_eq_video_iff frame).mp hclass).1 (h.not_isVideo camera)
  | position record =>
      have hposition := ((Traffic.classify_eq_position_iff frame).mp hclass).1
      rw [Traffic.classify_of_no_positionRecord h.positionRecord? hposition] at hclass
      cases hclass
      exact .of_countAll (by decide) (by decide) tables

/-! ## Positions -/

/-- The modes that a position writes, as writes from outside. -/
def Position.writes (position : Position) : List FilterEvent :=
  if position.inRange then
    (Camera.modesAt position).map fun entry => .setCamera entry.1 entry.2.toRaw
  else []

namespace VideoTables.DecidesAlike

variable {a b : VideoTables}

/-- Taking in a position does to the video what the writes of its modes do. -/
theorem position_writes (h : DecidesAlike a b) (position : Position) :
    DecidesAlike (position.writes.foldl FilterEvent.step a) (applyPosition position b).2 := by
  have hrecorded : DecidesAlike a (recordPosition position b) :=
    h.trans ⟨rfl, rfl, rfl, rfl, rfl, rfl⟩
  unfold Position.writes VideoStore.applyPosition
  cases hrange : position.inRange with
  | false => exact hrecorded
  | true =>
      have hwrites : ((Camera.modesAt position).map fun entry =>
          FilterEvent.setCamera entry.1 entry.2.toRaw).foldl FilterEvent.step a =
            writeModes position a := List.foldl_map
      have hmodes := writeModes_alike stores position hrecorded
      rw [if_pos rfl, if_pos rfl, hwrites]
      have hcounted : DecidesAlike (writeModes position (recordPosition position b))
          (countAll [.positionsApplied] (writeModes position (recordPosition position b))) :=
        .of_countAll (by decide) (by decide) _
      exact hmodes.trans hcounted

theorem process_of_positionRecord (h : DecidesAlike a b) {frame : Frame} {position : Position}
    (hrecord : frame.positionRecord? = some (position.x.toNat, position.y.toNat)) :
    DecidesAlike (position.writes.foldl FilterEvent.step a) (process frame b).2 := by
  obtain ⟨other, hclass, hx, hy⟩ := Traffic.classify_of_positionRecord hrecord
  have hother : other = position := by
    cases other
    cases position
    rw [Position.mk.injEq]
    exact ⟨UInt32.toNat_inj.mp hx, UInt32.toNat_inj.mp hy⟩
  have hcounted : DecidesAlike a (countAll (.stageEntries :: .totalPackets ::
      countedOnTheWay (.position (some position))) b) :=
    h.trans (.of_countAll (by simp [countedOnTheWay]) (by simp [countedOnTheWay]) b)
  simp only [process_eq]
  rw [hclass, hother]
  exact hcounted.position_writes position

end VideoTables.DecidesAlike

/-! ## Other frames put in -/

/-- The second run is the first one with frames put in that are neither video nor strays.  A
position comes in place of the modes that it writes. -/
inductive Interspersed : List FilterEvent → List FilterEvent → Prop
  | nil : Interspersed [] []
  | keep (event : FilterEvent) {events others : List FilterEvent} :
      Interspersed events others → Interspersed (event :: events) (event :: others)
  | bystander {frame : Frame} {events others : List FilterEvent} : frame.IsBystander →
      Interspersed events others → Interspersed events (.arrival frame :: others)
  | position {frame : Frame} {position : Position} {events others : List FilterEvent} :
      frame.positionRecord? = some (position.x.toNat, position.y.toNat) →
      Interspersed events others →
        Interspersed (position.writes ++ events) (.arrival frame :: others)

/-- **Frames beside the video do not show**: as many frames are dropped and forwarded as without
them. -/
theorem Interspersed.decidesAlike {events others : List FilterEvent}
    (h : Interspersed events others) {a b : VideoTables} (hab : DecidesAlike a b) :
    DecidesAlike (events.foldl FilterEvent.step a) (others.foldl FilterEvent.step b) := by
  induction h generalizing a b with
  | nil => exact hab
  | keep event _ ih => exact ih (hab.step event)
  | bystander hframe _ ih => exact ih (hab.trans (hframe.decidesAlike b))
  | position hrecord _ ih =>
      rw [List.foldl_append]
      exact ih (hab.process_of_positionRecord hrecord)

end VideoGate
