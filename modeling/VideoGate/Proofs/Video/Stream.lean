import Mathlib.Data.List.Basic
import VideoGate.Proofs.Video.NalUnit
import VideoGate.Proofs.Video.Step

/-!
# The stream of one camera

A list of frames is filtered one after another, and the packets of one camera among them are its
stream.  As long as no position packet and no fragment of another filtered camera comes between,
the flag tells at every frame whether a P slice of that stream is in progress, and so all
packets of a NAL unit share one fate (`streamTrace_of_units`).
-/

namespace VideoGate

open VideoFilter

/-! ## Runs over frames -/

/-- The tables after some frames. -/
def tablesAfter (tables : VideoTables) (frames : List Frame) : VideoTables :=
  frames.foldl (fun tables frame => (process frame tables).2) tables

/-- The frames with the verdicts on them. -/
def trace (tables : VideoTables) : List Frame → List (Frame × Disposition)
  | [] => []
  | frame :: frames =>
      (frame, (process frame tables).1) :: trace (process frame tables).2 frames

/-- The piece on a frame that is a packet of the camera. -/
def Frame.pieceOf? (camera : UInt32) (frame : Frame) : Option Piece :=
  if frame.IsVideo camera then frame.piece? else none

/-- The pieces that a camera sends, in order. -/
def stream (camera : UInt32) (frames : List Frame) : List Piece :=
  frames.filterMap (Frame.pieceOf? camera)

/-- The pieces that a camera sends, with the verdicts on them. -/
def streamTrace (camera : UInt32) (entries : List (Frame × Disposition)) :
    List (Piece × Disposition) :=
  entries.filterMap fun entry => (entry.1.pieceOf? camera).map fun piece => (piece, entry.2)

theorem Frame.pieceOf?_eq_some_iff {camera : UInt32} {frame : Frame} {piece : Piece} :
    frame.pieceOf? camera = some piece ↔ frame.IsVideo camera ∧ frame.piece? = some piece := by
  unfold pieceOf?
  by_cases hvideo : frame.IsVideo camera
  · simp [hvideo]
  · simp [hvideo]

section Cons

variable {camera : UInt32} {frame : Frame} {frames : List Frame} {verdict : Disposition}
  {entries : List (Frame × Disposition)}

theorem stream_cons_of_none (h : frame.pieceOf? camera = none) :
    stream camera (frame :: frames) = stream camera frames :=
  List.filterMap_cons_none h

theorem stream_cons_of_some {piece : Piece} (h : frame.pieceOf? camera = some piece) :
    stream camera (frame :: frames) = piece :: stream camera frames :=
  List.filterMap_cons_some h

theorem streamTrace_cons_of_none (h : frame.pieceOf? camera = none) :
    streamTrace camera ((frame, verdict) :: entries) = streamTrace camera entries :=
  List.filterMap_cons_none (by simp [h])

theorem streamTrace_cons_of_some {piece : Piece} (h : frame.pieceOf? camera = some piece) :
    streamTrace camera ((frame, verdict) :: entries) =
      (piece, verdict) :: streamTrace camera entries :=
  List.filterMap_cons_some (by simp [h])

end Cons

/-! ## One camera among others -/

/-- The frame leaves the stream of a camera alone: it is no position packet, and no fragment of
another camera that is filtered. -/
structure Frame.Spares (frame : Frame) (tables : VideoTables) (camera : UInt32) : Prop where
  not_isPosition : ¬ frame.IsPosition
  not_isFragment : ∀ other piece, other ≠ camera → tables.Filters other →
    frame.pieceOf? other = some piece → piece.isFragment = false

/-- The verdict that the type of the unit calls for. -/
def dispositionOf (nalType : Nat) : Disposition := if isSliceType nalType then .drop else .pass

theorem Piece.disposition_of_fits {current : Option Nat} {piece : Piece} (h : piece.Fits current) :
    piece.disposition (current.any isSliceType) = dispositionOf piece.nalType := by
  rw [disposition, h.isDropped_eq]
  rfl

variable {camera : UInt32} {tables : VideoTables}

theorem Frame.Spares.process {frame other : Frame} (h : frame.Spares tables camera)
    (hposition : ¬ other.IsPosition) : frame.Spares (process other tables).2 camera := by
  refine ⟨h.not_isPosition, ?_⟩
  rw [filters_process hposition]
  exact h.not_isFragment

theorem Frame.Spares.of_own_or_no_fragment {frame : Frame} (hposition : ¬ frame.IsPosition)
    (h : frame.IsVideo camera ∨ frame.piece?.any Piece.isFragment = false) :
    frame.Spares tables camera := by
  refine ⟨hposition, ?_⟩
  intro other piece hne _ hother
  obtain ⟨hvideo, hpiece⟩ := Frame.pieceOf?_eq_some_iff.mp hother
  rcases h with hown | hfragment
  · exact absurd (hvideo.camera_unique hown) hne
  · rwa [hpiece] at hfragment

/-- Whatever spares the stream without belonging to it leaves the flag alone. -/
theorem pFrame_process_of_spares {frame : Frame} (h : frame.Spares tables camera)
    (hnone : frame.pieceOf? camera = none) : (process frame tables).2.pFrame = tables.pFrame := by
  by_cases hshows : ∃ piece, frame.Shows tables piece
  · obtain ⟨piece, hpiece⟩ := hshows
    obtain ⟨other, hvideo, hfilters⟩ := hpiece.isFiltered
    have hother : frame.pieceOf? other = some piece :=
      Frame.pieceOf?_eq_some_iff.mpr ⟨hvideo, hpiece.piece_eq⟩
    have hne : other ≠ camera := by
      rintro rfl
      cases hnone.symm.trans hother
    rw [pFrame_process_of_shows hpiece]
    cases piece with
    | whole nalType => rfl
    | fragment isFirst isLast nalType => cases h.not_isFragment other _ hne hfilters hother
  · exact (pass_of_not_shows (not_exists.mp hshows)).2

/-- **The run of a stream.**  If the flag tells about the unit in progress, each piece is judged
by its own type, and a complete stream leaves the flag clear. -/
theorem streamTrace_of_completes (frames : List Frame) {current : Option Nat}
    (hfilters : tables.Filters camera) (hflag : tables.pFrame = current.any isSliceType)
    (hspares : ∀ frame ∈ frames, frame.Spares tables camera)
    (hstream : Completes current (stream camera frames)) :
    streamTrace camera (trace tables frames) =
        (stream camera frames).map (fun piece => (piece, dispositionOf piece.nalType)) ∧
      (tablesAfter tables frames).pFrame = false := by
  -- What is carried along the frames: the flag tells about the unit in progress.
  induction frames generalizing tables current with
  | nil =>
      cases hstream
      exact ⟨rfl, hflag⟩
  | cons frame frames ih =>
      have hframe := hspares frame List.mem_cons_self
      have hfilters' : (process frame tables).2.Filters camera := by
        rwa [filters_process hframe.not_isPosition]
      have hspares' : ∀ later ∈ frames, later.Spares (process frame tables).2 camera := by
        intro later hlater
        exact (hspares later (List.mem_cons_of_mem frame hlater)).process hframe.not_isPosition
      cases hpiece : frame.pieceOf? camera with
      | none =>
          rw [stream_cons_of_none hpiece] at hstream ⊢
          rw [trace, streamTrace_cons_of_none hpiece]
          exact ih hfilters' ((pFrame_process_of_spares hframe hpiece).trans hflag) hspares' hstream
      | some piece =>
          rw [stream_cons_of_some hpiece] at hstream ⊢
          obtain ⟨hfits, hrest⟩ := hstream
          obtain ⟨hvideo, hpiece_eq⟩ := Frame.pieceOf?_eq_some_iff.mp hpiece
          have hshows : frame.Shows tables piece := ⟨⟨camera, hvideo, hfilters⟩, hpiece_eq⟩
          have hverdict : (process frame tables).1 = dispositionOf piece.nalType := by
            rw [(process_of_shows hshows).verdict, hflag]
            exact Piece.disposition_of_fits hfits
          have hflag' : (process frame tables).2.pFrame =
              (piece.unitAfter current).any isSliceType := by
            rw [pFrame_process_of_shows hshows, hflag]
            exact hfits.inFrameAfter_eq
          obtain ⟨htrace, hclear⟩ := ih hfilters' hflag' hspares' hrest
          rw [trace, streamTrace_cons_of_some hpiece, List.map_cons, htrace, hverdict]
          exact ⟨rfl, hclear⟩

/-- The pieces of a unit, all with the verdict that the type of the unit calls for. -/
def NalUnit.verdicts (unit : NalUnit) : List (Piece × Disposition) :=
  unit.pieces.map fun piece => (piece, dispositionOf unit.nalType)

theorem map_dispositionOf_pieces (units : List NalUnit) :
    (units.flatMap NalUnit.pieces).map (fun piece => (piece, dispositionOf piece.nalType)) =
      units.flatMap NalUnit.verdicts := by
  rw [List.map_flatMap]
  refine List.flatMap_congr fun unit _ => List.map_congr_left fun piece hpiece => ?_
  rw [NalUnit.nalType_of_mem_pieces hpiece]

/-- The run of whole units: from a clear flag to a clear flag. -/
theorem run_of_units {frames : List Frame} {units : List NalUnit}
    (hfilters : tables.Filters camera) (hclear : tables.pFrame = false)
    (hspares : ∀ frame ∈ frames, frame.Spares tables camera)
    (hstream : stream camera frames = units.flatMap NalUnit.pieces) :
    streamTrace camera (trace tables frames) = units.flatMap NalUnit.verdicts ∧
      (tablesAfter tables frames).pFrame = false := by
  have hflag : tables.pFrame = (none : Option Nat).any isSliceType := hclear
  have hcomplete : Completes none (stream camera frames) := by
    rw [hstream]
    exact Completes.flatMap_pieces units
  obtain ⟨htrace, hend⟩ := streamTrace_of_completes frames hfilters hflag hspares hcomplete
  rw [hstream, map_dispositionOf_pieces] at htrace
  exact ⟨htrace, hend⟩

/-- **NAL units are dropped whole.**  From a clear flag on, exactly the P slices of a filtered
camera are dropped, each with all of its pieces, and the flag is clear again wherever the
camera has sent whole units. -/
theorem streamTrace_of_units {frames : List Frame} {units : List NalUnit}
    (hfilters : tables.Filters camera) (hclear : tables.pFrame = false)
    (hspares : ∀ frame ∈ frames, frame.Spares tables camera)
    (hstream : stream camera frames = units.flatMap NalUnit.pieces) :
    streamTrace camera (trace tables frames) = units.flatMap NalUnit.verdicts ∧
      ∀ (before : List Frame) (sent : List NalUnit), before <+: frames →
        stream camera before = sent.flatMap NalUnit.pieces →
          (tablesAfter tables before).pFrame = false := by
  refine ⟨(run_of_units hfilters hclear hspares hstream).1, ?_⟩
  intro before sent hbefore hsent
  have hspares' : ∀ frame ∈ before, frame.Spares tables camera := by
    intro frame hframe
    exact hspares frame (hbefore.subset hframe)
  exact (run_of_units hfilters hclear hspares' hsent).2

/-- Cameras 0 and 1 are filtered, in either way. -/
def twoFiltered : VideoTables := (VideoTables.empty.setCameraRaw 0 1).setCameraRaw 1 2

theorem filters_twoFiltered : twoFiltered.Filters 0 ∧ twoFiltered.Filters 1 := by
  decide +kernel

/-- A P slice in two fragments and a picture in one packet, with a packet of another camera and
an empty frame in between. -/
def twoUnits : List Frame :=
  [(SampleFrame.video 0 (.fragment true false 1)).bytes,
    (SampleFrame.video 1 (.nalUnit 1)).bytes,
    [],
    (SampleFrame.video 0 (.fragment false true 1)).bytes,
    (SampleFrame.video 0 (.nalUnit 19)).bytes]

theorem streamTrace_twoUnits :
    streamTrace 0 (trace twoFiltered twoUnits) =
        [.fragmented 1 0, .single 19].flatMap NalUnit.verdicts ∧
      (tablesAfter twoFiltered (twoUnits.take 4)).pFrame = false := by
  have hbystanders : ∀ frame ∈ twoUnits, ¬ frame.IsPosition ∧
      (frame.IsVideo 0 ∨ frame.piece?.any Piece.isFragment = false) := by decide +kernel
  have hspares : ∀ frame ∈ twoUnits, frame.Spares twoFiltered 0 := by
    intro frame hframe
    obtain ⟨hposition, hfragment⟩ := hbystanders frame hframe
    exact .of_own_or_no_fragment hposition hfragment
  have hstream : stream 0 twoUnits =
      [NalUnit.fragmented 1 0, .single 19].flatMap NalUnit.pieces := by decide +kernel
  have hsent : stream 0 (twoUnits.take 4) =
      [NalUnit.fragmented 1 0].flatMap NalUnit.pieces := by decide +kernel
  obtain ⟨htrace, hboundary⟩ := streamTrace_of_units filters_twoFiltered.1 rfl hspares hstream
  exact ⟨htrace, hboundary _ _ (List.take_prefix 4 twoUnits) hsent⟩

end VideoGate
