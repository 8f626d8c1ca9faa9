import Mathlib.Logic.Function.Basic
import VideoGate.Proofs.Video.Stream

/-!
# Cameras that share the flag

There is one flag for all cameras.  Where the streams of several filtered cameras are mixed, a
packet should be judged as if its camera were alone (`Isolated`).  The flag achieves that as
long as it tells about the one P slice in progress (`Tells`).  Once a fragment of another camera
gets in between, two P slices are in progress or one is and the flag is clear (`Conflict`), and
that state can only be left by a wrong verdict.  So isolation holds of exactly the mixtures in
which no P slice is interrupted (`isolated_iff_uninterrupted`).
-/

namespace VideoGate

open VideoFilter

/-! ## Isolation -/

/-- The frames of one camera, in order. -/
def own (camera : UInt32) (frames : List Frame) : List Frame :=
  frames.filter fun frame => frame.IsVideo camera

/-- Every camera's packets get the verdicts that they get when they are filtered alone. -/
def Isolated (tables : VideoTables) (frames : List Frame) : Prop :=
  ∀ camera : UInt32, (trace tables frames).filter (fun entry => entry.1.IsVideo camera) =
    trace tables (own camera frames)

/-- No fragment of another camera arrives while a P slice of a camera is in progress, where
`units` tells what each camera had in progress at the start. -/
def UninterruptedFrom (units : UInt32 → Option Nat) (frames : List Frame) : Prop :=
  ∀ before frame after, frames = before ++ frame :: after →
    ∀ camera, ((stream camera before).foldl Piece.unitAfter (units camera)).any isSliceType = true →
      ∀ other piece, frame.pieceOf? other = some piece → piece.isFragment = true → other = camera

/-- No fragment of another camera arrives between the first and the last fragment of a P slice. -/
def Uninterrupted (frames : List Frame) : Prop :=
  UninterruptedFrom (fun _ => none) frames

/-- The verdict that a frame's own bytes call for. -/
def Frame.ownVerdict (frame : Frame) : Disposition := if frame.holdsSlice then .drop else .pass

/-- The frames, each with the verdict that its own bytes call for. -/
def judged (frames : List Frame) : List (Frame × Disposition) :=
  frames.map fun frame => (frame, frame.ownVerdict)

/-- Streams of filtered cameras, mixed in any way, each of which completes what it has in
progress. -/
structure Mixes (units : UInt32 → Option Nat) (tables : VideoTables) (frames : List Frame) :
    Prop where
  filtered : ∀ frame ∈ frames, ∃ camera piece,
    tables.Filters camera ∧ frame.pieceOf? camera = some piece
  completes : ∀ camera, Completes (units camera) (stream camera frames)

/-! ## One flag and many cameras -/

section Flag

variable {inFrame : Bool} {units : UInt32 → Option Nat} {camera : UInt32} {piece : Piece}

/-- The units in progress after a piece of one camera. -/
def advance (units : UInt32 → Option Nat) (camera : UInt32) (piece : Piece) :
    UInt32 → Option Nat :=
  Function.update units camera (piece.unitAfter (units camera))

/-- A P slice of the camera is in progress. -/
def InSlice (units : UInt32 → Option Nat) (camera : UInt32) : Prop :=
  (units camera).any isSliceType = true

/-- The flag is set exactly while some P slice is in progress. -/
def Tells (inFrame : Bool) (units : UInt32 → Option Nat) : Prop :=
  inFrame = true ↔ ∃ camera, InSlice units camera

/-- The flag cannot serve a P slice in progress: it is clear, or another one is in progress. -/
def Conflict (inFrame : Bool) (units : UInt32 → Option Nat) : Prop :=
  ∃ camera, InSlice units camera ∧
    (inFrame = false ∨ ∃ other, other ≠ camera ∧ InSlice units other)

theorem inSlice_advance_self :
    InSlice (advance units camera piece) camera ↔
      (piece.unitAfter (units camera)).any isSliceType = true := by
  rw [InSlice, advance, Function.update_self]

theorem inSlice_advance_of_ne {other : UInt32} (h : other ≠ camera) :
    InSlice (advance units camera piece) other ↔ InSlice units other := by
  rw [InSlice, advance, Function.update_of_ne h, InSlice]

theorem inSlice_advance_whole {nalType : Nat} {other : UInt32} :
    InSlice (advance units camera (.whole nalType)) other ↔ InSlice units other := by
  rw [advance, Piece.unitAfter, Function.update_eq_self]

/-- **An interruption is a conflict.**  If a fragment gets between those of another camera's P
slice and is judged by its own type all the same, the flag serves them no longer. -/
theorem conflict_of_interruption {victim : UInt32} (hslice : InSlice units victim)
    (hother : camera ≠ victim) (hfragment : piece.isFragment = true)
    (hright : piece.isDropped inFrame = piece.isSlice) :
    Conflict (piece.inFrameAfter inFrame) (advance units camera piece) := by
  have hvictim : InSlice (advance units camera piece) victim :=
    (inSlice_advance_of_ne hother.symm).mpr hslice
  refine ⟨victim, hvictim, ?_⟩
  cases hflag : piece.inFrameAfter inFrame with
  | false => exact .inl rfl
  | true =>
      cases piece with
      | whole nalType => cases hfragment
      | fragment isFirst isLast nalType =>
          rw [Piece.inFrameAfter, hright, Bool.and_eq_true] at hflag
          obtain ⟨htype, hlast⟩ := hflag
          cases isLast with
          | true => cases hlast
          | false => exact .inr ⟨camera, hother, inSlice_advance_self.mpr htype⟩

/-- **A conflict stays** as long as every piece is judged by its own type. -/
theorem Conflict.advance (h : Conflict inFrame units) (hfits : piece.Fits (units camera))
    (hright : piece.isDropped inFrame = piece.isSlice) :
    Conflict (piece.inFrameAfter inFrame) (advance units camera piece) := by
  obtain ⟨victim, hslice, hclash⟩ := h
  cases piece with
  | whole nalType =>
      refine ⟨victim, inSlice_advance_whole.mpr hslice, hclash.imp_right ?_⟩
      rintro ⟨other, hne, hother⟩
      exact ⟨other, hne, inSlice_advance_whole.mpr hother⟩
  | fragment isFirst isLast nalType =>
      by_cases hsame : camera = victim
      · subst hsame
        -- The fragment goes on with the P slice and is dropped, so the flag was set: the
        -- conflict is with another P slice, which stays in progress.
        cases isFirst with
        | true =>
            rw [InSlice, hfits] at hslice
            cases hslice
        | false =>
            rw [InSlice, hfits] at hslice
            have htype : (Piece.fragment false isLast nalType).isSlice = true := hslice
            rw [htype, Piece.isDropped, Bool.false_and, Bool.or_false] at hright
            rcases hclash with hclear | ⟨other, hne, hother⟩
            · rw [hright] at hclear
              cases hclear
            refine ⟨other, (inSlice_advance_of_ne hne).mpr hother, ?_⟩
            cases isLast with
            | true => exact .inl (Bool.and_false _)
            | false => exact .inr ⟨camera, hne.symm, inSlice_advance_self.mpr hslice⟩
      · exact conflict_of_interruption hslice hsame rfl hright

/-- **The flag keeps telling** while no P slice is interrupted, and what it tells judges every
piece by its own type. -/
theorem Tells.advance (h : Tells inFrame units) (hfits : piece.Fits (units camera))
    (hcalm : ∀ victim, InSlice units victim → piece.isFragment = true → camera = victim) :
    piece.isDropped inFrame = piece.isSlice ∧
      Tells (piece.inFrameAfter inFrame) (advance units camera piece) := by
  cases piece with
  | whole nalType =>
      refine ⟨rfl, h.trans ?_⟩
      exact exists_congr fun other => inSlice_advance_whole.symm
  | fragment isFirst isLast nalType =>
      have hflag : inFrame = (units camera).any isSliceType := by
        refine Bool.eq_iff_iff.mpr (h.trans ?_)
        constructor
        · rintro ⟨victim, hslice⟩
          rwa [hcalm victim hslice rfl]
        · intro hslice
          exact ⟨camera, hslice⟩
      rw [hflag, hfits.isDropped_eq, hfits.inFrameAfter_eq]
      refine ⟨rfl, ?_⟩
      constructor
      · intro hslice
        exact ⟨camera, inSlice_advance_self.mpr hslice⟩
      · rintro ⟨victim, hslice⟩
        by_cases hsame : camera = victim
        · subst hsame
          exact inSlice_advance_self.mp hslice
        · exact absurd (hcalm victim ((inSlice_advance_of_ne (Ne.symm hsame)).mp hslice) rfl) hsame

end Flag

/-! ## Mixed streams -/

section Mixed

variable {units : UInt32 → Option Nat} {tables : VideoTables} {camera : UInt32} {frame : Frame}
  {frames : List Frame} {piece : Piece}

theorem Frame.pieceOf?_unique {other : UInt32} {otherPiece : Piece}
    (h : frame.pieceOf? camera = some piece) (hother : frame.pieceOf? other = some otherPiece) :
    other = camera ∧ otherPiece = piece := by
  obtain ⟨hvideo, hpiece⟩ := Frame.pieceOf?_eq_some_iff.mp h
  obtain ⟨hvideo', hpiece'⟩ := Frame.pieceOf?_eq_some_iff.mp hother
  exact ⟨hvideo'.camera_unique hvideo, Option.some.inj (hpiece'.symm.trans hpiece)⟩

theorem Frame.pieceOf?_eq_none_of_ne {other : UInt32} (h : frame.pieceOf? camera = some piece)
    (hne : other ≠ camera) : frame.pieceOf? other = none := by
  rw [Option.eq_none_iff_forall_ne_some]
  intro otherPiece hother
  exact hne (Frame.pieceOf?_unique h hother).1

theorem foldl_unitAfter_stream_cons (h : frame.pieceOf? camera = some piece) (other : UInt32) :
    (stream other (frame :: frames)).foldl Piece.unitAfter (units other) =
      (stream other frames).foldl Piece.unitAfter (advance units camera piece other) := by
  by_cases hsame : other = camera
  · subst hsame
    rw [stream_cons_of_some h, List.foldl_cons, advance, Function.update_self]
  · rw [stream_cons_of_none (Frame.pieceOf?_eq_none_of_ne h hsame), advance,
      Function.update_of_ne hsame]

theorem uninterruptedFrom_cons (h : frame.pieceOf? camera = some piece) :
    UninterruptedFrom units (frame :: frames) ↔
      (∀ victim, InSlice units victim → piece.isFragment = true → camera = victim) ∧
        UninterruptedFrom (advance units camera piece) frames := by
  constructor
  · intro hcalm
    constructor
    · intro victim hslice hfragment
      exact hcalm [] frame frames rfl victim hslice camera piece h hfragment
    · rintro before later after rfl victim hslice
      rw [← foldl_unitAfter_stream_cons h] at hslice
      exact hcalm (frame :: before) later after rfl victim hslice
  · rintro ⟨hhead, htail⟩ before later after hsplit victim hslice other otherPiece hother hfragment
    cases before with
    | nil =>
        obtain ⟨rfl, rfl⟩ := List.cons.inj hsplit
        obtain ⟨rfl, rfl⟩ := Frame.pieceOf?_unique h hother
        exact hhead victim hslice hfragment
    | cons first before =>
        obtain ⟨rfl, hrest⟩ := List.cons.inj hsplit
        rw [foldl_unitAfter_stream_cons h] at hslice
        exact htail before later after hrest victim hslice other otherPiece hother hfragment

theorem shows_of_pieceOf? (hfilters : tables.Filters camera)
    (h : frame.pieceOf? camera = some piece) : frame.Shows tables piece := by
  obtain ⟨hvideo, hpiece⟩ := Frame.pieceOf?_eq_some_iff.mp h
  exact ⟨⟨camera, hvideo, hfilters⟩, hpiece⟩

/-- Streams of whole NAL units, with nothing in progress at the start. -/
theorem Mixes.of_units (hfiltered : ∀ frame ∈ frames, ∃ camera piece,
      tables.Filters camera ∧ frame.pieceOf? camera = some piece)
    (hunits : ∀ camera, ∃ units : List NalUnit,
      stream camera frames = units.flatMap NalUnit.pieces) :
    Mixes (fun _ => none) tables frames := by
  refine ⟨hfiltered, ?_⟩
  intro camera
  obtain ⟨units, hstream⟩ := hunits camera
  rw [hstream]
  exact Completes.flatMap_pieces units

/-- The first packet of mixed streams shows a piece that fits, and the rest is mixed from the
streams as they then are. -/
theorem Mixes.cons (h : Mixes units tables (frame :: frames)) :
    ∃ camera piece, frame.pieceOf? camera = some piece ∧ frame.Shows tables piece ∧
      piece.Fits (units camera) ∧
        Mixes (advance units camera piece) (process frame tables).2 frames := by
  obtain ⟨camera, piece, hfilters, hpiece⟩ := h.filtered frame List.mem_cons_self
  have hshows := shows_of_pieceOf? hfilters hpiece
  have hcamera := h.completes camera
  rw [stream_cons_of_some hpiece] at hcamera
  refine ⟨camera, piece, hpiece, hshows, hcamera.1, ?_, ?_⟩
  · intro later hlater
    rw [filters_process hshows.not_isPosition]
    exact h.filtered later (List.mem_cons_of_mem frame hlater)
  · intro other
    by_cases hsame : other = camera
    · subst hsame
      rw [advance, Function.update_self]
      exact hcamera.2
    · have hother := h.completes other
      rw [stream_cons_of_none (Frame.pieceOf?_eq_none_of_ne hpiece hsame)] at hother
      rwa [advance, Function.update_of_ne hsame]

/-- A frame gets the verdict its own bytes call for exactly if its piece is judged by its
type. -/
theorem process_eq_ownVerdict_iff (h : frame.Shows tables piece) :
    (process frame tables).1 = frame.ownVerdict ↔
      piece.isDropped tables.pFrame = piece.isSlice := by
  rw [(process_of_shows h).verdict, Frame.ownVerdict, Frame.holdsSlice, h.piece_eq]
  show piece.disposition tables.pFrame = (if piece.isSlice then .drop else .pass) ↔ _
  unfold Piece.disposition
  cases piece.isDropped tables.pFrame <;> cases piece.isSlice <;> simp

theorem trace_eq_judged (frames : List Frame) {units : UInt32 → Option Nat}
    {tables : VideoTables} (hmixes : Mixes units tables frames)
    (htells : Tells tables.pFrame units) (hcalm : UninterruptedFrom units frames) :
    trace tables frames = judged frames := by
  induction frames generalizing units tables with
  | nil => rfl
  | cons frame frames ih =>
      obtain ⟨camera, piece, hpiece, hshows, hfits, hrest⟩ := hmixes.cons
      obtain ⟨hhead, htail⟩ := (uninterruptedFrom_cons hpiece).mp hcalm
      obtain ⟨hright, htells⟩ := htells.advance hfits hhead
      rw [← pFrame_process_of_shows hshows] at htells
      rw [trace, (process_eq_ownVerdict_iff hshows).mpr hright, ih hrest htells htail]
      rfl

/-- **A conflict shows**: complete streams are not all judged by their own bytes after it. -/
theorem trace_ne_judged_of_conflict (frames : List Frame) {units : UInt32 → Option Nat}
    {tables : VideoTables} (hmixes : Mixes units tables frames)
    (hconflict : Conflict tables.pFrame units) : trace tables frames ≠ judged frames := by
  -- As long as the verdicts are right the conflict stays, but at the end nothing is in progress.
  induction frames generalizing units tables with
  | nil =>
      obtain ⟨victim, hslice, _⟩ := hconflict
      have hnone : units victim = none := hmixes.completes victim
      rw [InSlice, hnone] at hslice
      cases hslice
  | cons frame frames ih =>
      intro hjudged
      obtain ⟨camera, piece, hpiece, hshows, hfits, hrest⟩ := hmixes.cons
      obtain ⟨hhead, htail⟩ := List.cons.inj hjudged
      have hright := (process_eq_ownVerdict_iff hshows).mp (congrArg Prod.snd hhead)
      have hconflict := hconflict.advance hfits hright
      rw [← pFrame_process_of_shows hshows] at hconflict
      exact ih hrest hconflict htail

theorem uninterruptedFrom_of_trace_eq_judged (frames : List Frame)
    {units : UInt32 → Option Nat} {tables : VideoTables} (hmixes : Mixes units tables frames)
    (hjudged : trace tables frames = judged frames) : UninterruptedFrom units frames := by
  -- The first interruption would be a conflict, and the rest of the trace would show it.
  induction frames generalizing units tables with
  | nil =>
      intro before frame after hsplit
      cases before <;> cases hsplit
  | cons frame frames ih =>
      obtain ⟨camera, piece, hpiece, hshows, hfits, hrest⟩ := hmixes.cons
      obtain ⟨hhead, htail⟩ := List.cons.inj hjudged
      have hright := (process_eq_ownVerdict_iff hshows).mp (congrArg Prod.snd hhead)
      refine (uninterruptedFrom_cons hpiece).mpr ⟨?_, ih hrest htail⟩
      intro victim hslice hfragment
      by_contra hother
      have hconflict := conflict_of_interruption hslice hother hfragment hright
      rw [← pFrame_process_of_shows hshows] at hconflict
      exact trace_ne_judged_of_conflict frames hrest hconflict htail

end Mixed

/-! ## Each camera alone -/

section Alone

variable {tables : VideoTables} {frames : List Frame}

theorem map_fst_trace (tables : VideoTables) (frames : List Frame) :
    (trace tables frames).map Prod.fst = frames := by
  induction frames generalizing tables with
  | nil => rfl
  | cons frame frames ih => rw [trace, List.map_cons, ih]

theorem stream_own_self (camera : UInt32) (frames : List Frame) :
    stream camera (own camera frames) = stream camera frames := by
  rw [stream, own, List.filterMap_filter, stream]
  refine List.filterMap_congr fun frame _ => ?_
  unfold Frame.pieceOf?
  by_cases hvideo : frame.IsVideo camera
  · simp [hvideo]
  · simp [hvideo]

theorem stream_own_of_ne {camera other : UInt32} (hne : other ≠ camera) (frames : List Frame) :
    stream other (own camera frames) = [] := by
  refine List.filterMap_eq_nil_iff.mpr ?_
  intro frame hframe
  have hvideo : frame.IsVideo camera := of_decide_eq_true (List.mem_filter.mp hframe).2
  refine if_neg ?_
  intro hother
  exact hne (hother.camera_unique hvideo)

theorem Mixes.own (h : Mixes (fun _ => none) tables frames) (camera : UInt32) :
    Mixes (fun _ => none) tables (own camera frames) := by
  constructor
  · intro frame hframe
    exact h.filtered frame (List.mem_filter.mp hframe).1
  · intro other
    by_cases hsame : other = camera
    · subst hsame
      rw [stream_own_self]
      exact h.completes other
    · rw [stream_own_of_ne hsame]
      rfl

theorem uninterrupted_own (camera : UInt32) (frames : List Frame) :
    Uninterrupted (own camera frames) := by
  intro before frame after hsplit victim hslice other piece hpiece _
  have hframe : frame ∈ own camera frames := by
    rw [hsplit]
    exact List.mem_append_right before List.mem_cons_self
  have hvideo : frame.IsVideo camera := of_decide_eq_true (List.mem_filter.mp hframe).2
  have hother := (Frame.pieceOf?_eq_some_iff.mp hpiece).1.camera_unique hvideo
  by_contra hne
  have hvictim : victim ≠ camera := by
    rintro rfl
    exact hne hother
  have hnone := stream_own_of_ne hvictim frames
  rw [hsplit, stream, List.filterMap_append, List.append_eq_nil_iff] at hnone
  rw [stream, hnone.1] at hslice
  cases hslice

theorem tells_none {tables : VideoTables} (hclear : tables.pFrame = false) :
    Tells tables.pFrame (fun _ => none) := by
  rw [hclear]
  refine iff_of_false (by simp) ?_
  rintro ⟨camera, hslice⟩
  cases hslice

theorem trace_own (h : Mixes (fun _ => none) tables frames) (hclear : tables.pFrame = false)
    (camera : UInt32) : trace tables (own camera frames) = judged (own camera frames) :=
  trace_eq_judged _ (h.own camera) (tells_none hclear) (uninterrupted_own camera frames)

/-- Isolation means that all frames are judged by their own bytes. -/
theorem isolated_iff_trace_eq_judged (h : Mixes (fun _ => none) tables frames)
    (hclear : tables.pFrame = false) :
    Isolated tables frames ↔ trace tables frames = judged frames := by
  constructor
  · intro hisolated
    have hjudged : ∀ entry ∈ trace tables frames, (entry.1, entry.1.ownVerdict) = entry := by
      intro entry hentry
      have hframe : entry.1 ∈ frames := by
        rw [← map_fst_trace tables frames]
        exact List.mem_map_of_mem hentry
      obtain ⟨camera, piece, _, hpiece⟩ := h.filtered entry.1 hframe
      have hvideo := (Frame.pieceOf?_eq_some_iff.mp hpiece).1
      have halone : entry ∈ trace tables (own camera frames) := by
        rw [← hisolated camera]
        exact List.mem_filter.mpr ⟨hentry, decide_eq_true hvideo⟩
      rw [trace_own h hclear] at halone
      obtain ⟨frame, _, rfl⟩ := List.mem_map.mp halone
      rfl
    calc trace tables frames
        = (trace tables frames).map fun entry => (entry.1, entry.1.ownVerdict) :=
          ((List.map_congr_left hjudged).trans (List.map_id _)).symm
      _ = judged ((trace tables frames).map Prod.fst) := by rw [judged, List.map_map]; rfl
      _ = judged frames := by rw [map_fst_trace]
  · intro hjudged camera
    rw [hjudged, trace_own h hclear, judged, List.filter_map]
    rfl

end Alone

/-- **Isolation of the cameras.**  Streams of filtered cameras, each made of whole NAL units and
mixed in any order, are judged as if each camera were alone exactly if no fragment of another
camera arrives between the first and the last fragment of a P slice. -/
theorem isolated_iff_uninterrupted {tables : VideoTables} {frames : List Frame}
    (hclear : tables.pFrame = false)
    (hfiltered : ∀ frame ∈ frames, ∃ camera piece,
      tables.Filters camera ∧ frame.pieceOf? camera = some piece)
    (hunits : ∀ camera, ∃ units : List NalUnit,
      stream camera frames = units.flatMap NalUnit.pieces) :
    Isolated tables frames ↔ Uninterrupted frames := by
  have hmixes := Mixes.of_units hfiltered hunits
  rw [isolated_iff_trace_eq_judged hmixes hclear]
  exact ⟨uninterruptedFrom_of_trace_eq_judged frames hmixes,
    trace_eq_judged frames hmixes (tells_none hclear)⟩

/-- Two cameras and their streams, as far as a mixture of them goes. -/
theorem mixed_of_two_streams {tables : VideoTables} {frames : List Frame} {a b : UInt32}
    {unitsA unitsB : List NalUnit} (ha : tables.Filters a) (hb : tables.Filters b)
    (hpieces : ∀ frame ∈ frames,
      (frame.pieceOf? a).isSome = true ∨ (frame.pieceOf? b).isSome = true)
    (hstreamA : stream a frames = unitsA.flatMap NalUnit.pieces)
    (hstreamB : stream b frames = unitsB.flatMap NalUnit.pieces) :
    (∀ frame ∈ frames, ∃ camera piece,
        tables.Filters camera ∧ frame.pieceOf? camera = some piece) ∧
      ∀ camera, ∃ units : List NalUnit, stream camera frames = units.flatMap NalUnit.pieces := by
  have hfiltered : ∀ frame ∈ frames, ∃ camera piece,
      (camera = a ∨ camera = b) ∧ frame.pieceOf? camera = some piece := by
    intro frame hframe
    rcases hpieces frame hframe with hpiece | hpiece
    · exact ⟨a, _, .inl rfl, (Option.some_get hpiece).symm⟩
    · exact ⟨b, _, .inr rfl, (Option.some_get hpiece).symm⟩
  constructor
  · intro frame hframe
    obtain ⟨camera, piece, rfl | rfl, hpiece⟩ := hfiltered frame hframe
    · exact ⟨camera, piece, ha, hpiece⟩
    · exact ⟨camera, piece, hb, hpiece⟩
  · intro camera
    by_cases hA : camera = a
    · exact ⟨unitsA, hA ▸ hstreamA⟩
    by_cases hB : camera = b
    · exact ⟨unitsB, hB ▸ hstreamB⟩
    refine ⟨[], List.filterMap_eq_nil_iff.mpr ?_⟩
    intro frame hframe
    obtain ⟨sender, piece, hsender, hpiece⟩ := hfiltered frame hframe
    refine Frame.pieceOf?_eq_none_of_ne hpiece ?_
    rintro rfl
    exact hsender.elim hA hB

/-- A P slice of camera 0 that lies between the fragments of a picture of camera 1. -/
def nested : List Frame :=
  [(SampleFrame.video 1 (.fragment true false 19)).bytes,
    (SampleFrame.video 0 (.fragment true false 1)).bytes,
    (SampleFrame.video 0 (.fragment false true 1)).bytes,
    (SampleFrame.video 1 (.fragment false true 19)).bytes]

theorem isolated_nested : Isolated twoFiltered nested := by
  have hstreamA : stream 0 nested = [NalUnit.fragmented 1 0].flatMap NalUnit.pieces := by
    decide +kernel
  have hstreamB : stream 1 nested = [NalUnit.fragmented 19 0].flatMap NalUnit.pieces := by
    decide +kernel
  obtain ⟨hfiltered, hunits⟩ := mixed_of_two_streams filters_twoFiltered.1
    filters_twoFiltered.2 (by decide +kernel) hstreamA hstreamB
  have hjudged : trace twoFiltered nested = judged nested := by decide +kernel
  have hcalm : Uninterrupted nested :=
    uninterruptedFrom_of_trace_eq_judged nested (Mixes.of_units hfiltered hunits) hjudged
  exact (isolated_iff_uninterrupted rfl hfiltered hunits).mpr hcalm

/-- The other way round: a picture of camera 1 between the fragments of a P slice of camera 0. -/
def interrupting : List Frame :=
  [(SampleFrame.video 0 (.fragment true false 1)).bytes,
    (SampleFrame.video 1 (.fragment true false 19)).bytes,
    (SampleFrame.video 1 (.fragment false true 19)).bytes,
    (SampleFrame.video 0 (.fragment false true 1)).bytes]

/-- Isolation fails there: the picture is dropped, and the end of the P slice is passed. -/
theorem not_isolated_interrupting :
    twoFiltered.pFrame = false ∧
      (∀ frame ∈ interrupting, ∃ camera piece,
        twoFiltered.Filters camera ∧ frame.pieceOf? camera = some piece) ∧
      (∀ camera, ∃ units : List NalUnit,
        stream camera interrupting = units.flatMap NalUnit.pieces) ∧
      ¬ Isolated twoFiltered interrupting := by
  have hstreamA : stream 0 interrupting = [NalUnit.fragmented 1 0].flatMap NalUnit.pieces := by
    decide +kernel
  have hstreamB : stream 1 interrupting = [NalUnit.fragmented 19 0].flatMap NalUnit.pieces := by
    decide +kernel
  obtain ⟨hfiltered, hunits⟩ := mixed_of_two_streams filters_twoFiltered.1
    filters_twoFiltered.2 (by decide +kernel) hstreamA hstreamB
  refine ⟨rfl, hfiltered, hunits, ?_⟩
  intro hisolated
  exact absurd (hisolated 1) (by decide +kernel)

end VideoGate
