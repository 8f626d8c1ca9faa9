import VideoGate.Proofs.Video.Step

/-!
# The verdict on the raw bytes

Which frames the filter drops, and what it does to the flag for a P frame in progress, as one
condition on the bytes of the frame and on the tables.
-/

namespace VideoGate

namespace Frame

/-- The bytes hold a P slice in one piece. -/
structure HoldsWholeSlice (frame : Frame) : Prop where
  complete : 36 + frame.networkLength ≤ frame.length
  slice : 1 ≤ frame.nalType ∧ frame.nalType ≤ 9

/-- The bytes hold a fragment that is dropped, where `inFrame` says whether a P frame is in
progress: any fragment then, and otherwise one that opens a P slice. -/
structure HoldsDroppedFragment (frame : Frame) (inFrame : Bool) : Prop where
  header : 36 + frame.networkLength ≤ frame.length
  isFragment : frame.nalType = 49
  complete : 37 + frame.networkLength ≤ frame.length
  dropped : inFrame = true ∨
    frame.fragmentByte.testBit 7 = true ∧
      1 ≤ frame.fragmentByte % 64 ∧ frame.fragmentByte % 64 ≤ 9

variable {frame : Frame} {inFrame : Bool}

theorem holdsWholeSlice_iff :
    frame.HoldsWholeSlice ↔
      ∃ nalType, frame.piece? = some (.whole nalType) ∧
        (Piece.whole nalType).isDropped inFrame = true := by
  constructor
  · rintro ⟨hcomplete, hslice⟩
    have htype : frame.nalType ≠ 49 := by omega
    exact ⟨frame.nalType, frame.piece?_eq_whole_iff.mpr ⟨hcomplete, htype, rfl⟩,
      (isSliceType_iff _).mpr hslice⟩
  · rintro ⟨nalType, hpiece, hdropped⟩
    obtain ⟨hcomplete, _, rfl⟩ := frame.piece?_eq_whole_iff.mp hpiece
    exact ⟨hcomplete, (isSliceType_iff _).mp hdropped⟩

theorem holdsDroppedFragment_iff :
    frame.HoldsDroppedFragment inFrame ↔
      ∃ isFirst isLast nalType, frame.piece? = some (.fragment isFirst isLast nalType) ∧
        (Piece.fragment isFirst isLast nalType).isDropped inFrame = true := by
  have hdropped_iff :
      (Piece.fragment (frame.fragmentByte.testBit 7) (frame.fragmentByte.testBit 6)
          (frame.fragmentByte % 64)).isDropped inFrame = true ↔
        inFrame = true ∨ frame.fragmentByte.testBit 7 = true ∧
          1 ≤ frame.fragmentByte % 64 ∧ frame.fragmentByte % 64 ≤ 9 := by
    rw [Piece.isDropped, Bool.or_eq_true, Bool.and_eq_true, Piece.isSlice,
      isSliceType_iff]
    rfl
  constructor
  · rintro ⟨_, hfragment, hcomplete, hdropped⟩
    refine ⟨_, _, _, frame.piece?_eq_fragment_iff.mpr ⟨hcomplete, hfragment, rfl, rfl, rfl⟩, ?_⟩
    exact hdropped_iff.mpr hdropped
  · rintro ⟨isFirst, isLast, nalType, hpiece, hdropped⟩
    obtain ⟨hcomplete, hfragment, rfl, rfl, rfl⟩ := frame.piece?_eq_fragment_iff.mp hpiece
    exact ⟨by omega, hfragment, hcomplete, hdropped_iff.mp hdropped⟩

end Frame

namespace VideoFilter

variable (frame : Frame) (tables : VideoTables)

/-- **The verdict on the bytes.**  A frame is dropped exactly if it is a packet of a filtered
camera and holds a P slice in one piece or a fragment that is dropped.  Such a fragment sets
the flag unless it is a last one, which clears it; every other frame leaves the flag alone. -/
theorem process_verdict_and_flag :
    ((process frame tables).1 = .drop ↔
        frame.IsFiltered tables ∧
          (frame.HoldsWholeSlice ∨ frame.HoldsDroppedFragment tables.pFrame)) ∧
      (frame.IsFiltered tables ∧ frame.HoldsDroppedFragment tables.pFrame →
        (process frame tables).2.pFrame = !frame.fragmentByte.testBit 6) ∧
      (¬ (frame.IsFiltered tables ∧ frame.HoldsDroppedFragment tables.pFrame) →
        (process frame tables).2.pFrame = tables.pFrame) := by
  refine ⟨process_eq_drop_iff.trans ?verdict, ?dropped, ?unchanged⟩
  case verdict =>
    constructor
    · rintro ⟨piece, ⟨hfiltered, hpiece⟩, hdropped⟩
      refine ⟨hfiltered, ?_⟩
      cases piece with
      | whole nalType =>
          exact .inl (Frame.holdsWholeSlice_iff.mpr ⟨nalType, hpiece, hdropped⟩)
      | fragment isFirst isLast nalType =>
          exact .inr (Frame.holdsDroppedFragment_iff.mpr
            ⟨isFirst, isLast, nalType, hpiece, hdropped⟩)
    · rintro ⟨hfiltered, hslice | hfragment⟩
      · obtain ⟨nalType, hpiece, hdropped⟩ := Frame.holdsWholeSlice_iff.mp hslice
        exact ⟨_, ⟨hfiltered, hpiece⟩, hdropped⟩
      · obtain ⟨_, _, _, hpiece, hdropped⟩ := Frame.holdsDroppedFragment_iff.mp hfragment
        exact ⟨_, ⟨hfiltered, hpiece⟩, hdropped⟩
  case dropped =>
    rintro ⟨hfiltered, hfragment⟩
    obtain ⟨isFirst, isLast, nalType, hpiece, hdropped⟩ :=
      Frame.holdsDroppedFragment_iff.mp hfragment
    obtain ⟨_, _, _, hlast, _⟩ := frame.piece?_eq_fragment_iff.mp hpiece
    rw [pFrame_process_of_shows ⟨hfiltered, hpiece⟩, Piece.inFrameAfter, hdropped, hlast]
    rfl
  case unchanged =>
    intro hother
    by_cases hshows : ∃ piece, frame.Shows tables piece
    · obtain ⟨piece, hpiece⟩ := hshows
      rw [pFrame_process_of_shows hpiece]
      cases piece with
      | whole nalType => rfl
      | fragment isFirst isLast nalType =>
          -- A fragment that is passed was met with a clear flag, and leaves it clear.
          have hpassed : (Piece.fragment isFirst isLast nalType).isDropped tables.pFrame = false :=
            Bool.eq_false_iff.mpr fun hdropped => hother ⟨hpiece.isFiltered,
              Frame.holdsDroppedFragment_iff.mpr ⟨_, _, _, hpiece.piece_eq, hdropped⟩⟩
          have hclear : tables.pFrame = false := (Bool.or_eq_false_iff.mp hpassed).1
          rw [Piece.inFrameAfter, hpassed, hclear]
          rfl
    · exact (pass_of_not_shows (not_exists.mp hshows)).2

end VideoFilter

end VideoGate
