import VideoGate.Proofs.Video.Step

/-!
# What a history of frames leaves behind

The filter is meant to drop P slices and nothing else.  A fragment is judged by the flag,
though, and the flag is a remnant of frames that came before, possibly of another camera and
possibly long ago.  `InProgress` reads the flag off the history: a P slice was opened and nothing
has closed it since (`pFrame_tablesBefore_iff`).  So what is dropped is a P slice in exactly
those histories that show no fragment of another type meanwhile (`dropsOnlySlices_iff`).
-/

namespace VideoGate

open VideoFilter

/-- What happens to a filter: a frame arrives, or the modes are changed from outside. -/
inductive FilterEvent where
  | arrival (frame : Frame)
  | setCamera (camera raw : UInt32)
  | removeCamera (camera : UInt32)
  | setGlobal (raw : UInt32)
deriving DecidableEq, Repr

/-- The tables after an event. -/
def FilterEvent.step (tables : VideoTables) : FilterEvent → VideoTables
  | arrival frame => (process frame tables).2
  | setCamera camera raw => tables.setCameraRaw camera raw
  | removeCamera camera => tables.removeCamera camera
  | setGlobal raw => { tables with globalRaw := raw }

namespace Piece

/-- Does the piece begin a P slice whose end is still to come? -/
def opens : Piece → Bool
  | whole _ => false
  | fragment isFirst isLast nalType => isFirst && !isLast && isSliceType nalType

/-- Does the piece end a NAL unit that was sent in fragments? -/
def closes : Piece → Bool
  | whole _ => false
  | fragment _ isLast _ => isLast

theorem inFrameAfter_eq (piece : Piece) (inFrame : Bool) :
    piece.inFrameAfter inFrame = (piece.opens || inFrame && !piece.closes) := by
  cases piece with
  | whole nalType => simp [inFrameAfter, opens, closes]
  | fragment isFirst isLast nalType =>
      rw [inFrameAfter, isDropped, opens, closes, isSlice, Piece.nalType]
      cases inFrame <;> cases isFirst <;> cases isLast <;> simp

end Piece

section History

variable (events : List FilterEvent)

/-- The tables before an event, by its place in a history that starts with fresh tables. -/
def tablesBefore (place : Nat) : VideoTables :=
  (events.take place).foldl FilterEvent.step .empty

/-- At this place a frame arrives that shows the piece. -/
def ShowsAt (place : Nat) (piece : Piece) : Prop :=
  ∃ frame, events[place]? = some (.arrival frame) ∧ frame.Shows (tablesBefore events place) piece

/-- Before this place a P slice was opened, by whichever camera, and nothing has closed it
since. -/
def InProgress (place : Nat) : Prop :=
  ∃ opening < place, (∃ piece, ShowsAt events opening piece ∧ piece.opens = true) ∧
    ∀ later, opening < later → later < place →
      ∀ piece, ShowsAt events later piece → piece.closes = false

/-- Every frame that the history drops is itself a piece of a P slice. -/
def DropsOnlySlices : Prop :=
  ∀ place frame, events[place]? = some (.arrival frame) →
    (process frame (tablesBefore events place)).1 = .drop → frame.holdsSlice = true

/-! ## The flag is a remnant of the history -/

variable {events} {place : Nat}

theorem tablesBefore_succ {event : FilterEvent} (h : events[place]? = some event) :
    tablesBefore events (place + 1) = event.step (tablesBefore events place) := by
  unfold tablesBefore
  rw [List.take_add_one, h, List.foldl_append]
  rfl

theorem tablesBefore_succ_of_none (h : events[place]? = none) :
    tablesBefore events (place + 1) = tablesBefore events place := by
  unfold tablesBefore
  rw [List.take_add_one, h, Option.toList_none, List.append_nil]

theorem ShowsAt.unique {a b : Piece} (ha : ShowsAt events place a) (hb : ShowsAt events place b) :
    a = b := by
  obtain ⟨frame, hframe, ha⟩ := ha
  obtain ⟨other, hother, hb⟩ := hb
  cases hframe.symm.trans hother
  exact ha.unique hb

/-- Only an event that shows a piece moves the flag. -/
theorem pFrame_tablesBefore_succ_of_not_showsAt (h : ∀ piece, ¬ ShowsAt events place piece) :
    (tablesBefore events (place + 1)).pFrame = (tablesBefore events place).pFrame := by
  cases hevent : events[place]? with
  | none => rw [tablesBefore_succ_of_none hevent]
  | some event =>
      rw [tablesBefore_succ hevent]
      cases event with
      | arrival frame =>
          have hnone : ∀ piece, ¬ frame.Shows (tablesBefore events place) piece :=
            fun piece hpiece => h piece ⟨frame, hevent, hpiece⟩
          exact (pass_of_not_shows hnone).2
      | setCamera camera raw => rfl
      | removeCamera camera => exact VideoTables.pFrame_removeCamera _ camera
      | setGlobal raw => rfl

theorem pFrame_tablesBefore_succ {piece : Piece} (h : ShowsAt events place piece) :
    (tablesBefore events (place + 1)).pFrame =
      piece.inFrameAfter (tablesBefore events place).pFrame := by
  obtain ⟨frame, hevent, hpiece⟩ := h
  rw [tablesBefore_succ hevent]
  exact pFrame_process_of_shows hpiece

theorem inProgress_succ_iff :
    InProgress events (place + 1) ↔
      (∃ piece, ShowsAt events place piece ∧ piece.opens = true) ∨
        InProgress events place ∧ ∀ piece, ShowsAt events place piece → piece.closes = false := by
  constructor
  · rintro ⟨opening, hopening, hopens, hopen⟩
    by_cases hlast : opening = place
    · subst hlast
      exact .inl hopens
    · refine .inr ⟨⟨opening, by omega, hopens, ?_⟩, hopen place (by omega) (by omega)⟩
      intro later hlater hplace
      exact hopen later hlater (by omega)
  · rintro (hopens | ⟨⟨opening, hopening, hopens, hopen⟩, hstays⟩)
    · refine ⟨place, by omega, hopens, ?_⟩
      intro later hlater hplace
      omega
    · refine ⟨opening, by omega, hopens, ?_⟩
      intro later hlater hplace
      by_cases hlast : later = place
      · subst hlast
        exact hstays
      · exact hopen later hlater (by omega)

/-- **The flag is set exactly while a P slice is in progress.** -/
theorem pFrame_tablesBefore_iff (events : List FilterEvent) (place : Nat) :
    (tablesBefore events place).pFrame = true ↔ InProgress events place := by
  -- Both sides change at a place in the same way, and only where a piece is shown.
  induction place with
  | zero =>
      refine iff_of_false (by simp [tablesBefore, VideoTables.empty]) ?_
      rintro ⟨opening, hopening, _⟩
      omega
  | succ place ih =>
      rw [inProgress_succ_iff, ← ih]
      by_cases hshows : ∃ piece, ShowsAt events place piece
      · obtain ⟨piece, hpiece⟩ := hshows
        rw [pFrame_tablesBefore_succ hpiece, piece.inFrameAfter_eq, Bool.or_eq_true,
          Bool.and_eq_true, Bool.not_eq_true']
        constructor
        · rintro (hopens | ⟨hflag, hstays⟩)
          · exact .inl ⟨piece, hpiece, hopens⟩
          · refine .inr ⟨hflag, ?_⟩
            intro other hother
            rwa [hother.unique hpiece]
        · rintro (⟨other, hother, hopens⟩ | ⟨hflag, hstays⟩)
          · exact .inl (hother.unique hpiece ▸ hopens)
          · exact .inr ⟨hflag, hstays piece hpiece⟩
      · have hnone := not_exists.mp hshows
        rw [pFrame_tablesBefore_succ_of_not_showsAt hnone]
        constructor
        · intro hflag
          refine .inr ⟨hflag, ?_⟩
          intro piece hpiece
          exact absurd hpiece (hnone piece)
        · rintro (⟨piece, hpiece, _⟩ | ⟨hflag, _⟩)
          · exact absurd hpiece (hnone piece)
          · exact hflag

/-! ## What is dropped -/

/-- **Exactly the histories without a stray fragment** drop nothing but P slices: whatever
fragment arrives while a P slice is in progress must be one of a P slice itself. -/
theorem dropsOnlySlices_iff (events : List FilterEvent) :
    DropsOnlySlices events ↔
      ∀ place piece, InProgress events place → ShowsAt events place piece →
        piece.isFragment = true → piece.isSlice = true := by
  constructor
  · rintro honly place piece hprogress ⟨frame, hevent, hpiece⟩ hfragment
    have hflag := (pFrame_tablesBefore_iff events place).mpr hprogress
    have hdropped : piece.isDropped (tablesBefore events place).pFrame = true := by
      rw [hflag]
      cases piece with
      | whole nalType => cases hfragment
      | fragment isFirst isLast nalType => rfl
    have hslice := honly place frame hevent (process_eq_drop_iff.mpr ⟨piece, hpiece, hdropped⟩)
    rw [Frame.holdsSlice, hpiece.piece_eq] at hslice
    exact hslice
  · intro hstray place frame hevent hdrop
    obtain ⟨piece, hpiece, hdropped⟩ := process_eq_drop_iff.mp hdrop
    rw [Frame.holdsSlice, hpiece.piece_eq]
    show piece.isSlice = true
    cases piece with
    | whole nalType => exact hdropped
    | fragment isFirst isLast nalType =>
        rw [Piece.isDropped, Bool.or_eq_true, Bool.and_eq_true] at hdropped
        rcases hdropped with hflag | ⟨_, hslice⟩
        · exact hstray place _ ((pFrame_tablesBefore_iff events place).mp hflag)
            ⟨frame, hevent, hpiece⟩ rfl
        · exact hslice

end History

/-- The last fragment of a P slice is lost, and the camera goes on with an IDR picture. -/
def lostEnd : List FilterEvent :=
  [.setCamera 0 1,
    .arrival (SampleFrame.video 0 (.fragment true false 1)).bytes,
    .arrival (SampleFrame.video 0 (.fragment true false 19)).bytes]

/-- The guarantee fails where a P slice was left in progress: the picture is dropped. -/
theorem not_dropsOnlySlices_lostEnd : ¬ DropsOnlySlices lostEnd := by
  intro honly
  have hdrop : (process (SampleFrame.video 0 (.fragment true false 19)).bytes
      (tablesBefore lostEnd 2)).1 = .drop := by decide +kernel
  have hslice := honly 2 _ rfl hdrop
  exact absurd hslice (by decide +kernel)

end VideoGate
