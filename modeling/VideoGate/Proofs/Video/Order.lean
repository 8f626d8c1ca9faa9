import Mathlib.Algebra.GroupWithZero.Nat
import VideoGate.Proofs.Gate.Tally
import VideoGate.Proofs.Video.Stream

/-!
# Frames whose order does not matter

A frame that is neither a position packet nor a fragment of a filtered camera leaves nothing behind
but counts.  Its verdict and its counts depend on the modes that hold and on its own bytes, and
counts add up in any order, at the largest word too.  So such frames may be filtered in any order:
each keeps its verdict, and the tables are the same in the end (`order_immaterial`).
-/

namespace VideoGate

open VideoFilter

/-- The frame is neither a position packet nor a fragment of a filtered camera. -/
structure Frame.IsPlain (frame : Frame) (tables : VideoTables) : Prop where
  not_isPosition : ¬ frame.IsPosition
  not_isFragment : frame.IsFiltered tables → 37 + frame.networkLength ≤ frame.length →
    frame.nalType ≠ 49

namespace VideoTables

/-- How often a frame is counted by tables that differ from these in their counters only. -/
def tally (tables : VideoTables) (frame : Frame) (stat : VideoStat) : Nat :=
  ((process frame tables.uncounted).2.stat stat).toNat

/-- Tables are their counters and the rest. -/
theorem eq_of_uncounted {a b : VideoTables} (hrest : a.uncounted = b.uncounted)
    (hstats : ∀ stat, a.stat stat = b.stat stat) : a = b := by
  have hindex : ∀ place : Fin VideoStat.count, ∃ stat ∈ VideoStat.all, stat.index = place := by
    decide
  have hvalues : a.stats = b.stats := by
    ext place hplace
    obtain ⟨stat, -, hstat⟩ := hindex ⟨place, hplace⟩
    have hsame := hstats stat
    unfold VideoTables.stat at hsame
    rw [hstat] at hsame
    exact congrArg UInt64.toNat hsame
  obtain ⟨stats, cameras, globalRaw, globalReadable, pFrame, position⟩ := a
  cases hvalues
  cases congrArg VideoTables.cameras hrest
  cases congrArg VideoTables.globalRaw hrest
  cases congrArg VideoTables.globalReadable hrest
  cases congrArg VideoTables.pFrame hrest
  cases congrArg VideoTables.position hrest
  rfl

end VideoTables

/-! ## One frame -/

section Frame

variable {frame : Frame} {tables : VideoTables}

/-- Whatever was counted before, a frame meets the same verdict, and its counts come on top. -/
theorem process_uncounted (frame : Frame) (tables : VideoTables) :
    (process frame tables).1 = (process frame tables.uncounted).1 ∧
      ∀ stat, ((process frame tables).2.stat stat).toNat =
        min ((tables.stat stat).toNat + tables.tally frame stat) (UInt64.size - 1) := by
  obtain ⟨hverdict, hahead⟩ := process_alike (VideoTables.storesAlike_ahead tables)
    (rfl : Traffic.classify frame = Traffic.classify frame) tables.ahead_uncounted
  exact ⟨hverdict, hahead.counters⟩

theorem Frame.IsPlain.of_uncounted {other : VideoTables} (h : frame.IsPlain tables)
    (hsame : other.uncounted = tables.uncounted) : frame.IsPlain other := by
  refine ⟨h.not_isPosition, ?_⟩
  rintro ⟨camera, hvideo, hfilters⟩
  exact h.not_isFragment
    ⟨camera, hvideo, (VideoTables.filters_iff_of_uncounted hsame camera).mp hfilters⟩

/-- A plain frame leaves nothing behind but counts. -/
theorem Frame.IsPlain.uncounted_process (h : frame.IsPlain tables) :
    (process frame tables).2.uncounted = tables.uncounted := by
  by_cases hshows : ∃ piece, frame.Shows tables piece
  · obtain ⟨piece, hpiece⟩ := hshows
    refine (process_of_shows hpiece).kept.trans ?_
    cases piece with
    | whole nalType => rfl
    | fragment isFirst isLast nalType =>
        obtain ⟨hcomplete, hfragment, -⟩ := frame.piece?_eq_fragment_iff.mp hpiece.piece_eq
        exact absurd hfragment (h.not_isFragment hpiece.isFiltered hcomplete)
  · exact (process_of_not_shows h.not_isPosition (not_exists.mp hshows)).kept

end Frame

/-! ## Many frames -/

/-- What many frames are counted. -/
def VideoTables.tallyAll (tables : VideoTables) (frames : List Frame) (stat : VideoStat) : Nat :=
  (frames.map fun frame => tables.tally frame stat).sum

variable {tables : VideoTables} {frames others : List Frame}

/-- **The run of plain frames**: each is judged as if it came first, and only their counts are left
behind. -/
theorem run_of_isPlain (h : ∀ frame ∈ frames, frame.IsPlain tables) :
    trace tables frames = frames.map (fun frame => (frame, (process frame tables).1)) ∧
      (tablesAfter tables frames).uncounted = tables.uncounted ∧
      ∀ stat, ((tablesAfter tables frames).stat stat).toNat =
        min ((tables.stat stat).toNat + tables.tallyAll frames stat) (UInt64.size - 1) := by
  -- Along the run the tables stay the same apart from their counters, so nothing is judged anew.
  suffices hrun : ∀ now : VideoTables, now.uncounted = tables.uncounted →
      trace now frames = frames.map (fun frame => (frame, (process frame tables).1)) ∧
        (tablesAfter now frames).uncounted = tables.uncounted ∧
        ∀ stat, ((tablesAfter now frames).stat stat).toNat =
          min ((now.stat stat).toNat + tables.tallyAll frames stat) (UInt64.size - 1) from
    hrun tables rfl
  induction frames with
  | nil =>
      intro now hnow
      exact ⟨rfl, hnow, fun stat => Counter.ahead_zero (now.stat stat)⟩
  | cons frame frames ih =>
      intro now hnow
      have hplain := (h frame List.mem_cons_self).of_uncounted hnow
      have hrest : ∀ other ∈ frames, other.IsPlain tables :=
        fun other hother => h other (List.mem_cons_of_mem _ hother)
      obtain ⟨htrace, hkept, hcounts⟩ := ih hrest _ (hplain.uncounted_process.trans hnow)
      obtain ⟨hverdict, hfirst⟩ := process_uncounted frame now
      have hjudged : (process frame now).1 = (process frame tables).1 := by
        rw [hverdict, hnow, ← (process_uncounted frame tables).1]
      have htally : ∀ stat, now.tally frame stat = tables.tally frame stat := by
        intro stat
        unfold VideoTables.tally
        rw [hnow]
      refine ⟨?_, hkept, ?_⟩
      · rw [trace, hjudged, htrace]
        rfl
      · intro stat
        refine (hcounts stat).trans ?_
        rw [hfirst, htally]
        simp only [VideoTables.tallyAll, List.map_cons, List.sum_cons]
        omega

/-- **The order of plain frames does not matter.**  In any order each frame meets the verdict that
it would meet alone, and the tables are the same in the end, all counters included. -/
theorem order_immaterial (hplain : ∀ frame ∈ frames, frame.IsPlain tables)
    (horder : others.Perm frames) :
    trace tables others = others.map (fun frame => (frame, (process frame tables).1)) ∧
      (trace tables others).Perm (trace tables frames) ∧
      tablesAfter tables others = tablesAfter tables frames := by
  have hplain' : ∀ frame ∈ others, frame.IsPlain tables :=
    fun frame hframe => hplain frame (horder.mem_iff.mp hframe)
  obtain ⟨htrace, hkept, hcounts⟩ := run_of_isPlain hplain
  obtain ⟨htrace', hkept', hcounts'⟩ := run_of_isPlain hplain'
  refine ⟨htrace', ?_, VideoTables.eq_of_uncounted (hkept'.trans hkept.symm) ?_⟩
  · rw [htrace, htrace']
    exact horder.map _
  · intro stat
    have htally : tables.tallyAll others stat = tables.tallyAll frames stat :=
      (horder.map _).sum_nat
    exact UInt64.toNat_inj.mp (by rw [hcounts, hcounts', htally])

/-- A P slice of a filtered camera, a picture of it, a P slice of a camera that has no entry, and a
packet that is no video, backwards and with a counter near its limit. -/
theorem order_immaterial_near_the_limit :
    let busy := { VideoTables.empty.setCameraRaw 0 1 with
      stats := (Vector.replicate _ 0).set 5 (Counter.limit - 1) }
    let tables := busy.removeCamera 3
    let frames := [(SampleFrame.video 0 (.nalUnit 1)).bytes,
      (SampleFrame.video 0 (.nalUnit 19)).bytes, (SampleFrame.video 3 (.nalUnit 1)).bytes,
      [0, 1, 2]]
    (∀ frame ∈ frames, frame.IsPlain tables) ∧ frames.reverse.Perm frames ∧
      (trace tables frames.reverse).map Prod.snd = [.pass, .pass, .pass, .drop] ∧
      tablesAfter tables frames.reverse = tablesAfter tables frames ∧
      (tablesAfter tables frames).stat .forwarded = Counter.limit := by
  intro busy tables frames
  have hplain : ∀ frame ∈ frames, frame.IsPlain tables := by
    have hposition : ∀ frame ∈ frames, ¬ frame.IsPosition := by decide +kernel
    have htype : ∀ frame ∈ frames, frame.nalType ≠ 49 := by decide +kernel
    exact fun frame hframe => ⟨hposition frame hframe, fun _ _ => htype frame hframe⟩
  have horder : frames.reverse.Perm frames := List.reverse_perm frames
  obtain ⟨htrace, -, hsame⟩ := order_immaterial hplain horder
  refine ⟨hplain, horder, ?_, hsame, by decide +kernel⟩
  rw [htrace]
  decide +kernel

end VideoGate
