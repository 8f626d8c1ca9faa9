import VideoGate.Proofs.Stats.Collector
import VideoGate.Proofs.Video.Bystander

/-!
# The dropped share

The exported ratio is meant to be the dropped share of the video packets.  It divides by all frames
that were dropped or forwarded, so it is that share exactly where no stray arrives
(`CountsVideoOnly`); with strays the whole is larger by their number.  All other frames bear on it
only through the modes that positions write.  `drop_share_of_run` says all of this, for the ratio
of a period and for the peak.
-/

namespace VideoGate

open VideoFilter

/-! ## One period -/

/-- The filter's counters, as they are read. -/
def VideoTables.counts (tables : VideoTables) : VideoCounts := ⟨tables.stats⟩

/-- What the filter counts in a period. -/
def periodCounts (tables : VideoTables) (events : List FilterEvent) : VideoCounts :=
  (events.foldl FilterEvent.step tables).counts.since tables.counts

/-- The whole that the drop ratio is a share of. -/
def VideoCounts.decided (counts : VideoCounts) : Nat :=
  (counts.get .dropped).toNat + (counts.get .forwarded).toNat

/-- What the ratio takes for the whole is the video that arrived in the period. -/
def CountsVideoOnly (tables : VideoTables) (events : List FilterEvent) : Prop :=
  (periodCounts tables events).decided = ((periodCounts tables events).get .rtpPackets).toNat

/-- The dropped share of the video packets. -/
def VideoCounts.videoShare {ρ : Type} [Ratio ρ] (counts : VideoCounts) : ρ :=
  if counts.get .rtpPackets = 0 then Ratio.zero
  else Ratio.ofCounts (counts.get .dropped) (counts.get .rtpPackets)

/-- The counters that the share is taken from have room for a period: with every frame counted
they still fit into their words. -/
def VideoTables.HasRoom (tables : VideoTables) (events : List FilterEvent) : Prop :=
  ∀ stat ∈ [VideoStat.dropped, .forwarded, .rtpPackets],
    (tables.stat stat).toNat + (framesOf events).length < UInt64.size

instance (tables : VideoTables) (events : List FilterEvent) : Decidable (tables.HasRoom events) :=
  inferInstanceAs (Decidable (∀ _ ∈ _, _))

theorem VideoTables.toNat_get_since {entries : List VideoStat} {before after : VideoTables}
    (hcounted : before.CountedAs entries after) {stat : VideoStat}
    (hroom : (before.stat stat).toNat + entries.count stat < UInt64.size) :
    ((after.counts.since before.counts).get stat).toNat = entries.count stat := by
  have hafter := toNat_stat_countAll entries before stat
  rw [← hcounted.stat_eq] at hafter
  rw [VideoCounts.get_since, Counter.toNat_growth]
  show (after.stat stat).toNat - (before.stat stat).toNat = _
  omega

/-- **In a period with room the whole is the video and the strays.** -/
theorem VideoTables.HasRoom.decided_eq {tables : VideoTables} {events : List FilterEvent}
    (hroom : tables.HasRoom events) :
    (periodCounts tables events).decided =
      ((periodCounts tables events).get .rtpPackets).toNat +
        (framesOf events).countP fun frame => frame.IsStray := by
  obtain ⟨entries, hcounted, hdecided, hle⟩ := run_dropShare events tables
  have hdropped := hroom .dropped (by simp)
  have hforwarded := hroom .forwarded (by simp)
  have hrtp := hroom .rtpPackets (by simp)
  unfold VideoCounts.decided periodCounts
  rw [toNat_get_since hcounted (by omega), toNat_get_since hcounted (by omega),
    toNat_get_since hcounted (by omega)]
  exact hdecided

theorem VideoTables.HasRoom.countsVideoOnly_iff {tables : VideoTables} {events : List FilterEvent}
    (hroom : tables.HasRoom events) :
    CountsVideoOnly tables events ↔ ∀ frame ∈ framesOf events, ¬ frame.IsStray := by
  unfold CountsVideoOnly
  rw [hroom.decided_eq, Nat.add_eq_left, List.countP_eq_zero]
  simp only [decide_eq_true_eq]

section Ratio

variable {ρ : Type} [Ratio ρ]

theorem VideoCounts.dropRatio_of_decided {counts : VideoCounts}
    (h : counts.decided = (counts.get .rtpPackets).toNat) :
    counts.dropRatio = .ok (counts.videoShare : ρ) := by
  have hlt := (counts.get .rtpPackets).toNat_lt
  have hsum : counts.get .dropped + counts.get .forwarded = counts.get .rtpPackets := by
    unfold decided at h
    refine UInt64.toNat_inj.mp ?_
    rw [UInt64.toNat_add, h]
    omega
  have hfits : ¬ UInt64.size ≤ (counts.get .dropped).toNat + (counts.get .forwarded).toNat := by
    unfold decided at h
    unfold UInt64.size
    omega
  unfold dropRatio videoShare
  simp only [if_neg hfits, hsum]
  split <;> rfl

end Ratio

/-! ## Series of samples -/

/-- Samples with the same numbers of frames dropped and forwarded. -/
structure Sample.SameShare (a b : Sample) : Prop where
  dropped : a.video.get .dropped = b.video.get .dropped
  forwarded : a.video.get .forwarded = b.video.get .forwarded

/-- The ratios that are exported, of all that was sampled and the highest between two samples. -/
def Collector.ratios? {ρ : Type} [Ratio ρ] (collector : Collector ρ) (timestamp : String)
    (elapsed : UInt64) : Except StatsFault (Option (ρ × ρ)) := do
  let snapshot? ← collector.snapshot? timestamp elapsed
  return snapshot?.map fun snapshot => (snapshot.dropRatio, snapshot.peakDropRatio)

/-- The ratios that are exported for a series of samples. -/
def exportedRatios (ρ : Type) [Ratio ρ] (samples : List Sample) (timestamp : String)
    (elapsed : UInt64) : Except StatsFault (Option (ρ × ρ)) := do
  let collector ← (Collector.new : Collector ρ).recordAll samples
  collector.ratios? timestamp elapsed

section Series

variable {ρ : Type} [Ratio ρ] {first last first' last' sample sample' : Sample}
  {samples samples' : List Sample}

theorem Sample.SameShare.get_since (hfirst : first.SameShare first')
    (hlast : last.SameShare last') :
    (last.video.since first.video).get .dropped = (last'.video.since first'.video).get .dropped ∧
      (last.video.since first.video).get .forwarded =
        (last'.video.since first'.video).get .forwarded := by
  simp only [VideoCounts.get_since, hfirst.dropped, hfirst.forwarded, hlast.dropped,
    hlast.forwarded, and_self]

theorem Sample.SameShare.dropRatio (hfirst : first.SameShare first')
    (hlast : last.SameShare last') :
    ((last.video.since first.video).dropRatio : Except StatsFault ρ) =
      (last'.video.since first'.video).dropRatio := by
  obtain ⟨hdropped, hforwarded⟩ := hfirst.get_since hlast
  unfold VideoCounts.dropRatio
  rw [hdropped, hforwarded]

/-- Reports on the same share. -/
structure IntervalReport.SameShare (a b : IntervalReport ρ) : Prop where
  dropped : a.dropped = b.dropped
  forwarded : a.forwarded = b.forwarded
  dropRatio : a.dropRatio = b.dropRatio

namespace Collector

/-- Collectors whose samples have the same shares. -/
structure SameShare (a b : Collector ρ) : Prop where
  baseline : Option.Rel Sample.SameShare a.baseline b.baseline
  latest : Option.Rel Sample.SameShare a.latest b.latest
  peak : a.peak = b.peak

namespace SameShare

variable {a b : Collector ρ}

theorem new : (new : Collector ρ).SameShare new := ⟨.none, .none, rfl⟩

/-- Both samples are refused for the same reason, or both are reported on alike. -/
theorem reportOn (h : a.SameShare b) (hsample : sample.SameShare sample') :
    (∃ fault, a.reportOn sample = .error fault ∧ b.reportOn sample' = .error fault) ∨
      ∃ report report', a.reportOn sample = .ok report ∧ b.reportOn sample' = .ok report' ∧
        report.SameShare report' := by
  have hlatest := h.latest
  unfold Collector.reportOn
  generalize a.latest = previous at hlatest ⊢
  generalize b.latest = previous' at hlatest ⊢
  cases hlatest with
  | none => exact .inr ⟨_, _, rfl, rfl, rfl, rfl, rfl⟩
  | some hprevious =>
      obtain ⟨hdropped, hforwarded⟩ := hprevious.get_since hsample
      simp only [reportBetween, hprevious.dropRatio hsample]
      cases (VideoCounts.dropRatio _ : Except StatsFault ρ) with
      | error fault => exact .inl ⟨fault, rfl, rfl⟩
      | ok ratio => exact .inr ⟨_, _, rfl, rfl, hdropped, hforwarded, rfl⟩

theorem accept (h : a.SameShare b) (hsample : sample.SameShare sample')
    {report report' : IntervalReport ρ} (hreport : report.SameShare report') :
    (a.accept sample report).SameShare (b.accept sample' report') := by
  have hbaseline := h.baseline
  constructor
  case baseline =>
    show Option.Rel _ (some (a.baseline.getD sample)) (some (b.baseline.getD sample'))
    generalize a.baseline = first at hbaseline ⊢
    generalize b.baseline = first' at hbaseline ⊢
    cases hbaseline with
    | none => exact .some hsample
    | some hfirst => exact .some hfirst
  case latest => exact .some hsample
  case peak =>
    unfold Collector.accept
    simp only [hreport.dropped, hreport.forwarded, hreport.dropRatio, h.peak]

/-- What is exported is the same too. -/
theorem ratios (h : a.SameShare b) (timestamp : String) (elapsed : UInt64) :
    a.ratios? timestamp elapsed = b.ratios? timestamp elapsed := by
  have hbaseline := h.baseline
  have hlatest := h.latest
  unfold ratios? snapshot?
  generalize a.baseline = first at hbaseline ⊢
  generalize b.baseline = first' at hbaseline ⊢
  generalize a.latest = last at hlatest ⊢
  generalize b.latest = last' at hlatest ⊢
  cases hbaseline with
  | none => rfl
  | some hfirst =>
      cases hlatest with
      | none => rfl
      | some hlast =>
          simp only [hfirst.dropRatio hlast, h.peak]
          cases (VideoCounts.dropRatio _ : Except StatsFault ρ) <;> rfl

theorem recordAll (h : a.SameShare b) (hsamples : List.Forall₂ Sample.SameShare samples samples')
    (timestamp : String) (elapsed : UInt64) :
    (a.recordAll samples >>= (·.ratios? timestamp elapsed)) =
      (b.recordAll samples' >>= (·.ratios? timestamp elapsed)) := by
  induction hsamples generalizing a b with
  | nil => exact h.ratios timestamp elapsed
  | cons hsample _ ih =>
      unfold Collector.recordAll at ih ⊢
      rw [List.foldlM_cons, List.foldlM_cons]
      unfold record
      rcases h.reportOn hsample with ⟨fault, hreport, hreport'⟩ | ⟨report, report', hreport,
        hreport', hsame⟩
      · rw [hreport, hreport']
        rfl
      · rw [hreport, hreport']
        exact ih (h.accept hsample hsame)

end SameShare

end Collector

/-- **The exported ratios** depend on what the samples say of the frames dropped and forwarded, and
on nothing else. -/
theorem exportedRatios_congr (hsamples : List.Forall₂ Sample.SameShare samples samples')
    (timestamp : String) (elapsed : UInt64) :
    exportedRatios ρ samples timestamp elapsed = exportedRatios ρ samples' timestamp elapsed :=
  Collector.SameShare.new.recordAll hsamples timestamp elapsed

end Series

/-! ## Runs -/

/-- The tables at the sample moments of a run: before its first period, and after each. -/
def moments (tables : VideoTables) : List (List FilterEvent) → List VideoTables
  | [] => [tables]
  | events :: periods => tables :: moments (events.foldl FilterEvent.step tables) periods

/-- Each sample was taken at its moment: it holds the filter's counters.  What else it holds is
open. -/
def SampledAt (samples : List Sample) (tables : List VideoTables) : Prop :=
  List.Forall₂ (fun sample tables => sample.video = tables.counts) samples tables

theorem moments_decidesAlike {periods others : List (List FilterEvent)}
    (h : List.Forall₂ Interspersed periods others) {a b : VideoTables} (hab : a.DecidesAlike b) :
    List.Forall₂ VideoTables.DecidesAlike (moments a periods) (moments b others) := by
  induction h generalizing a b with
  | nil => exact .cons hab .nil
  | cons hevents _ ih => exact .cons hab (ih (hevents.decidesAlike hab))

theorem SampledAt.sameShare {samples others : List Sample} {first second : List VideoTables}
    (hsamples : SampledAt samples first) (hothers : SampledAt others second)
    (h : List.Forall₂ VideoTables.DecidesAlike first second) :
    List.Forall₂ Sample.SameShare samples others := by
  induction h generalizing samples others with
  | nil =>
      cases hsamples
      cases hothers
      exact .nil
  | cons halike _ ih =>
      cases hsamples with
      | cons hsample hsamples =>
          cases hothers with
          | cons hother hothers =>
              refine .cons ⟨?_, ?_⟩ (ih hsamples hothers)
              · rw [hsample, hother]
                exact halike.dropped
              · rw [hsample, hother]
                exact halike.forwarded

/-- **When the exported ratio is the dropped share of the video.**  In a period for which the
counters have room, the whole that it divides by is the video that arrived and the strays, so it is
the video alone exactly if there is no stray.  Frames that are neither video nor strays may be put
anywhere into a run without a change of the ratio or of its peak; a position counts as the modes
that it writes. -/
theorem drop_share_of_run (ρ : Type) [Ratio ρ] (tables : VideoTables) :
    (∀ events, tables.HasRoom events →
      (periodCounts tables events).decided =
        ((periodCounts tables events).get .rtpPackets).toNat +
          ((framesOf events).countP fun frame => frame.IsStray) ∧
      (CountsVideoOnly tables events ↔ ∀ frame ∈ framesOf events, ¬ frame.IsStray)) ∧
    (∀ events, CountsVideoOnly tables events →
      (periodCounts tables events).dropRatio =
        .ok ((periodCounts tables events).videoShare : ρ)) ∧
    ∀ periods others, List.Forall₂ Interspersed periods others →
      ∀ samples samples', SampledAt samples (moments tables periods) →
        SampledAt samples' (moments tables others) → ∀ timestamp elapsed,
          exportedRatios ρ samples' timestamp elapsed =
            exportedRatios ρ samples timestamp elapsed := by
  refine ⟨?whole, ?share, ?others⟩
  case whole => exact fun events hroom => ⟨hroom.decided_eq, hroom.countsVideoOnly_iff⟩
  case share => exact fun events hvideo => VideoCounts.dropRatio_of_decided hvideo
  case others =>
    intro periods others hothers samples samples' hsamples hsamples' timestamp elapsed
    have halike := moments_decidesAlike hothers (.refl tables)
    exact (exportedRatios_congr (hsamples.sameShare hsamples' halike) timestamp elapsed).symm

/-- A P slice is dropped.  Then, in another period, a packet that was cut off comes by, a position
out of range, and one that is in range. -/
theorem drop_share_of_run_three_bystanders :
    let slice := (SampleFrame.video 0 (.nalUnit 1)).bytes
    let position := fun x y => SampleFrame.bytes
      { destination := #v[10, 1, 1, 2], port := 5555, parts := [.position x y] }
    let events : List FilterEvent := [.setCamera 0 1, .arrival slice]
    let periods := [events, Position.writes { x := 5, y := 7 } ++ [.arrival slice]]
    let others : List (List FilterEvent) := [events,
      [.arrival (slice.take 40), .arrival (position 1000 7), .arrival (position 5 7),
        .arrival slice]]
    let read := fun tables : VideoTables => { (default : Sample) with video := tables.counts }
    VideoTables.empty.HasRoom events ∧ (∀ frame ∈ framesOf events, ¬ frame.IsStray) ∧
      CountsVideoOnly .empty events ∧
      List.Forall₂ Interspersed periods others ∧
      exportedRatios Float ((moments .empty others).map read) "now" 5 =
        exportedRatios Float ((moments .empty periods).map read) "now" 5 := by
  intro slice position events periods others read
  obtain ⟨hwhole, -, hothers⟩ := drop_share_of_run Float .empty
  have hroom : VideoTables.empty.HasRoom events := by decide +kernel
  have hvideo : ∀ frame ∈ framesOf events, ¬ frame.IsStray := by decide +kernel
  have hbeside : List.Forall₂ Interspersed periods others := by
    have hcut : Frame.IsBystander (slice.take 40) :=
      ⟨by decide +kernel, fun camera hcamera => absurd hcamera.toIsUdp (by decide +kernel),
        by decide +kernel⟩
    have hrefused : (position 1000 7).positionRecord? = some (1000, 7) := by decide +kernel
    have haccepted : (position 5 7).positionRecord? = some (5, 7) := by decide +kernel
    have hsame : Interspersed events events := .keep _ (.keep _ .nil)
    have hrest : Interspersed [.arrival slice] [.arrival slice] := .keep _ .nil
    have hmoved : Interspersed (Position.writes { x := 5, y := 7 } ++ [.arrival slice])
        [.arrival (position 5 7), .arrival slice] := .position haccepted hrest
    have hrejected : Interspersed (Position.writes { x := 1000, y := 7 } ++
        (Position.writes { x := 5, y := 7 } ++ [.arrival slice]))
        [.arrival (position 1000 7), .arrival (position 5 7), .arrival slice] :=
      .position hrefused hmoved
    exact .cons hsame (.cons (.bystander hcut hrejected) .nil)
  have hsamples : ∀ periods,
      SampledAt ((moments .empty periods).map read) (moments .empty periods) :=
    fun periods => List.forall₂_map_left_iff.mpr (List.forall₂_same.mpr fun _ _ => rfl)
  exact ⟨hroom, hvideo, (hwhole events hroom).2.mpr hvideo, hbeside,
    hothers periods others hbeside _ _ (hsamples periods) (hsamples others) "now" 5⟩

/-- A P slice is dropped, and then a frame passes that is no IPv4. -/
def strayPassing : List FilterEvent :=
  [.setCamera 0 1, .arrival (SampleFrame.video 0 (.nalUnit 1)).bytes,
    .arrival { SampleFrame.video 0 (.nalUnit 1) with etherType := 0x0806 }.bytes]

/-- The guarantee fails where a stray passes: the ratio is one half, though all the video that
arrived was dropped. -/
theorem not_countsVideoOnly_strayPassing :
    ¬ CountsVideoOnly .empty strayPassing ∧
      (periodCounts .empty strayPassing).dropRatio = .ok (Ratio.ofCounts 1 2 : Float) ∧
      ((periodCounts .empty strayPassing).videoShare : Float) = Ratio.ofCounts 1 1 := by
  have hdropped : (periodCounts .empty strayPassing).get .dropped = 1 := by decide +kernel
  have hforwarded : (periodCounts .empty strayPassing).get .forwarded = 1 := by decide +kernel
  have hrtp : (periodCounts .empty strayPassing).get .rtpPackets = 1 := by decide +kernel
  refine ⟨?_, ?_, ?_⟩
  · unfold CountsVideoOnly VideoCounts.decided
    rw [hdropped, hforwarded, hrtp]
    decide
  · unfold VideoCounts.dropRatio
    rw [hdropped, hforwarded]
    rfl
  · unfold VideoCounts.videoShare
    rw [hdropped, hrtp]
    rfl

end VideoGate
