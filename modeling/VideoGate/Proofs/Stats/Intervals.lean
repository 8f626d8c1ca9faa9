import Mathlib.Algebra.GroupWithZero.Nat
import VideoGate.Proofs.Stats.NamedCounts
import VideoGate.Proofs.Stats.Recording

/-!
# What the intervals of a period add up to

A series of samples is reported on interval by interval, and as a whole by a snapshot.  Growth is
taken to stop at zero, so a counter that is made anew in between adds to the intervals what the
snapshot does not see: their sum is never below the growth of the whole period, and equals it for a
counter that never falls (`Collector.reports_telescope`).
-/

namespace VideoGate

variable {ρ : Type}

/-! ## Measures -/

/-- What is told of every interval. -/
inductive Measure where
  | admitted
  | rtp
  | dropped
  | forwarded
deriving DecidableEq, Repr

namespace Measure

/-- The counter that a measure is taken from. -/
def ofSample (measure : Measure) (sample : Sample) : UInt64 :=
  match measure with
  | admitted => sample.dispatcher.get .admitted
  | rtp => sample.video.get .rtpPackets
  | dropped => sample.video.get .dropped
  | forwarded => sample.video.get .forwarded

/-- The growth in an interval. -/
def ofReport (measure : Measure) (report : IntervalReport ρ) : UInt64 :=
  match measure with
  | admitted => report.admitted
  | rtp => report.rtp
  | dropped => report.dropped
  | forwarded => report.forwarded

/-- The growth in the period of a snapshot, as it is exported. -/
def ofSnapshot (measure : Measure) (snapshot : Snapshot ρ) : UInt64 :=
  match measure with
  | admitted => snapshot.dispatcher.get .admitted
  | rtp => snapshot.video.get "rtp_packets"
  | dropped => snapshot.video.get "dropped"
  | forwarded => snapshot.video.get "forwarded"

/-- The growths of a series of reports. -/
def ofReports (measure : Measure) (reports : List (IntervalReport ρ)) : List Nat :=
  reports.map fun report => (measure.ofReport report).toNat

/-- A counter never falls along a series of samples. -/
def NeverFalls (measure : Measure) (samples : List Sample) : Prop :=
  samples.IsChain fun earlier later => measure.ofSample earlier ≤ measure.ofSample later

instance (measure : Measure) (samples : List Sample) : Decidable (measure.NeverFalls samples) :=
  inferInstanceAs (Decidable (samples.IsChain _))

/-- The count of a counter, as a number. -/
def count (measure : Measure) (sample : Sample) : Nat := (measure.ofSample sample).toNat

/-- How far a counter grew from one sample to another. -/
def growth (measure : Measure) (earlier later : Sample) : Nat :=
  measure.count later - measure.count earlier

theorem toNat_ofReport_reportTo [Ratio ρ] (measure : Measure) (earlier later : Sample) :
    (measure.ofReport (earlier.reportTo later : IntervalReport ρ)).toNat =
      measure.growth earlier later := by
  cases measure with
  | admitted =>
      exact (congrArg UInt64.toNat (DispatchCounts.get_since ..)).trans (Counter.toNat_growth ..)
  | rtp | dropped | forwarded =>
      exact (congrArg UInt64.toNat (VideoCounts.get_since ..)).trans (Counter.toNat_growth ..)

theorem toNat_ofSnapshot_snapshotTo (measure : Measure) (first last : Sample) (timestamp : String)
    (elapsed : UInt64) (ratio peak : ρ) (samples : UInt64) :
    (measure.ofSnapshot (first.snapshotTo last timestamp elapsed ratio peak samples)).toNat =
      measure.growth first last := by
  have hvideo : ∀ stat : VideoStat,
      ((NamedCounts.ofVideo (last.video.since first.video)).get stat.name).toNat =
        (last.video.get stat).toNat - (first.video.get stat).toNat := by
    intro stat
    rw [NamedCounts.get_ofVideo, VideoCounts.get_since]
    exact Counter.toNat_growth ..
  cases measure with
  | admitted =>
      exact (congrArg UInt64.toNat (DispatchCounts.get_since ..)).trans (Counter.toNat_growth ..)
  | rtp => exact hvideo .rtpPackets
  | dropped => exact hvideo .dropped
  | forwarded => exact hvideo .forwarded

end Measure

/-! ## Sums of growths -/

/-- Growths that stop at zero add up to at least the growth of the whole. -/
theorem sub_le_sum_growths (first : Nat) (values : List Nat) :
    values.getLastD first - first ≤
      (List.zipWith (fun earlier later => later - earlier) (first :: values) values).sum := by
  induction values generalizing first with
  | nil => simp
  | cons second values ih =>
      have hrest := ih second
      rw [List.getLastD_cons, List.zipWith_cons_cons, List.sum_cons]
      omega

/-- Along values that never fall nothing is added. -/
theorem sum_growths_add {first : Nat} {values : List Nat}
    (h : (first :: values).IsChain (· ≤ ·)) :
    (List.zipWith (fun earlier later => later - earlier) (first :: values) values).sum + first =
      values.getLastD first := by
  induction values generalizing first with
  | nil => simp
  | cons second values ih =>
      obtain ⟨hle, hrest⟩ := List.isChain_cons_cons.mp h
      have hsum := ih hrest
      rw [List.getLastD_cons, List.zipWith_cons_cons, List.sum_cons]
      omega

namespace Measure

variable [Ratio ρ] (measure : Measure) {first last : Sample} {samples : List Sample}

theorem ofReports_zipWith (first : Sample) (samples : List Sample) :
    measure.ofReports
        (List.zipWith Sample.reportTo (first :: samples) samples : List (IntervalReport ρ)) =
      List.zipWith measure.growth (first :: samples) samples := by
  unfold ofReports
  rw [List.map_zipWith]
  simp only [toNat_ofReport_reportTo]

theorem zipWith_growth_eq (first : Sample) (samples : List Sample) :
    List.zipWith measure.growth (first :: samples) samples =
      List.zipWith (fun earlier later => later - earlier)
        (measure.count first :: samples.map measure.count) (samples.map measure.count) := by
  rw [← List.map_cons, List.zipWith_map]
  rfl

variable (hlast : samples.getLast? = some last)
include hlast

theorem getLastD_map (first : Sample) :
    (samples.map measure.count).getLastD (measure.count first) = measure.count last := by
  rw [List.getLastD_eq_getLast?, List.getLast?_map, hlast]
  rfl

theorem growth_le_sum (first : Sample) :
    measure.growth first last ≤ (List.zipWith measure.growth (first :: samples) samples).sum := by
  have hsum := sub_le_sum_growths (measure.count first) (samples.map measure.count)
  rw [measure.getLastD_map hlast] at hsum
  rw [zipWith_growth_eq]
  exact hsum

theorem growth_eq_sum (hfirst : samples.head? = some first) (h : measure.NeverFalls samples) :
    measure.growth first last = (List.zipWith measure.growth (first :: samples) samples).sum := by
  have hchain : (measure.count first :: samples.map measure.count).IsChain (· ≤ ·) := by
    rw [← List.map_cons, List.isChain_map]
    cases samples with
    | nil => cases hfirst
    | cons sample samples =>
        cases hfirst
        exact .cons_cons (Nat.le_refl _) h
  have hsum := sum_growths_add hchain
  rw [measure.getLastD_map hlast] at hsum
  rw [zipWith_growth_eq]
  unfold growth
  omega

end Measure

/-! ## Periods -/

/-- A snapshot spans the period from one sample to another, both counted in: it tells how far each
counter grew, and all else as the last sample has it. -/
structure Snapshot.Spans (snapshot : Snapshot ρ) (first last : Sample) (samples : Nat) : Prop where
  dispatcher : ∀ counter, (snapshot.dispatcher.get counter).toNat =
    (last.dispatcher.get counter).toNat - (first.dispatcher.get counter).toNat
  video : ∀ name, (snapshot.video.find? name).map UInt64.toNat =
    (VideoStat.all.find? (·.name == name)).map fun stat =>
      (last.video.get stat).toNat - (first.video.get stat).toNat
  totals : ∀ name, snapshot.videoTotals.find? name =
    (VideoStat.all.find? (·.name == name)).map last.video.get
  position : snapshot.position = last.position
  cameras : snapshot.cameras = .ofTable last.cameras
  visits : snapshot.visits = .ofMetadata last.metadata
  samples : snapshot.samples.toNat = samples

theorem Sample.spans_snapshotTo (first last : Sample) (timestamp : String) (elapsed : UInt64)
    (ratio peak : ρ) (samples : UInt64) :
    (first.snapshotTo last timestamp elapsed ratio peak samples).Spans first last
      samples.toNat where
  dispatcher counter :=
    (congrArg UInt64.toNat (DispatchCounts.get_since ..)).trans (Counter.toNat_growth ..)
  video name := by
    unfold snapshotTo
    rw [NamedCounts.find?_ofVideo, Option.map_map]
    refine congrArg (Option.map · _) (funext fun stat => ?_)
    exact (congrArg UInt64.toNat (VideoCounts.get_since ..)).trans (Counter.toNat_growth ..)
  totals := NamedCounts.find?_ofVideo last.video
  position := rfl
  cameras := rfl
  visits := rfl
  samples := rfl

namespace Collector

variable [Ratio ρ]

namespace TookInAll

variable {samples : List Sample} {first : Sample} {reports : List (IntervalReport ρ)}
  {collector : Collector ρ}

theorem reports_eq_of_new (h : new.TookInAll samples reports collector)
    (hfirst : samples.head? = some first) :
    reports = List.zipWith Sample.reportTo (first :: samples) samples := by
  cases samples with
  | nil => cases hfirst
  | cons sample samples =>
      cases hfirst
      exact h.reports_eq

theorem ofReports_eq (h : new.TookInAll samples reports collector)
    (hfirst : samples.head? = some first) (measure : Measure) :
    measure.ofReports reports = List.zipWith measure.growth (first :: samples) samples := by
  rw [h.reports_eq_of_new hfirst]
  exact measure.ofReports_zipWith first samples

end TookInAll

/-- **The intervals of a period.**  A snapshot of a series of samples spans the period from the
first to the last of them.  Every interval is told by how far the counters grew since the sample
before, which is never less than nothing.  The intervals add up to the growth of the period at
least, and exactly so for a counter that never falls. -/
theorem reports_telescope {samples : List Sample} {first last : Sample}
    {reports : List (IntervalReport ρ)} {collector : Collector ρ} {timestamp : String}
    {elapsed : UInt64} {snapshot? : Option (Snapshot ρ)}
    (hfirst : samples.head? = some first) (hlast : samples.getLast? = some last)
    (hrecorded : (takeInAll samples).perform new = (.ok reports, collector))
    (hsnapshot : collector.snapshot? timestamp elapsed = .ok snapshot?) :
    reports.length = samples.length ∧
      ∃ snapshot, snapshot? = some snapshot ∧ snapshot.Spans first last samples.length ∧
        ∀ measure : Measure,
          measure.ofReports reports = List.zipWith measure.growth (first :: samples) samples ∧
          (measure.ofSnapshot snapshot).toNat ≤ (measure.ofReports reports).sum ∧
          (measure.NeverFalls samples →
            (measure.ofSnapshot snapshot).toNat = (measure.ofReports reports).sum) := by
  have htook := perform_takeInAll_eq_ok_iff.mp hrecorded
  have hholds := htook.holds .new
  have hcount : collector.samples.toNat = samples.length :=
    htook.toNat_samples.trans (Nat.zero_add _)
  rw [snapshot?_eq (hholds.baseline.trans hfirst) (hholds.latest.trans hlast)] at hsnapshot
  split at hsnapshot
  case isFalse => cases hsnapshot
  obtain rfl := Except.ok.inj hsnapshot
  refine ⟨?length, _, rfl, ?spans, ?measures⟩
  case length =>
    rw [htook.reports_eq_of_new hfirst, List.length_zipWith, List.length_cons]
    omega
  case spans =>
    rw [← hcount]
    exact first.spans_snapshotTo ..
  case measures =>
    intro measure
    rw [htook.ofReports_eq hfirst measure, Measure.toNat_ofSnapshot_snapshotTo]
    exact ⟨rfl, measure.growth_le_sum hlast first, measure.growth_eq_sum hlast hfirst⟩

/-- The counters are made anew before the last sample: what was dropped since is not seen any more,
neither in the last interval nor in the period.  What was forwarded happens to have grown. -/
theorem reports_telescope_made_anew :
    let sample := fun dropped forwarded =>
      { (default : Sample) with video := .ofList [0, 0, 0, 0, dropped, forwarded] }
    let samples := [sample 5 1, sample 9 2, sample 2 4]
    ∃ (reports : List (IntervalReport Float)) (collector : Collector Float)
      (snapshot : Snapshot Float),
      samples.head? = some (sample 5 1) ∧ samples.getLast? = some (sample 2 4) ∧
      (takeInAll samples).perform new = (.ok reports, collector) ∧
      collector.snapshot? "now" 3 = .ok (some snapshot) ∧
      Measure.dropped.ofReports reports = [0, 4, 0] ∧
      (Measure.dropped.ofSnapshot snapshot).toNat ≤ 4 ∧
      Measure.forwarded.NeverFalls samples ∧ (Measure.forwarded.ofSnapshot snapshot).toNat = 3 := by
  intro sample samples
  obtain ⟨reports, collector, htook⟩ : ∃ reports collector,
      (new : Collector Float).TookInAll samples reports collector :=
    ⟨_, _, .cons ⟨by decide +kernel, by decide +kernel, rfl, rfl⟩
      (.cons ⟨by decide +kernel, by decide +kernel, rfl, rfl⟩
        (.cons ⟨by decide +kernel, by decide +kernel, rfl, rfl⟩ .nil))⟩
  have hrecorded := perform_takeInAll_eq_ok_iff.mpr htook
  have hholds := htook.holds .new
  have hsnapshot := snapshot?_eq hholds.baseline hholds.latest "now" 3
  rw [if_pos (by decide +kernel)] at hsnapshot
  obtain ⟨-, snapshot, hsome, -, hmeasures⟩ := reports_telescope rfl rfl hrecorded hsnapshot
  obtain ⟨hdropped, hleast, -⟩ := hmeasures .dropped
  obtain ⟨hforwarded, -, hsum⟩ := hmeasures .forwarded
  have hnever : Measure.forwarded.NeverFalls samples := by decide +kernel
  have hintervals : List.zipWith Measure.dropped.growth (sample 5 1 :: samples) samples =
      [0, 4, 0] := by decide +kernel
  have hgrown : (List.zipWith Measure.forwarded.growth (sample 5 1 :: samples) samples).sum =
      3 := by decide +kernel
  rw [hdropped, hintervals] at hleast
  rw [hforwarded, hgrown] at hsum
  rw [hsome] at hsnapshot
  exact ⟨reports, collector, snapshot, rfl, rfl, hrecorded, hsnapshot, hdropped.trans hintervals,
    hleast, hnever, hsum hnever⟩

end Collector

end VideoGate
