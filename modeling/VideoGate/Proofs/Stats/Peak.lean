import Mathlib.Algebra.Order.Field.Basic
import Mathlib.Algebra.Order.Ring.Rat
import Mathlib.Data.List.MinMax
import Mathlib.Tactic.Linarith
import Mathlib.Tactic.Positivity
import VideoGate.Proofs.Stats.Intervals

/-!
# The peak of the dropped share

With exact fractions for the shares, the peak that a collector keeps is the largest share of any
interval, and it bounds the share of the whole period: what was dropped in all is a sum over the
intervals, each of which drops at most the peak of what it decides (`Collector.peak_of_recorded`).
This needs the sums to be those of the period, so counters that never fall.
-/

namespace VideoGate

/-- Shares as exact fractions. -/
instance : Ratio ℚ where
  zero := 0
  ofCounts part whole := part.toNat / whole.toNat
  larger := max

/-! ## Exact shares -/

/-- The dropped share of what was dropped and forwarded; nothing is dropped of nothing. -/
def exactShare (dropped forwarded : Nat) : ℚ :=
  if dropped + forwarded = 0 then 0 else dropped / (dropped + forwarded)

theorem exactShare_mul (dropped forwarded : Nat) :
    exactShare dropped forwarded * (dropped + forwarded) = dropped := by
  unfold exactShare
  split
  case isTrue h =>
    have hdropped : dropped = 0 := by omega
    rw [hdropped, zero_mul, Nat.cast_zero]
  case isFalse h =>
    have hne : ((dropped : ℚ) + forwarded) ≠ 0 := by exact_mod_cast h
    exact div_mul_cancel₀ _ hne

theorem exactShare_nonneg (dropped forwarded : Nat) : 0 ≤ exactShare dropped forwarded := by
  unfold exactShare
  split
  · exact le_rfl
  · positivity

theorem exactShare_le_of_le_mul {dropped forwarded : Nat} {bound : ℚ} (hbound : 0 ≤ bound)
    (h : (dropped : ℚ) ≤ bound * (dropped + forwarded)) : exactShare dropped forwarded ≤ bound := by
  unfold exactShare
  split
  case isTrue => exact hbound
  case isFalse hne =>
    have hpos : (0 : ℚ) < dropped + forwarded := by exact_mod_cast Nat.pos_of_ne_zero hne
    exact (div_le_iff₀ hpos).mpr h

theorem exactShare_le_one (dropped forwarded : Nat) : exactShare dropped forwarded ≤ 1 := by
  refine exactShare_le_of_le_mul zero_le_one ?_
  have hforwarded : (0 : ℚ) ≤ forwarded := Nat.cast_nonneg forwarded
  linarith

theorem VideoCounts.share_eq_exactShare {counts : VideoCounts}
    (h : (counts.get .dropped).toNat + (counts.get .forwarded).toNat < UInt64.size) :
    counts.share = exactShare (counts.get .dropped).toNat (counts.get .forwarded).toNat := by
  have hsum : (counts.get .dropped + counts.get .forwarded).toNat =
      (counts.get .dropped).toNat + (counts.get .forwarded).toNat := by
    rw [UInt64.toNat_add]
    exact Nat.mod_eq_of_lt h
  have hzero : counts.get .dropped + counts.get .forwarded = 0 ↔
      (counts.get .dropped).toNat + (counts.get .forwarded).toNat = 0 := by
    rw [← hsum, ← UInt64.toNat_inj]
    rfl
  unfold share exactShare
  simp only [hzero]
  split
  · rfl
  · show ((counts.get .dropped).toNat : ℚ) /
      ((counts.get .dropped + counts.get .forwarded).toNat : ℚ) = _
    rw [hsum, Nat.cast_add]

/-! ## Reports -/

/-- A report tells the exact share of what it counts. -/
def IntervalReport.IsExact (report : IntervalReport ℚ) : Prop :=
  report.dropRatio = exactShare report.dropped.toNat report.forwarded.toNat

namespace Collector

variable {collector next : Collector ℚ} {sample : Sample} {samples : List Sample}
  {report : IntervalReport ℚ} {reports : List (IntervalReport ℚ)}

namespace TookIn

variable (h : collector.TookIn sample report next)
include h

theorem isExact : report.IsExact := by
  rw [h.report_eq]
  exact VideoCounts.share_eq_exactShare h.fits

/-- The peak rises to the share of the interval; the share of a quiet one is zero. -/
theorem peak_eq (hpeak : 0 ≤ collector.peak) :
    next.peak = max collector.peak report.dropRatio := by
  have hsum : report.dropped.toNat + report.forwarded.toNat < UInt64.size := by
    rw [h.report_eq]
    exact h.fits
  have hexact := h.isExact
  rw [h.next_eq]
  unfold accept
  simp only
  split
  case isTrue => rfl
  case isFalse hquiet =>
    have hzero : report.dropped.toNat + report.forwarded.toNat = 0 := by
      rw [UInt64.lt_iff_toNat_lt, UInt64.toNat_add, Nat.mod_eq_of_lt hsum, UInt64.toNat_zero]
        at hquiet
      omega
    unfold IntervalReport.IsExact exactShare at hexact
    rw [if_pos hzero] at hexact
    rw [hexact, max_eq_left hpeak]

theorem le_peak (hpeak : 0 ≤ collector.peak) : collector.peak ≤ next.peak := by
  rw [h.peak_eq hpeak]
  exact le_max_left ..

end TookIn

namespace TookInAll

theorem isExact (h : collector.TookInAll samples reports next) :
    ∀ report ∈ reports, report.IsExact := by
  induction h with
  | nil => exact List.forall_mem_nil _
  | cons hfirst _ ih => exact List.forall_mem_cons.mpr ⟨hfirst.isExact, ih⟩

/-- The peak in the end is the largest of the shares and of the peak before. -/
theorem coe_peak (h : collector.TookInAll samples reports next) (hpeak : 0 ≤ collector.peak) :
    (next.peak : WithBot ℚ) =
      max (collector.peak : WithBot ℚ) (reports.map (·.dropRatio)).maximum := by
  induction h with
  | nil => exact (max_eq_left bot_le).symm
  | cons hfirst _ ih =>
      rw [ih (hpeak.trans (hfirst.le_peak hpeak)), hfirst.peak_eq hpeak, List.map_cons,
        List.maximum_cons, WithBot.coe_max, max_assoc]

theorem dropRatio_le_peak (h : collector.TookInAll samples reports next)
    (hpeak : 0 ≤ collector.peak) : ∀ report ∈ reports, report.dropRatio ≤ next.peak := by
  intro report hreport
  have hle : (report.dropRatio : WithBot ℚ) ≤ (reports.map (·.dropRatio)).maximum :=
    List.le_maximum_of_mem' (List.mem_map_of_mem hreport)
  have hpeak := hle.trans (le_max_right (collector.peak : WithBot ℚ) _)
  rw [← h.coe_peak ‹_›] at hpeak
  exact WithBot.coe_le_coe.mp hpeak

end TookInAll

/-- In intervals with at most a given share, at most this share is dropped in all. -/
theorem sum_dropped_le {bound : ℚ} (hexact : ∀ report ∈ reports, report.IsExact)
    (hbound : ∀ report ∈ reports, report.dropRatio ≤ bound) :
    ((Measure.dropped.ofReports reports).sum : ℚ) ≤
      bound * ((Measure.dropped.ofReports reports).sum +
        (Measure.forwarded.ofReports reports).sum) := by
  induction reports with
  | nil => simp [Measure.ofReports]
  | cons report reports ih =>
      obtain ⟨hfirst, hexact⟩ := List.forall_mem_cons.mp hexact
      obtain ⟨hle, hbound⟩ := List.forall_mem_cons.mp hbound
      have hrest := ih hexact hbound
      have hshare := exactShare_mul report.dropped.toNat report.forwarded.toNat
      have hwhole : (0 : ℚ) ≤ report.dropped.toNat + report.forwarded.toNat := by positivity
      -- What an interval drops is its share of what it decides, and that is within the bound.
      have hdropped := mul_le_mul_of_nonneg_right hle hwhole
      rw [hfirst, hshare] at hdropped
      unfold Measure.ofReports at hrest ⊢
      rw [List.map_cons, List.map_cons, List.sum_cons, List.sum_cons]
      rw [Nat.cast_add, Nat.cast_add]
      show (report.dropped.toNat : ℚ) + _ ≤ bound * ((report.dropped.toNat : ℚ) + _ +
        ((report.forwarded.toNat : ℚ) + _))
      linarith

/-- The peak of a series is the largest share of its intervals. -/
theorem TookInAll.maximum_eq (h : new.TookInAll samples reports collector)
    (hreports : reports ≠ []) : (reports.map (·.dropRatio)).maximum = collector.peak := by
  have hcoe := h.coe_peak (le_refl (0 : ℚ))
  cases reports with
  | nil => exact absurd rfl hreports
  | cons report reports =>
      have hzero : (0 : ℚ) ≤ report.dropRatio := by
        rw [h.isExact report List.mem_cons_self]
        exact exactShare_nonneg ..
      have hle : ((0 : ℚ) : WithBot ℚ) ≤
          ((report :: reports).map (·.dropRatio)).maximum :=
        (WithBot.coe_le_coe.mpr hzero).trans (List.le_maximum_of_mem' List.mem_cons_self)
      exact (hcoe.trans (max_eq_right hle)).symm

theorem TookInAll.peak_nonneg (h : new.TookInAll samples reports collector) :
    0 ≤ collector.peak := by
  have hle := le_max_left ((0 : ℚ) : WithBot ℚ) (reports.map (·.dropRatio)).maximum
  exact WithBot.coe_le_coe.mp (hle.trans (h.coe_peak (le_refl (0 : ℚ))).ge)

/-- The share of a period is the exact share of what its snapshot counts, and no more than a peak
that bounds the share of each interval. -/
theorem TookInAll.snapshot_dropRatio (h : new.TookInAll samples reports collector)
    {timestamp : String} {elapsed : UInt64} {snapshot : Snapshot ℚ}
    (hsnapshot : collector.snapshot? timestamp elapsed = .ok (some snapshot)) :
    snapshot.dropRatio = exactShare (Measure.dropped.ofSnapshot snapshot).toNat
        (Measure.forwarded.ofSnapshot snapshot).toNat ∧
      snapshot.peakDropRatio = collector.peak ∧
      (Measure.dropped.NeverFalls samples → Measure.forwarded.NeverFalls samples →
        snapshot.dropRatio ≤ snapshot.peakDropRatio) := by
  have hholds := h.holds .new
  cases hfirst : samples.head? with
  | none =>
      rw [snapshot?_of_none (hholds.baseline.trans hfirst)] at hsnapshot
      cases hsnapshot
  | some first =>
  obtain ⟨last, hlast⟩ : ∃ last, samples.getLast? = some last := by
    rw [← Option.isSome_iff_exists, List.getLast?_isSome]
    rintro rfl
    cases hfirst
  rw [snapshot?_eq (hholds.baseline.trans hfirst) (hholds.latest.trans hlast)] at hsnapshot
  split at hsnapshot
  case isFalse => cases hsnapshot
  case isTrue hfits =>
    cases hsnapshot
    have hshare : (last.video.since first.video).share =
        exactShare (Measure.dropped.growth first last) (Measure.forwarded.growth first last) := by
      rw [VideoCounts.share_eq_exactShare hfits, VideoCounts.get_since, VideoCounts.get_since,
        Counter.toNat_growth, Counter.toNat_growth]
      rfl
    rw [Measure.toNat_ofSnapshot_snapshotTo, Measure.toNat_ofSnapshot_snapshotTo]
    refine ⟨hshare, rfl, ?_⟩
    intro hdropped hforwarded
    have hsum := sum_dropped_le h.isExact (h.dropRatio_le_peak (le_refl (0 : ℚ)))
    rw [h.ofReports_eq hfirst, h.ofReports_eq hfirst,
      ← Measure.growth_eq_sum _ hlast hfirst hdropped,
      ← Measure.growth_eq_sum _ hlast hfirst hforwarded] at hsum
    show (last.video.since first.video).share ≤ collector.peak
    rw [hshare]
    exact exactShare_le_of_le_mul h.peak_nonneg hsum

/-- **The peak share.**  The peak is the largest share of any interval so far, a fraction of one
that never falls and that a quiet interval leaves as it is.  If neither counter ever falls, the
share of the whole period is at most the peak. -/
theorem peak_of_recorded (hrecorded : (takeInAll samples).perform new = (.ok reports, collector)) :
    (∀ report ∈ reports, report.IsExact) ∧
      collector.peak = (reports.map (·.dropRatio)).maximum.unbotD 0 ∧
      0 ≤ collector.peak ∧ collector.peak ≤ 1 ∧
      (∀ sample report next, (takeIn sample).perform collector = (.ok report, next) →
        collector.peak ≤ next.peak ∧
        (report.dropped = 0 → report.forwarded = 0 → next.peak = collector.peak)) ∧
      ∀ timestamp elapsed snapshot,
        collector.snapshot? timestamp elapsed = .ok (some snapshot) →
        snapshot.dropRatio = exactShare (Measure.dropped.ofSnapshot snapshot).toNat
          (Measure.forwarded.ofSnapshot snapshot).toNat ∧
        snapshot.peakDropRatio = collector.peak ∧
        (Measure.dropped.NeverFalls samples → Measure.forwarded.NeverFalls samples →
          snapshot.dropRatio ≤ snapshot.peakDropRatio) := by
  have htook := perform_takeInAll_eq_ok_iff.mp hrecorded
  have hpeak := htook.peak_nonneg
  refine ⟨htook.isExact, ?maximum, hpeak, ?one, ?next, ?period⟩
  case maximum =>
    by_cases hreports : reports = []
    · subst hreports
      cases htook
      rfl
    · rw [htook.maximum_eq hreports, WithBot.unbotD_coe]
  case one =>
    by_cases hreports : reports = []
    · subst hreports
      cases htook
      exact zero_le_one
    · obtain ⟨hmem, -⟩ := List.maximum_eq_coe_iff.mp (htook.maximum_eq hreports)
      obtain ⟨report, hreport, hratio⟩ := List.mem_map.mp hmem
      rw [← hratio, htook.isExact report hreport]
      exact exactShare_le_one ..
  case next =>
    intro sample report next hnext
    have hone := perform_takeIn_eq_ok_iff.mp hnext
    refine ⟨hone.le_peak hpeak, ?_⟩
    intro hdropped hforwarded
    have hquiet : report.dropRatio = 0 := by
      rw [hone.isExact, hdropped, hforwarded]
      rfl
    rw [hone.peak_eq hpeak, hquiet, max_eq_left hpeak]
  case period => exact fun timestamp elapsed snapshot => htook.snapshot_dropRatio

/-- Three quarters are dropped in the busiest of three intervals, four ninths in all of them. -/
theorem peak_of_recorded_quiet_interval :
    let sample := fun dropped forwarded =>
      { (default : Sample) with video := .ofList [0, 0, 0, 0, dropped, forwarded] }
    let samples := [sample 100 100, sample 130 110, sample 130 110, sample 140 150]
    ∃ (reports : List (IntervalReport ℚ)) (collector : Collector ℚ) (snapshot : Snapshot ℚ),
      (takeInAll samples).perform new = (.ok reports, collector) ∧
      (∃ report next, (takeIn (sample 140 150)).perform collector = (.ok report, next) ∧
        next.peak = collector.peak) ∧
      collector.snapshot? "now" 30 = .ok (some snapshot) ∧
      Measure.dropped.NeverFalls samples ∧ Measure.forwarded.NeverFalls samples ∧
      collector.peak = 3 / 4 ∧ snapshot.dropRatio = 4 / 9 ∧
      snapshot.dropRatio ≤ snapshot.peakDropRatio := by
  intro sample samples
  obtain ⟨reports, collector, htook, hpeak⟩ : ∃ reports collector,
      (new : Collector ℚ).TookInAll samples reports collector ∧ collector.peak = 3 / 4 :=
    ⟨_, _, .cons ⟨by decide +kernel, by decide +kernel, rfl, rfl⟩
      (.cons ⟨by decide +kernel, by decide +kernel, rfl, rfl⟩
        (.cons ⟨by decide +kernel, by decide +kernel, rfl, rfl⟩
          (.cons ⟨by decide +kernel, by decide +kernel, rfl, rfl⟩ .nil))), by decide +kernel⟩
  have hrecorded := perform_takeInAll_eq_ok_iff.mpr htook
  have hholds := htook.holds .new
  have hsnapshot := snapshot?_eq hholds.baseline hholds.latest "now" 30
  rw [if_pos (by decide +kernel)] at hsnapshot
  obtain ⟨-, -, -, -, hnext, hperiod⟩ := peak_of_recorded hrecorded
  obtain ⟨-, -, hle⟩ := hperiod "now" 30 _ hsnapshot
  have hdropped : Measure.dropped.NeverFalls samples := by decide +kernel
  have hforwarded : Measure.forwarded.NeverFalls samples := by decide +kernel
  have hshare : ((sample 140 150).video.since (sample 100 100).video).share = (4 / 9 : ℚ) := by
    decide +kernel
  have hself : collector.precursor (sample 140 150) = sample 140 150 := by
    unfold precursor
    rw [hholds.latest]
    rfl
  have hquiet : (takeIn (sample 140 150)).perform collector =
      (.ok firstReport, collector.accept (sample 140 150) firstReport) := by
    refine perform_takeIn_eq_ok_iff.mpr ⟨?_, ?_, ?_, rfl⟩
    · rw [hself]
      exact Sample.fits_self _
    · rw [htook.toNat_samples]
      decide
    · rw [hself, Sample.reportTo_self]
  exact ⟨reports, collector, _, hrecorded, ⟨_, _, hquiet, (hnext _ _ _ hquiet).2 rfl rfl⟩,
    hsnapshot, hdropped, hforwarded, hpeak, hshare, hle hdropped hforwarded⟩

end Collector

end VideoGate
