import Mathlib.Data.List.Chain
import VideoGate.Stats.Collector

/-!
# What a series of samples comes to

Only the first and the last sample of a series bear on its snapshot; the samples between them are
counted and may raise the peak, and that is all (`Collector.snapshot?_of_series`).  A series is
refused only where two samples have drifted so far apart that what was dropped and forwarded
between them does not fit into a word.
-/

namespace VideoGate

theorem VideoCounts.get_since (later earlier : VideoCounts) (stat : VideoStat) :
    (later.since earlier).get stat = Counter.growth (later.get stat) (earlier.get stat) :=
  Vector.getElem_zipWith stat.index_lt

theorem DispatchCounts.get_since (later earlier : DispatchCounts) (counter : DispatchCounter) :
    (later.since earlier).get counter =
      Counter.growth (later.get counter) (earlier.get counter) :=
  Vector.getElem_zipWith counter.index_lt

/-- What was dropped and forwarded from one sample to another fits into a word. -/
def Sample.Fits (earlier later : Sample) : Prop :=
  ((later.video.since earlier.video).get .dropped).toNat +
    ((later.video.since earlier.video).get .forwarded).toNat < UInt64.size

variable {ρ : Type} [Ratio ρ]

/-! ## Reports -/

/-- The dropped share of what was dropped and forwarded. -/
def VideoCounts.share (counts : VideoCounts) : ρ :=
  if counts.get .dropped + counts.get .forwarded = 0 then Ratio.zero
  else Ratio.ofCounts (counts.get .dropped) (counts.get .dropped + counts.get .forwarded)

theorem VideoCounts.dropRatio_eq (counts : VideoCounts) :
    (counts.dropRatio : Except StatsFault ρ) =
      if (counts.get .dropped).toNat + (counts.get .forwarded).toNat < UInt64.size then
        .ok counts.share
      else .error .sumTooLarge := by
  unfold dropRatio share
  by_cases h : (counts.get .dropped).toNat + (counts.get .forwarded).toNat < UInt64.size
  · simp only [if_pos h, if_neg (Nat.not_le_of_lt h)]
    split <;> rfl
  · simp only [if_neg h, if_pos (Nat.le_of_not_lt h)]

theorem Sample.Fits.exists_dropRatio {earlier later : Sample} (h : earlier.Fits later) :
    ∃ ratio : ρ, (later.video.since earlier.video).dropRatio = .ok ratio :=
  ⟨_, (VideoCounts.dropRatio_eq _).trans (if_pos h)⟩

namespace Sample

instance (earlier later : Sample) : Decidable (earlier.Fits later) :=
  inferInstanceAs (Decidable (_ < _))

/-- The report on a sample that follows another one. -/
def reportTo (earlier later : Sample) : IntervalReport ρ where
  admitted := (later.dispatcher.since earlier.dispatcher).get .admitted
  rtp := (later.video.since earlier.video).get .rtpPackets
  dropped := (later.video.since earlier.video).get .dropped
  forwarded := (later.video.since earlier.video).get .forwarded
  dropRatio := (later.video.since earlier.video).share

theorem growth_self (count : UInt64) : Counter.growth count count = 0 := by
  refine UInt64.toNat_inj.mp ?_
  rw [Counter.toNat_growth, Nat.sub_self]
  rfl

theorem fits_self (sample : Sample) : sample.Fits sample := by
  unfold Fits
  simp only [VideoCounts.get_since, growth_self]
  decide

/-- A first sample is reported on as if it followed itself. -/
theorem reportTo_self (sample : Sample) :
    sample.reportTo sample = (Collector.firstReport : IntervalReport ρ) := by
  unfold reportTo Collector.firstReport VideoCounts.share
  simp only [VideoCounts.get_since, DispatchCounts.get_since, growth_self]
  rfl

end Sample

namespace Collector

theorem reportBetween_eq (earlier later : Sample) :
    (reportBetween earlier later : Except StatsFault (IntervalReport ρ)) =
      if earlier.Fits later then .ok (earlier.reportTo later) else .error .sumTooLarge := by
  have hratio := VideoCounts.dropRatio_eq (ρ := ρ) (later.video.since earlier.video)
  unfold reportBetween
  by_cases hfits : earlier.Fits later
  · rw [if_pos hfits]
    simp only [hratio.trans (if_pos hfits)]
    rfl
  · rw [if_neg hfits]
    simp only [hratio.trans (if_neg hfits)]
    rfl

/-- The sample that another one is reported on against. -/
def precursor (collector : Collector ρ) (sample : Sample) : Sample :=
  collector.latest.getD sample

theorem reportOn_eq (collector : Collector ρ) (sample : Sample) :
    collector.reportOn sample =
      if (collector.precursor sample).Fits sample then
        .ok ((collector.precursor sample).reportTo sample)
      else .error .sumTooLarge := by
  unfold reportOn precursor
  cases collector.latest with
  | none =>
      rw [Option.getD_none, if_pos sample.fits_self, Sample.reportTo_self]
  | some previous => exact reportBetween_eq previous sample

theorem record_eq (collector : Collector ρ) (sample : Sample) :
    collector.record sample =
      if (collector.precursor sample).Fits sample then
        .ok ((collector.precursor sample).reportTo sample,
          collector.accept sample ((collector.precursor sample).reportTo sample))
      else .error .sumTooLarge := by
  unfold record
  rw [reportOn_eq]
  split <;> rfl

/-! ## Series -/

def recordAll (collector : Collector ρ) (samples : List Sample) :
    Except StatsFault (Collector ρ) :=
  samples.foldlM (fun collector sample => Prod.snd <$> collector.record sample) collector

variable {collector : Collector ρ} {sample : Sample}

theorem recordAll_cons {next : Collector ρ} (samples : List Sample)
    (h : Prod.snd <$> collector.record sample = .ok next) :
    collector.recordAll (sample :: samples) = next.recordAll samples := by
  unfold recordAll
  rw [List.foldlM_cons, h]
  rfl

/-- What a collector holds of the samples that it took in. -/
structure Holds (collector : Collector ρ) (taken : List Sample) : Prop where
  baseline : collector.baseline = taken.head?
  latest : collector.latest = taken.getLast?
  samples : collector.samples = .ofNat taken.length

namespace Holds

variable {taken : List Sample}

theorem new : (new : Collector ρ).Holds [] := ⟨rfl, rfl, rfl⟩

theorem accept (h : collector.Holds taken) (sample : Sample) (report : IntervalReport ρ) :
    (collector.accept sample report).Holds (taken ++ [sample]) where
  baseline := by
    show some (collector.baseline.getD sample) = _
    rw [h.baseline]
    cases taken <;> rfl
  latest := List.getLast?_concat.symm
  samples := by
    show collector.samples + 1 = _
    rw [h.samples, List.length_append, List.length_singleton, UInt64.ofNat_add]
    rfl

theorem record (h : collector.Holds taken)
    (hfits : ∀ previous ∈ taken.getLast?, previous.Fits sample) :
    ∃ next, Prod.snd <$> collector.record sample = .ok next ∧ next.Holds (taken ++ [sample]) := by
  have hprecursor : (collector.precursor sample).Fits sample := by
    unfold precursor
    rw [h.latest]
    cases hlast : taken.getLast? with
    | none => exact sample.fits_self
    | some previous => exact hfits previous hlast
  refine ⟨_, ?_, h.accept sample ((collector.precursor sample).reportTo sample)⟩
  rw [record_eq, if_pos hprecursor]
  rfl

/-- A series is taken in as a whole if each sample fits the one before. -/
theorem recordAll (h : collector.Holds taken) {samples : List Sample}
    (hchain : (taken ++ samples).IsChain Sample.Fits) :
    ∃ next, collector.recordAll samples = .ok next ∧ next.Holds (taken ++ samples) := by
  -- What was taken in so far grows by one sample a step, and the chain is cut behind it.
  induction samples generalizing collector taken with
  | nil => exact ⟨collector, rfl, (List.append_nil taken).symm ▸ h⟩
  | cons sample samples ih =>
      obtain ⟨-, -, hfits⟩ := List.isChain_append.mp hchain
      obtain ⟨next, hrecord, hnext⟩ := h.record fun previous hprevious =>
        hfits previous hprevious sample rfl
      rw [List.append_cons] at hchain ⊢
      rw [recordAll_cons samples hrecord]
      exact ih hnext hchain

end Holds

end Collector

/-! ## Snapshots -/

/-- The snapshot of a period, by its first and its last sample. -/
def Sample.snapshotTo (first last : Sample) (timestamp : String) (elapsed : UInt64)
    (dropRatio peak : ρ) (samples : UInt64) : Snapshot ρ where
  timestamp
  durationSeconds := elapsed
  samples
  dispatcher := last.dispatcher.since first.dispatcher
  video := .ofVideo (last.video.since first.video)
  videoTotals := .ofVideo last.video
  dropRatio
  peakDropRatio := peak
  position := last.position
  cameras := .ofTable last.cameras
  visits := .ofMetadata last.metadata

namespace Collector

variable {collector : Collector ρ} {first last : Sample}

theorem snapshot?_eq {first last : Sample} (hbaseline : collector.baseline = some first)
    (hlatest : collector.latest = some last) (timestamp : String) (elapsed : UInt64) :
    collector.snapshot? timestamp elapsed =
      if first.Fits last then
        .ok (some (first.snapshotTo last timestamp elapsed (last.video.since first.video).share
          collector.peak collector.samples))
      else .error .sumTooLarge := by
  have hratio := VideoCounts.dropRatio_eq (ρ := ρ) (last.video.since first.video)
  unfold snapshot?
  simp only [hbaseline, hlatest]
  by_cases hfits : first.Fits last
  · rw [if_pos hfits]
    simp only [hratio.trans (if_pos hfits)]
    rfl
  · rw [if_neg hfits]
    simp only [hratio.trans (if_neg hfits)]
    rfl

theorem snapshot?_of_none (h : collector.baseline = none) (timestamp : String)
    (elapsed : UInt64) : collector.snapshot? timestamp elapsed = .ok none := by
  unfold snapshot?
  rw [h]
  rfl

/-- **The snapshot of a series** is that of its first and its last sample, but for the peak and
the number of samples. -/
theorem snapshot?_of_series {samples : List Sample} (hfirst : samples.head? = some first)
    (hlast : samples.getLast? = some last) (hchain : samples.IsChain Sample.Fits) {ratio : ρ}
    (hratio : (last.video.since first.video).dropRatio = .ok ratio) (timestamp : String)
    (elapsed : UInt64) :
    ∃ peak, (do (← (new : Collector ρ).recordAll samples).snapshot? timestamp elapsed) =
      .ok (some (first.snapshotTo last timestamp elapsed ratio peak (.ofNat samples.length))) := by
  have hnew : (new : Collector ρ).Holds [] := .new
  obtain ⟨collector, hrecord, hholds⟩ := hnew.recordAll hchain
  refine ⟨collector.peak, ?_⟩
  have hbaseline := hholds.baseline.trans hfirst
  have hlatest := hholds.latest.trans hlast
  have hcount := hholds.samples
  show (new : Collector ρ).recordAll samples >>= _ = _
  rw [hrecord]
  show collector.snapshot? timestamp elapsed = _
  unfold snapshot?
  simp only [hbaseline, hlatest, hratio, hcount]
  rfl

end Collector

end VideoGate
