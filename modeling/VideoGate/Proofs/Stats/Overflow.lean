import VideoGate.Proofs.Stats.Recording

/-!
# Sums that do not fit

What was dropped and forwarded between two samples has to fit into a word.  Whoever offers a
collector one sample after the other learns of each sample that it is refused for, and for that
alone; a refused sample leaves no trace (`Collector.refuses_exactly`).  The sum over the whole
period is another one, so a snapshot may fail though every sample was taken in.
-/

namespace VideoGate

variable {ρ : Type} [Ratio ρ]

namespace Sample

/-- What was dropped and forwarded since an earlier sample. -/
def decidedSince (later earlier : Sample) : Nat :=
  ((later.video.get .dropped).toNat - (earlier.video.get .dropped).toNat) +
    ((later.video.get .forwarded).toNat - (earlier.video.get .forwarded).toNat)

/-- All that was ever dropped and forwarded fits into a word. -/
def InRange (sample : Sample) : Prop :=
  (sample.video.get .dropped).toNat + (sample.video.get .forwarded).toNat < UInt64.size

theorem fits_iff {earlier later : Sample} :
    earlier.Fits later ↔ later.decidedSince earlier < UInt64.size := by
  unfold Fits decidedSince
  rw [VideoCounts.get_since, VideoCounts.get_since, Counter.toNat_growth, Counter.toNat_growth]

theorem not_fits_iff {earlier later : Sample} :
    ¬ earlier.Fits later ↔ UInt64.size ≤ later.decidedSince earlier := by
  rw [fits_iff, Nat.not_lt]

theorem InRange.fits {later : Sample} (h : later.InRange) (earlier : Sample) :
    earlier.Fits later := by
  rw [fits_iff]
  unfold InRange at h
  unfold decidedSince
  omega

end Sample

namespace Collector

/-- Offers samples one after the other, whether they are taken in or not: what comes of each, and
the collector in the end. -/
def offerAll : List Sample → Collector ρ →
    List (Except StatsFault (IntervalReport ρ)) × Collector ρ
  | [], collector => ([], collector)
  | sample :: samples, collector =>
    let (outcome, next) := (takeIn sample).perform collector
    let (outcomes, last) := offerAll samples next
    (outcome :: outcomes, last)

variable {collector next : Collector ρ} {sample : Sample}

theorem offerAll_cons_of_not_fits (h : ¬ (collector.precursor sample).Fits sample)
    (samples : List Sample) :
    offerAll (sample :: samples) collector =
      (.error .sumTooLarge :: (offerAll samples collector).1, (offerAll samples collector).2) := by
  rw [offerAll, perform_takeIn_of_not_fits h]

theorem offerAll_cons_of_tookIn {report : IntervalReport ρ}
    (h : collector.TookIn sample report next) (samples : List Sample) :
    offerAll (sample :: samples) collector =
      (.ok report :: (offerAll samples next).1, (offerAll samples next).2) := by
  rw [offerAll, perform_takeIn_eq_ok_iff.mpr h]

/-- The samples that are taken in make up the collector, as if no others had been offered. -/
theorem tookInAll_offerAll {offered : List Sample}
    (hfew : collector.samples.toNat + offered.length < UInt64.size) :
    ∃ recorded reports, recorded.Sublist offered ∧
      collector.TookInAll recorded reports (offerAll offered collector).2 := by
  induction offered generalizing collector with
  | nil => exact ⟨[], [], .refl _, .nil⟩
  | cons sample offered ih =>
      rw [List.length_cons] at hfew
      by_cases hfits : (collector.precursor sample).Fits sample
      case neg =>
        -- A refused sample is not counted, so there is as much room as before.
        have hroom : collector.samples.toNat + offered.length < UInt64.size := by omega
        obtain ⟨recorded, reports, hsublist, htook⟩ := ih hroom
        rw [offerAll_cons_of_not_fits hfits]
        exact ⟨recorded, reports, hsublist.cons sample, htook⟩
      have hcount : collector.samples.toNat + 1 < UInt64.size := by omega
      obtain ⟨report, next, hfirst⟩ : ∃ report next, collector.TookIn sample report next :=
        ⟨_, _, hfits, hcount, rfl, rfl⟩
      have hroom : next.samples.toNat + offered.length < UInt64.size := by
        rw [hfirst.toNat_samples]
        omega
      obtain ⟨recorded, reports, hsublist, htook⟩ := ih hroom
      rw [offerAll_cons_of_tookIn hfirst]
      exact ⟨sample :: recorded, report :: reports, hsublist.cons_cons sample, .cons hfirst htook⟩

theorem outcome_eq_error_iff {α : Type} {p : Prop} [Decidable p] {value : α}
    {fault : StatsFault} :
    (if p then .ok value else .error .sumTooLarge : Except StatsFault α) = .error fault ↔
      fault = .sumTooLarge ∧ ¬ p := by
  split
  case isTrue h => exact ⟨nofun, fun hfault => absurd h hfault.2⟩
  case isFalse h =>
    constructor
    · intro hfault
      cases hfault
      exact ⟨rfl, h⟩
    · rintro ⟨rfl, -⟩
      rfl

omit [Ratio ρ] in
theorem not_fits_precursor_iff :
    ¬ (collector.precursor sample).Fits sample ↔
      ∃ previous, collector.latest = some previous ∧
        UInt64.size ≤ sample.decidedSince previous := by
  unfold precursor
  rw [Sample.not_fits_iff]
  cases collector.latest with
  | none =>
      have hself := Sample.fits_iff.mp sample.fits_self
      simp only [Option.getD_none, reduceCtorEq, false_and, exists_false, iff_false]
      omega
  | some previous => simp only [Option.getD_some, Option.some.injEq, exists_eq_left']

/-- A sample is refused for the growth since the sample before it. -/
theorem perform_takeIn_eq_error_iff (hcount : collector.samples.toNat + 1 < UInt64.size)
    (fault : StatsFault) :
    ((takeIn sample).perform collector).1 = .error fault ↔
      fault = .sumTooLarge ∧ ∃ previous, collector.latest = some previous ∧
        UInt64.size ≤ sample.decidedSince previous := by
  have houtcome : ((takeIn sample).perform collector).1 =
      if (collector.precursor sample).Fits sample then
        .ok ((collector.precursor sample).reportTo sample)
      else .error .sumTooLarge := by
    split
    case isTrue hfits =>
      rw [perform_takeIn_of_fits hfits]
      simp only [if_pos hcount]
    case isFalse hfits => rw [perform_takeIn_of_not_fits hfits]
  rw [houtcome, outcome_eq_error_iff, not_fits_precursor_iff]

/-- A snapshot fails for the growth over the whole period. -/
theorem snapshot?_eq_error_iff {recorded : List Sample} (hholds : collector.Holds recorded)
    (timestamp : String) (elapsed : UInt64) (fault : StatsFault) :
    collector.snapshot? timestamp elapsed = .error fault ↔
      fault = .sumTooLarge ∧ ∃ first last, recorded.head? = some first ∧
        recorded.getLast? = some last ∧ UInt64.size ≤ last.decidedSince first := by
  cases recorded with
  | nil =>
      rw [snapshot?_of_none hholds.baseline]
      exact ⟨nofun, fun ⟨_, _, _, hnone, _⟩ => nomatch hnone⟩
  | cons first recorded =>
      rw [List.getLast?_cons]
      rw [snapshot?_eq hholds.baseline (hholds.latest.trans List.getLast?_cons),
        outcome_eq_error_iff, Sample.not_fits_iff]
      simp only [List.head?_cons, Option.some.injEq, exists_eq_left', exists_and_left]

/-- **What a collector refuses.**  After any samples that can be counted, a sample is refused if and
only if there is one before it and what was dropped and forwarded since does not fit into a word; it
then leaves no trace in the collector or in anything that comes of it later.  A snapshot fails
exactly if the sum over the whole period does not fit.  Neither ever happens while the counters of
the samples themselves are in range. -/
theorem refuses_exactly (ρ : Type) [Ratio ρ] {offered : List Sample}
    (hfew : offered.length < UInt64.size - 1) :
    let collector : Collector ρ := (offerAll offered new).2
    ∃ recorded reports, recorded.Sublist offered ∧
      (takeInAll recorded).perform new = (.ok reports, collector) ∧
      (∀ sample fault, ((takeIn sample).perform collector).1 = .error fault ↔
        fault = .sumTooLarge ∧ ∃ previous, recorded.getLast? = some previous ∧
          UInt64.size ≤ sample.decidedSince previous) ∧
      (∀ sample fault, ((takeIn sample).perform collector).1 = .error fault →
        ((takeIn sample).perform collector).2 = collector ∧
        ∀ later, offerAll (sample :: later) collector =
          (.error fault :: (offerAll later collector).1, (offerAll later collector).2)) ∧
      (∀ timestamp elapsed fault, collector.snapshot? timestamp elapsed = .error fault ↔
        fault = .sumTooLarge ∧ ∃ first last, recorded.head? = some first ∧
          recorded.getLast? = some last ∧ UInt64.size ≤ last.decidedSince first) ∧
      ((∀ sample ∈ recorded, sample.InRange) →
        (∀ sample, sample.InRange →
          ∃ report, ((takeIn sample).perform collector).1 = .ok report) ∧
        ∀ timestamp elapsed, ∃ snapshot?,
          collector.snapshot? timestamp elapsed = .ok snapshot?) := by
  intro collector
  obtain ⟨recorded, reports, hsublist, htook⟩ :
      ∃ recorded reports, recorded.Sublist offered ∧
        (new : Collector ρ).TookInAll recorded reports collector :=
    tookInAll_offerAll (by show 0 + _ < _; omega)
  have hholds := htook.holds .new
  have hcount : collector.samples.toNat + 1 < UInt64.size := by
    have hlength := hsublist.length_le
    have hsamples : collector.samples.toNat = 0 + recorded.length := htook.toNat_samples
    omega
  have hrefused : ∀ sample fault, ((takeIn sample).perform collector).1 = .error fault ↔
      fault = .sumTooLarge ∧ ∃ previous, recorded.getLast? = some previous ∧
        UInt64.size ≤ sample.decidedSince previous := by
    intro sample fault
    have hlatest : collector.latest = recorded.getLast? := hholds.latest
    rw [perform_takeIn_eq_error_iff hcount, hlatest]
  refine ⟨recorded, reports, hsublist, perform_takeInAll_eq_ok_iff.mpr htook, hrefused, ?untouched,
    snapshot?_eq_error_iff hholds, ?inRange⟩
  case untouched =>
    intro sample fault hfault
    obtain ⟨rfl, hgrown⟩ := (perform_takeIn_eq_error_iff hcount fault).mp hfault
    have hfits := not_fits_precursor_iff.mpr hgrown
    exact ⟨by rw [perform_takeIn_of_not_fits hfits], offerAll_cons_of_not_fits hfits⟩
  case inRange =>
    intro hrange
    constructor
    · intro sample hsample
      cases houtcome : ((takeIn sample).perform collector).1 with
      | ok report => exact ⟨report, rfl⟩
      | error fault =>
          obtain ⟨-, previous, -, hgrown⟩ := (hrefused sample fault).mp houtcome
          exact absurd (hsample.fits previous) (Sample.not_fits_iff.mpr hgrown)
    · intro timestamp elapsed
      cases hsnapshot : collector.snapshot? timestamp elapsed with
      | ok snapshot? => exact ⟨snapshot?, rfl⟩
      | error fault =>
          obtain ⟨-, first, last, -, hlast, hgrown⟩ :=
            (snapshot?_eq_error_iff hholds timestamp elapsed fault).mp hsnapshot
          have hlast : last.InRange := hrange last (List.mem_of_getLast? hlast)
          exact absurd (hlast.fits first) (Sample.not_fits_iff.mpr hgrown)

/-- A sample that grows by more than a word holds is refused, and does not show in what comes after
it.  The same growth in two steps is taken in, and then there is no snapshot. -/
theorem refuses_exactly_in_two_steps :
    let sample := fun dropped forwarded =>
      { (default : Sample) with video := .ofList [0, 0, 0, 0, dropped, forwarded] }
    let start : Collector Float := (offerAll [sample 0 0] new).2
    let steps := [sample 0 0, sample Counter.limit 0, sample Counter.limit 1]
    let collector : Collector Float := (offerAll steps new).2
    [sample 0 0].length < UInt64.size - 1 ∧ steps.length < UInt64.size - 1 ∧
      (takeIn (sample Counter.limit 1)).perform start = (.error .sumTooLarge, start) ∧
      (offerAll (sample Counter.limit 1 :: steps) start).2 = (offerAll steps start).2 ∧
      collector.samples = 3 ∧ collector.snapshot? "now" 5 = .error .sumTooLarge := by
  intro sample start steps collector
  have hfew : [sample 0 0].length < UInt64.size - 1 := by decide
  have hfew' : steps.length < UInt64.size - 1 := by decide
  obtain ⟨recorded, _, -, htook, hrefused, huntouched, -⟩ := refuses_exactly Float hfew
  obtain ⟨recorded', _, -, htook', -, -, hfails, -⟩ := refuses_exactly Float hfew'
  have hholds := (perform_takeInAll_eq_ok_iff.mp htook).holds .new
  have hholds' := (perform_takeInAll_eq_ok_iff.mp htook').holds .new
  have hlatest : start.latest = some (sample 0 0) := by decide +kernel
  have hbaseline' : collector.baseline = some (sample 0 0) := by decide +kernel
  have hlatest' : collector.latest = some (sample Counter.limit 1) := by decide +kernel
  have hgrown : UInt64.size ≤ (sample Counter.limit 1).decidedSince (sample 0 0) := by
    decide +kernel
  have hfault := (hrefused (sample Counter.limit 1) .sumTooLarge).mpr
    ⟨rfl, sample 0 0, hholds.latest.symm.trans hlatest, hgrown⟩
  obtain ⟨hsame, hlater⟩ := huntouched _ _ hfault
  have hstate := congrArg Prod.snd (hlater steps)
  refine ⟨hfew, hfew', Prod.ext hfault hsame, hstate, ?_, ?_⟩
  · decide +kernel
  · exact (hfails "now" 5 _).mpr ⟨rfl, sample 0 0, sample Counter.limit 1,
      hholds'.baseline.symm.trans hbaseline', hholds'.latest.symm.trans hlatest', hgrown⟩

end Collector

end VideoGate
