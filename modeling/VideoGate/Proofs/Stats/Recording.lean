import VideoGate.Proofs.Stats.Collector

/-!
# Taking in samples

Taking in a sample is all or nothing as long as the samples can be counted: either every field of
the collector is brought up to date, or none is (`Collector.perform_takeIn_of_fits`,
`Collector.perform_takeIn_of_not_fits`).  That is what `Collector.record` does at once
(`Collector.perform_takeIn_eq_record`), also for a series (`Collector.recordAll_eq_ok_iff`).  In a
series each sample is reported on against the one before it, and the first one against itself
(`Collector.TookInAll.reports_eq`).
-/

namespace VideoGate

variable {ρ : Type} [Ratio ρ]

namespace Collector

variable {collector next : Collector ρ} {sample : Sample} {report : IntervalReport ρ}

/-! ## One sample -/

theorem checkedSum_of_lt {a b : UInt64} (h : a.toNat + b.toNat < UInt64.size) :
    checkedSum a b = .ok (a + b) :=
  if_neg (Nat.not_le_of_lt h)

theorem checkedSum_of_not_lt {a b : UInt64} (h : ¬ a.toNat + b.toNat < UInt64.size) :
    checkedSum a b = .error .sumTooLarge :=
  if_pos (Nat.le_of_not_lt h)

namespace Update

variable {α β : Type} (collector : Collector ρ)

omit [Ratio ρ]

theorem perform_bind (update : Update ρ α) (rest : α → Update ρ β) :
    (update >>= rest).perform collector =
      match update.perform collector with
      | (.ok value, collector) => (rest value).perform collector
      | (.error fault, collector) => (.error fault, collector) := by
  unfold perform
  rw [ExceptT.run_bind, StateT.run_bind]
  cases StateT.run (ExceptT.run update) collector with
  | mk result after => cases result <;> rfl

theorem perform_bind_eq_ok_iff {update : Update ρ α} {rest : α → Update ρ β} {result : β}
    {next : Collector ρ} :
    (update >>= rest).perform collector = (.ok result, next) ↔
      ∃ value middle, update.perform collector = (.ok value, middle) ∧
        (rest value).perform middle = (.ok result, next) := by
  rw [perform_bind]
  constructor
  · intro h
    split at h
    case h_1 value middle hupdate => exact ⟨value, middle, hupdate, h⟩
    case h_2 => cases h
  · rintro ⟨value, middle, hupdate, hrest⟩
    rw [hupdate]
    exact hrest

theorem perform_pure (value : α) :
    (pure value : Update ρ α).perform collector = (.ok value, collector) := rfl

theorem perform_get :
    (get : Update ρ (Collector ρ)).perform collector = (.ok collector, collector) := rfl

theorem perform_modify (f : Collector ρ → Collector ρ) :
    (modify f : Update ρ PUnit).perform collector = (.ok (), f collector) := rfl

theorem perform_liftM (outcome : Except StatsFault α) :
    (liftM outcome : Update ρ α).perform collector = (outcome, collector) := rfl

theorem perform_ite (p : Prop) [Decidable p] (a b : Update ρ α) :
    (if p then a else b).perform collector =
      if p then a.perform collector else b.perform collector :=
  apply_ite (·.perform collector) p a b

end Update

/-- A sample that cannot be reported on changes nothing. -/
theorem perform_takeIn_of_not_fits (h : ¬ (collector.precursor sample).Fits sample) :
    (takeIn sample).perform collector = (.error .sumTooLarge, collector) := by
  have hreport := collector.reportOn_eq sample
  rw [if_neg h] at hreport
  unfold takeIn
  simp only [Update.perform_bind, Update.perform_get, Update.perform_liftM, hreport]

/-- A sample that can be reported on is taken in, unless the samples cannot be counted any more;
that comes out when all other fields have been assigned. -/
theorem perform_takeIn_of_fits (h : (collector.precursor sample).Fits sample) :
    (takeIn sample).perform collector =
      let report := (collector.precursor sample).reportTo sample
      if collector.samples.toNat + 1 < UInt64.size then
        (.ok report, collector.accept sample report)
      else
        (.error .sumTooLarge,
          { collector.accept sample report with samples := collector.samples }) := by
  have hreport := collector.reportOn_eq sample
  rw [if_pos h] at hreport
  have hsum : checkedSum ((collector.precursor sample).reportTo sample : IntervalReport ρ).dropped
      ((collector.precursor sample).reportTo sample : IntervalReport ρ).forwarded = .ok _ :=
    checkedSum_of_lt h
  -- A baseline may be kept, and the peak too: in each case the fields end up as `accept` has them.
  unfold takeIn accept
  simp only [Update.perform_bind, Update.perform_get, Update.perform_liftM, hreport, hsum,
    Update.perform_ite, Update.perform_modify, Update.perform_pure]
  by_cases hcount : collector.samples.toNat + 1 < UInt64.size
  · rw [if_pos hcount, checkedSum_of_lt hcount]
    cases collector.baseline <;> split <;> rfl
  · rw [if_neg hcount, checkedSum_of_not_lt hcount]
    cases collector.baseline <;> split <;> rfl

/-- As long as the samples can be counted, one assignment after another comes to what `record` says
at once. -/
theorem perform_takeIn_eq_record (h : collector.samples.toNat + 1 < UInt64.size) :
    (takeIn sample).perform collector =
      match collector.record sample with
      | .ok (report, next) => (.ok report, next)
      | .error fault => (.error fault, collector) := by
  rw [record_eq]
  by_cases hfits : (collector.precursor sample).Fits sample
  · rw [perform_takeIn_of_fits hfits, if_pos hfits]
    exact if_pos h
  · rw [perform_takeIn_of_not_fits hfits, if_neg hfits]

/-- A sample has been taken in. -/
structure TookIn (collector : Collector ρ) (sample : Sample) (report : IntervalReport ρ)
    (next : Collector ρ) : Prop where
  fits : (collector.precursor sample).Fits sample
  counted : collector.samples.toNat + 1 < UInt64.size
  report_eq : report = (collector.precursor sample).reportTo sample
  next_eq : next = collector.accept sample report

theorem perform_takeIn_eq_ok_iff :
    (takeIn sample).perform collector = (.ok report, next) ↔
      collector.TookIn sample report next := by
  by_cases hfits : (collector.precursor sample).Fits sample
  case neg =>
    rw [perform_takeIn_of_not_fits hfits]
    exact ⟨nofun, fun h => absurd h.fits hfits⟩
  rw [perform_takeIn_of_fits hfits]
  by_cases hcount : collector.samples.toNat + 1 < UInt64.size
  case neg =>
    simp only [if_neg hcount]
    exact ⟨nofun, fun h => absurd h.counted hcount⟩
  simp only [if_pos hcount]
  constructor
  · intro h
    cases h
    exact ⟨hfits, hcount, rfl, rfl⟩
  · rintro ⟨-, -, rfl, rfl⟩
    rfl

theorem record_eq_ok_iff (h : collector.samples.toNat + 1 < UInt64.size) :
    collector.record sample = .ok (report, next) ↔ collector.TookIn sample report next := by
  rw [← perform_takeIn_eq_ok_iff, perform_takeIn_eq_record h]
  cases collector.record sample with
  | error fault => exact ⟨nofun, nofun⟩
  | ok outcome =>
      constructor
      · intro hrecord
        cases hrecord
        rfl
      · intro htake
        cases htake
        rfl

namespace TookIn

variable (h : collector.TookIn sample report next)
include h

theorem latest : next.latest = some sample := by
  rw [h.next_eq]
  rfl

theorem toNat_samples : next.samples.toNat = collector.samples.toNat + 1 := by
  rw [h.next_eq]
  show (collector.samples + 1).toNat = _
  rw [UInt64.toNat_add]
  exact Nat.mod_eq_of_lt h.counted

theorem holds {taken : List Sample} (hholds : collector.Holds taken) :
    next.Holds (taken ++ [sample]) := by
  rw [h.next_eq]
  exact hholds.accept sample report

end TookIn

/-! ## Series -/

/-- Takes in a series of samples, with a report on each. -/
def takeInAll (samples : List Sample) : Update ρ (List (IntervalReport ρ)) :=
  samples.mapM takeIn

/-- A series of samples has been taken in, one after the other. -/
inductive TookInAll : Collector ρ → List Sample → List (IntervalReport ρ) → Collector ρ → Prop
  | nil {collector : Collector ρ} : TookInAll collector [] [] collector
  | cons {collector middle last : Collector ρ} {sample : Sample} {samples : List Sample}
      {report : IntervalReport ρ} {reports : List (IntervalReport ρ)} :
      collector.TookIn sample report middle → TookInAll middle samples reports last →
        TookInAll collector (sample :: samples) (report :: reports) last

theorem perform_takeInAll_eq_ok_iff {samples : List Sample} {reports : List (IntervalReport ρ)} :
    (takeInAll samples).perform collector = (.ok reports, next) ↔
      collector.TookInAll samples reports next := by
  unfold takeInAll
  constructor
  case mp =>
    intro h
    induction samples generalizing collector reports with
    | nil =>
        cases h
        exact .nil
    | cons sample samples ih =>
        rw [List.mapM_cons, Update.perform_bind_eq_ok_iff] at h
        obtain ⟨report, middle, hfirst, h⟩ := h
        rw [Update.perform_bind_eq_ok_iff] at h
        obtain ⟨rest, last, hrest, h⟩ := h
        cases h
        exact .cons (perform_takeIn_eq_ok_iff.mp hfirst) (ih hrest)
  case mpr =>
    intro h
    induction h with
    | nil => rfl
    | cons hfirst _ ih =>
        rw [List.mapM_cons, Update.perform_bind_eq_ok_iff]
        refine ⟨_, _, perform_takeIn_eq_ok_iff.mpr hfirst, ?_⟩
        rw [Update.perform_bind_eq_ok_iff]
        exact ⟨_, _, ih, rfl⟩

/-- The two ways of taking in a series agree, as long as its samples can be counted. -/
theorem recordAll_eq_ok_iff {samples : List Sample}
    (h : collector.samples.toNat + samples.length < UInt64.size) :
    collector.recordAll samples = .ok next ↔
      ∃ reports, (takeInAll samples).perform collector = (.ok reports, next) := by
  simp only [perform_takeInAll_eq_ok_iff]
  induction samples generalizing collector with
  | nil =>
      constructor
      · intro hrecord
        cases hrecord
        exact ⟨[], .nil⟩
      · rintro ⟨reports, htook⟩
        cases htook
        rfl
  | cons sample samples ih =>
      rw [List.length_cons] at h
      have hcount : collector.samples.toNat + 1 < UInt64.size := by omega
      have hroom {report : IntervalReport ρ} {middle : Collector ρ}
          (hfirst : collector.TookIn sample report middle) :
          middle.samples.toNat + samples.length < UInt64.size := by
        rw [hfirst.toNat_samples]
        omega
      constructor
      · intro hrecord
        cases hone : collector.record sample with
        | error fault =>
            unfold recordAll at hrecord
            rw [List.foldlM_cons, hone] at hrecord
            cases hrecord
        | ok outcome =>
            obtain ⟨report, middle⟩ := outcome
            have hfirst := (record_eq_ok_iff hcount).mp hone
            rw [recordAll_cons samples (congrArg (Prod.snd <$> ·) hone)] at hrecord
            obtain ⟨reports, hrest⟩ := (ih (hroom hfirst)).mp hrecord
            exact ⟨report :: reports, .cons hfirst hrest⟩
      · rintro ⟨reports, htook⟩
        cases htook with
        | cons hfirst hrest =>
            have hone := (record_eq_ok_iff hcount).mpr hfirst
            rw [recordAll_cons samples (congrArg (Prod.snd <$> ·) hone)]
            exact (ih (hroom hfirst)).mpr ⟨_, hrest⟩

namespace TookInAll

variable {first : Sample} {samples taken : List Sample} {reports : List (IntervalReport ρ)}

theorem holds (h : collector.TookInAll samples reports next) (hholds : collector.Holds taken) :
    next.Holds (taken ++ samples) := by
  induction h generalizing taken with
  | nil => exact (List.append_nil taken).symm ▸ hholds
  | cons hfirst _ ih =>
      rw [List.append_cons]
      exact ih (hfirst.holds hholds)

theorem toNat_samples (h : collector.TookInAll samples reports next) :
    next.samples.toNat = collector.samples.toNat + samples.length := by
  induction h with
  | nil => rfl
  | cons hfirst _ ih =>
      rw [ih, hfirst.toNat_samples, List.length_cons]
      omega

/-- Each sample is reported on against the one before it. -/
theorem reports_eq (h : collector.TookInAll (first :: samples) reports next) :
    reports = List.zipWith Sample.reportTo (collector.precursor first :: first :: samples)
      (first :: samples) := by
  induction samples generalizing collector first reports with
  | nil =>
      cases h with
      | cons hfirst hrest =>
          cases hrest
          rw [hfirst.report_eq]
          rfl
  | cons second samples ih =>
      cases h with
      | cons hfirst hrest =>
          rw [ih hrest, hfirst.report_eq]
          unfold precursor
          rw [hfirst.latest]
          rfl

end TookInAll

end Collector

end VideoGate
