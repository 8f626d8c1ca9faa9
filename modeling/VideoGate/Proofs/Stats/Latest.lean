import VideoGate.Proofs.Stats.Overflow

/-!
# The sample that a collector compares with

A collector tells each sample against the latest one that it took in.  One that does not fit the
latest one is refused and leaves it as it is, so of the samples that are offered some are kept
(`keptFrom`), and the latest sample is the last of these (`Collector.latest_offerAll`).
-/

namespace VideoGate

variable {ρ : Type} [Ratio ρ] {α : Type} (sampleOf : α → Sample)

/-- Of all that is offered, one after the other, what the rest is told against: what does not fit
the one kept before is left out. -/
def keptFrom (previous : Option α) : List α → List α
  | [] => []
  | next :: rest =>
    if ((previous.map sampleOf).getD (sampleOf next)).Fits (sampleOf next) then
      next :: keptFrom (some next) rest
    else keptFrom previous rest

theorem keptFrom_sublist (previous : Option α) (offered : List α) :
    (keptFrom sampleOf previous offered).Sublist offered := by
  induction offered generalizing previous with
  | nil => exact .refl _
  | cons next rest ih =>
      rw [keptFrom]
      split
      · exact (ih (some next)).cons_cons next
      · exact (ih previous).cons next

/-- Everything behind the last one that is kept is refused against it. -/
theorem eq_append_of_getLast?_keptFrom {previous : Option α} {offered : List α} {last : α}
    (h : (keptFrom sampleOf previous offered).getLast?.or previous = some last) :
    (∃ before after, offered = before ++ last :: after ∧
        ∀ refused ∈ after, ¬ (sampleOf last).Fits (sampleOf refused)) ∨
      (previous = some last ∧ ∀ refused ∈ offered, ¬ (sampleOf last).Fits (sampleOf refused)) := by
  induction offered generalizing previous with
  | nil => exact .inr ⟨h, nofun⟩
  | cons next rest ih =>
      rw [keptFrom] at h
      by_cases hfits : ((previous.map sampleOf).getD (sampleOf next)).Fits (sampleOf next)
      case pos =>
        rw [if_pos hfits, List.getLast?_cons, Option.some_or] at h
        have hrest : (keptFrom sampleOf (some next) rest).getLast?.or (some next) = some last := by
          rw [← h]
          cases (keptFrom sampleOf (some next) rest).getLast? <;> rfl
        rcases ih hrest with ⟨before, after, rfl, hrefused⟩ | ⟨hnext, hrefused⟩
        · exact .inl ⟨next :: before, after, rfl, hrefused⟩
        · obtain rfl := Option.some.inj hnext
          exact .inl ⟨[], rest, rfl, hrefused⟩
      case neg =>
        rw [if_neg hfits] at h
        rcases ih h with ⟨before, after, rfl, hrefused⟩ | ⟨rfl, hrefused⟩
        · exact .inl ⟨next :: before, after, rfl, hrefused⟩
        · refine .inr ⟨rfl, ?_⟩
          rw [List.forall_mem_cons]
          exact ⟨hfits, hrefused⟩

namespace Collector

variable {collector : Collector ρ} {sample : Sample}

/-- A sample that fits becomes the latest one, even if it cannot be counted any more. -/
theorem latest_takeIn (collector : Collector ρ) (sample : Sample) :
    ((takeIn sample).perform collector).2.latest =
      if (collector.precursor sample).Fits sample then some sample else collector.latest := by
  split
  case isTrue hfits =>
    rw [perform_takeIn_of_fits hfits]
    dsimp only
    split <;> rfl
  case isFalse hfits => rw [perform_takeIn_of_not_fits hfits]

theorem offerAll_cons (sample : Sample) (samples : List Sample) (collector : Collector ρ) :
    offerAll (sample :: samples) collector =
      let next := ((takeIn sample).perform collector).2
      (((takeIn sample).perform collector).1 :: (offerAll samples next).1,
        (offerAll samples next).2) := rfl

theorem offerAll_append (before after : List Sample) (collector : Collector ρ) :
    offerAll (before ++ after) collector =
      ((offerAll before collector).1 ++ (offerAll after (offerAll before collector).2).1,
        (offerAll after (offerAll before collector).2).2) := by
  induction before generalizing collector with
  | nil => rfl
  | cons sample before ih => simp only [List.cons_append, offerAll_cons, ih]

/-- **The latest sample** is the last one that was kept. -/
theorem latest_offerAll {previous : Option α} (h : collector.latest = previous.map sampleOf)
    (offered : List α) :
    (offerAll (offered.map sampleOf) collector).2.latest =
      ((keptFrom sampleOf previous offered).getLast?.or previous).map sampleOf := by
  induction offered generalizing collector previous with
  | nil =>
      rw [keptFrom, List.getLast?_nil, Option.none_or]
      exact h
  | cons next rest ih =>
      have hlatest := collector.latest_takeIn (sampleOf next)
      unfold precursor at hlatest
      rw [h] at hlatest
      rw [List.map_cons, offerAll_cons, keptFrom]
      by_cases hfits : ((previous.map sampleOf).getD (sampleOf next)).Fits (sampleOf next)
      · rw [if_pos hfits] at hlatest ⊢
        rw [@ih _ (some next) hlatest, List.getLast?_cons]
        cases (keptFrom sampleOf (some next) rest).getLast? <;> rfl
      · rw [if_neg hfits] at hlatest ⊢
        exact ih hlatest

/-- A snapshot has the totals of the latest sample. -/
theorem videoTotals_of_snapshot? {timestamp : String} {elapsed : UInt64} {snapshot : Snapshot ρ}
    (h : collector.snapshot? timestamp elapsed = .ok (some snapshot)) :
    ∃ latest, collector.latest = some latest ∧
      snapshot.videoTotals = .ofVideo latest.video := by
  cases hbaseline : collector.baseline with
  | none =>
      rw [snapshot?_of_none hbaseline] at h
      cases h
  | some baseline =>
      cases hlatest : collector.latest with
      | none =>
          unfold snapshot? at h
          rw [hbaseline, hlatest] at h
          cases h
      | some latest =>
          rw [snapshot?_eq hbaseline hlatest] at h
          split at h
          case isFalse => cases h
          obtain rfl := Option.some.inj (Except.ok.inj h)
          exact ⟨latest, rfl, rfl⟩

/-- Of samples that are all taken in, all are kept. -/
theorem TookInAll.keptFrom_eq {samples : List Sample} {reports : List (IntervalReport ρ)}
    {last : Collector ρ} (h : collector.TookInAll samples reports last) :
    keptFrom id collector.latest samples = samples := by
  induction h with
  | nil => rfl
  | @cons collector middle last sample samples report reports hfirst _ ih =>
      have hfits : ((collector.latest.map id).getD (id sample)).Fits (id sample) := by
        rw [Option.map_id]
        exact hfirst.fits
      rw [hfirst.latest] at ih
      rw [keptFrom, if_pos hfits, ih]

/-- There are no samples exactly if none is the latest one. -/
def CountsFromNone (collector : Collector ρ) : Prop :=
  collector.samples = 0 ↔ collector.latest = none

theorem CountsFromNone.next (h : collector.CountsFromNone) (sample : Sample) :
    ((takeIn sample).perform collector).2.CountsFromNone := by
  by_cases hfits : (collector.precursor sample).Fits sample
  case neg =>
    rw [perform_takeIn_of_not_fits hfits]
    exact h
  -- A count that has come to its end stays there, and does not start anew.
  have hcount : ((takeIn sample).perform collector).2.samples ≠ 0 := by
    rw [perform_takeIn_of_fits hfits]
    dsimp only
    split
    case isTrue hroom =>
      intro hzero
      have hnext : (collector.samples + 1).toNat = collector.samples.toNat + 1 := by
        rw [UInt64.toNat_add]
        exact Nat.mod_eq_of_lt hroom
      rw [show collector.samples + 1 = 0 from hzero] at hnext
      cases hnext
    case isFalse hfull =>
      intro hzero
      rw [show collector.samples = 0 from hzero] at hfull
      exact hfull (by decide)
  have hlatest := collector.latest_takeIn sample
  rw [if_pos hfits] at hlatest
  unfold CountsFromNone
  rw [hlatest]
  exact iff_of_false hcount nofun

theorem CountsFromNone.last (h : collector.CountsFromNone) (samples : List Sample) :
    (offerAll samples collector).2.CountsFromNone := by
  induction samples generalizing collector with
  | nil => exact h
  | cons sample samples ih => exact ih (h.next sample)

end Collector

end VideoGate
