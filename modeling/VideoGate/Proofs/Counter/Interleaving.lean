import Mathlib.Algebra.GroupWithZero.Nat
import Mathlib.Logic.Function.Iterate
import Mathlib.Logic.Relation
import VideoGate.Counter

/-!
# A counter with many callers

`Counter.increment` is one call from its start to its end.  Where many call at once, a call is two
steps: it adds one to the word, which may wrap, and if the word was the largest one it puts the
largest word back later.  Meanwhile the others add to the wrapped word, or wrap it once more.  In
whatever order the steps come, no call is lost (`calls_never_lost`): when all calls are over, the
counter is where as many calls one after the other would have left it.
-/

namespace VideoGate.Counter

/-- One of those who call. -/
structure Caller where
  /-- Number of calls that have not begun. -/
  waiting : Nat
  /-- In the current call the word was wrapped, and has still to be put right. -/
  mending : Bool
deriving DecidableEq, Repr

/-- A counter, and all who call it. -/
structure Shared where
  count : UInt64
  callers : List Caller
deriving DecidableEq, Repr

/-- One step of one caller. -/
inductive Step : Shared → Shared → Prop
  | add (count : UInt64) (waiting : Nat) (before after : List Caller) :
      Step ⟨count, before ++ ⟨waiting + 1, false⟩ :: after⟩
        ⟨count + 1, before ++ ⟨waiting, count == limit⟩ :: after⟩
  | mend (count : UInt64) (waiting : Nat) (before after : List Caller) :
      Step ⟨count, before ++ ⟨waiting, true⟩ :: after⟩
        ⟨limit, before ++ ⟨waiting, false⟩ :: after⟩

/-- Steps of any callers, in any order. -/
abbrev Steps : Shared → Shared → Prop := Relation.ReflTransGen Step

/-! ## What is left to do -/

section Callers

/-- Number of calls that have not begun. -/
def waitingOf (callers : List Caller) : Nat := (callers.map Caller.waiting).sum

/-- Number of steps that the callers have still to make, at most. -/
def workOf (callers : List Caller) : Nat :=
  (callers.map fun caller => 2 * caller.waiting + caller.mending.toNat).sum

variable (caller : Caller) (before after : List Caller)

theorem waitingOf_middle :
    waitingOf (before ++ caller :: after) = caller.waiting + waitingOf (before ++ after) :=
  (List.perm_middle.map _).sum_nat

theorem workOf_middle :
    workOf (before ++ caller :: after) =
      2 * caller.waiting + caller.mending.toNat + workOf (before ++ after) :=
  (List.perm_middle.map _).sum_nat

variable {caller before after} in
theorem mem_middle_iff {other : Caller} :
    other ∈ before ++ caller :: after ↔ other = caller ∨ other ∈ before ++ after :=
  List.perm_middle.mem_iff.trans List.mem_cons

end Callers

namespace Shared

/-- Nobody has begun; each caller is going to call so many times. -/
def start (count : UInt64) (calls : List Nat) : Shared :=
  ⟨count, calls.map fun waiting => ⟨waiting, false⟩⟩

/-- All calls are over. -/
def Finished (shared : Shared) : Prop :=
  ∀ caller ∈ shared.callers, caller.waiting = 0 ∧ caller.mending = false

instance (shared : Shared) : Decidable shared.Finished :=
  inferInstanceAs (Decidable (∀ caller ∈ shared.callers, _))

theorem waitingOf_start (count : UInt64) (calls : List Nat) :
    waitingOf (start count calls).callers = calls.sum := by
  unfold start waitingOf
  rw [List.map_map]
  exact congrArg List.sum (List.map_id' calls)

theorem Finished.waitingOf_eq {shared : Shared} (h : shared.Finished) :
    waitingOf shared.callers = 0 := by
  refine List.sum_eq_zero_iff_forall_eq_nat.mpr ?_
  intro waiting hwaiting
  obtain ⟨caller, hcaller, rfl⟩ := List.mem_map.mp hwaiting
  exact (h caller hcaller).1

/-! ## Where the counter leads -/

/-- The counter would lead to `goal` if words had no limit.  Either the calls that wait make up
what is missing; or the goal is out of reach by now, and the word is the largest one or will be put
right. -/
inductive LeadsTo (goal : Nat) (shared : Shared) : Prop
  | reaching : shared.count.toNat + waitingOf shared.callers = goal →
      (∀ caller ∈ shared.callers, caller.mending = false) → LeadsTo goal shared
  | beyond : UInt64.size + waitingOf shared.callers ≤ goal →
      (shared.count = limit ∨ ∃ caller ∈ shared.callers, caller.mending = true) →
      LeadsTo goal shared

theorem leadsTo_start (count : UInt64) (calls : List Nat) :
    (start count calls).LeadsTo (count.toNat + calls.sum) := by
  refine .reaching (by rw [waitingOf_start]; rfl) ?_
  intro caller hcaller
  obtain ⟨waiting, -, rfl⟩ := List.mem_map.mp hcaller
  rfl

section Add

variable {goal : Nat} {count : UInt64} {waiting : Nat} {before after : List Caller}

/-- The word wraps, and its caller has to put it right. -/
theorem LeadsTo.wrap (h : LeadsTo goal ⟨limit, before ++ ⟨waiting + 1, false⟩ :: after⟩) :
    LeadsTo goal ⟨limit + 1, before ++ ⟨waiting, true⟩ :: after⟩ := by
  have hmax : limit.toNat + 1 = UInt64.size := rfl
  refine .beyond ?_ (.inr ⟨_, mem_middle_iff.mpr (.inl rfl), rfl⟩)
  cases h with
  | reaching hgoal _ =>
      simp only [waitingOf_middle] at hgoal ⊢
      omega
  | beyond hgoal _ =>
      simp only [waitingOf_middle] at hgoal ⊢
      omega

/-- The word grows without wrapping; if it is to be put right, then by another caller. -/
theorem LeadsTo.grow (hlimit : count ≠ limit)
    (h : LeadsTo goal ⟨count, before ++ ⟨waiting + 1, false⟩ :: after⟩) :
    LeadsTo goal ⟨count + 1, before ++ ⟨waiting, false⟩ :: after⟩ := by
  cases h with
  | reaching hgoal hnone =>
      refine .reaching ?_ ?_
      · simp only [waitingOf_middle, toNat_add_one_of_ne hlimit] at hgoal ⊢
        omega
      · intro caller hcaller
        rcases mem_middle_iff.mp hcaller with rfl | hother
        · rfl
        · exact hnone caller (mem_middle_iff.mpr (.inr hother))
  | beyond hgoal hmended =>
      obtain ⟨caller, hcaller, hmending⟩ := hmended.resolve_left hlimit
      refine .beyond ?_ (.inr ⟨caller, ?_, hmending⟩)
      · simp only [waitingOf_middle] at hgoal ⊢
        omega
      · rcases mem_middle_iff.mp hcaller with rfl | hother
        · cases hmending
        · exact mem_middle_iff.mpr (.inr hother)

theorem LeadsTo.mend (h : LeadsTo goal ⟨count, before ++ ⟨waiting, true⟩ :: after⟩) :
    LeadsTo goal ⟨limit, before ++ ⟨waiting, false⟩ :: after⟩ := by
  cases h with
  | reaching _ hnone => cases hnone _ (mem_middle_iff.mpr (.inl rfl))
  | beyond hgoal _ =>
      refine .beyond ?_ (.inl rfl)
      simp only [waitingOf_middle] at hgoal ⊢
      exact hgoal

end Add

/-- **No step changes where the counter leads.** -/
theorem LeadsTo.step {goal : Nat} {shared next : Shared} (h : shared.LeadsTo goal)
    (hstep : Step shared next) : next.LeadsTo goal := by
  cases hstep with
  | mend count waiting before after => exact h.mend
  | add count waiting before after =>
      by_cases hlimit : count = limit
      · subst hlimit
        exact h.wrap
      · rw [beq_false_of_ne hlimit]
        exact h.grow hlimit

theorem LeadsTo.steps {goal : Nat} {shared next : Shared} (h : shared.LeadsTo goal)
    (hsteps : Steps shared next) : next.LeadsTo goal := by
  induction hsteps with
  | refl => exact h
  | tail _ hstep ih => exact ih.step hstep

theorem LeadsTo.toNat_count {goal : Nat} {shared : Shared} (h : shared.LeadsTo goal)
    (hfinished : shared.Finished) : shared.count.toNat = min goal (UInt64.size - 1) := by
  have hwaiting := hfinished.waitingOf_eq
  cases h with
  | reaching hgoal _ =>
      have hlt := shared.count.toNat_lt
      unfold UInt64.size
      omega
  | beyond hgoal hmended =>
      have hmax : limit.toNat + 1 = UInt64.size := rfl
      have hcount : shared.count = limit := by
        refine hmended.resolve_right ?_
        rintro ⟨caller, hcaller, hmending⟩
        cases (hfinished caller hcaller).2.symm.trans hmending
      rw [hcount]
      omega

end Shared

/-! ## Calls come to an end -/

/-- A call that nobody interrupts is `increment`. -/
theorem steps_increment (count : UInt64) (waiting : Nat) (before after : List Caller) :
    Steps ⟨count, before ++ ⟨waiting + 1, false⟩ :: after⟩
      ⟨increment count, before ++ ⟨waiting, false⟩ :: after⟩ := by
  have hadd := Step.add count waiting before after
  by_cases hlimit : count = limit
  · subst hlimit
    exact .tail (.single hadd) (.mend _ waiting before after)
  · rw [beq_false_of_ne hlimit] at hadd
    rw [increment, if_neg hlimit]
    exact .single hadd

/-- As long as calls are left, some caller can go on, and less is left afterwards. -/
theorem exists_steps_of_not_finished {shared : Shared} (h : ¬ shared.Finished) :
    ∃ next, Steps shared next ∧ workOf next.callers < workOf shared.callers := by
  obtain ⟨count, callers⟩ := shared
  obtain ⟨caller, hrest⟩ := Classical.not_forall.mp h
  obtain ⟨hcaller, hleft⟩ := Classical.not_imp.mp hrest
  obtain ⟨before, after, rfl⟩ := List.append_of_mem hcaller
  obtain ⟨waiting, mending⟩ := caller
  cases mending with
  | true =>
      refine ⟨_, .single (.mend count waiting before after), ?_⟩
      simp only [workOf_middle, Bool.toNat_true, Bool.toNat_false]
      omega
  | false =>
      cases waiting with
      | zero => exact absurd ⟨rfl, rfl⟩ hleft
      | succ waiting =>
          refine ⟨_, steps_increment count waiting before after, ?_⟩
          simp only [workOf_middle, Bool.toNat_false]
          omega

/-- **The calls can always be brought to their end.** -/
theorem exists_finished (shared : Shared) : ∃ final, Steps shared final ∧ final.Finished := by
  induction hwork : workOf shared.callers using Nat.strongRecOn generalizing shared with
  | _ work ih =>
    subst hwork
    by_cases hfinished : shared.Finished
    · exact ⟨shared, .refl, hfinished⟩
    · obtain ⟨next, hsteps, hless⟩ := exists_steps_of_not_finished hfinished
      obtain ⟨final, hfinal, hdone⟩ := ih _ hless next rfl
      exact ⟨final, hsteps.trans hfinal, hdone⟩

theorem toNat_iterate_increment (count : UInt64) (calls : Nat) :
    (increment^[calls] count).toNat = min (count.toNat + calls) (UInt64.size - 1) := by
  induction calls with
  | zero => exact toNat_eq_min count
  | succ calls ih =>
      rw [Function.iterate_succ_apply', toNat_increment, ih]
      omega

/-- **No call is ever lost.**  Whatever steps the callers have made, in whatever order, they can
come to their end; and once all calls are over, the counter holds its start and the number of
calls, up to the largest word, just as after so many calls one after the other. -/
theorem calls_never_lost {count : UInt64} {calls : List Nat} {shared : Shared}
    (hsteps : Steps (.start count calls) shared) :
    (∃ final, Steps shared final ∧ final.Finished) ∧
      (shared.Finished →
        shared.count.toNat = min (count.toNat + calls.sum) (UInt64.size - 1) ∧
          shared.count = increment^[calls.sum] count) := by
  refine ⟨exists_finished shared, ?_⟩
  intro hfinished
  have hleads := (Shared.leadsTo_start count calls).steps hsteps
  have hcount := hleads.toNat_count hfinished
  exact ⟨hcount, UInt64.toNat_inj.mp (hcount.trans (toNat_iterate_increment count _).symm)⟩

/-- Two callers at the limit: the second one wraps the word, and the first one adds to it before
it is put right. -/
theorem calls_never_lost_across_the_limit :
    let final : Shared := ⟨limit, [⟨0, false⟩, ⟨0, false⟩]⟩
    Steps (.start (limit - 1) [2, 1]) final ∧ final.Finished ∧
      final.count.toNat = min ((limit - 1).toNat + [2, 1].sum) (UInt64.size - 1) := by
  intro final
  have hfirst : Step (.start (limit - 1) [2, 1]) ⟨limit, [⟨1, false⟩, ⟨1, false⟩]⟩ :=
    .add (limit - 1) 1 [] [⟨1, false⟩]
  have hwrap : Step ⟨limit, [⟨1, false⟩, ⟨1, false⟩]⟩ ⟨0, [⟨1, false⟩, ⟨0, true⟩]⟩ :=
    .add limit 0 [⟨1, false⟩] []
  have hmeanwhile : Step ⟨0, [⟨1, false⟩, ⟨0, true⟩]⟩ ⟨1, [⟨0, false⟩, ⟨0, true⟩]⟩ :=
    .add 0 0 [] [⟨0, true⟩]
  have hmend : Step ⟨1, [⟨0, false⟩, ⟨0, true⟩]⟩ final := .mend 1 0 [⟨0, false⟩] []
  have hsteps : Steps (.start (limit - 1) [2, 1]) final :=
    ((Relation.ReflTransGen.single hfirst).tail hwrap).tail hmeanwhile |>.tail hmend
  have hfinished : final.Finished := by decide
  exact ⟨hsteps, hfinished, ((calls_never_lost hsteps).2 hfinished).1⟩

end VideoGate.Counter
