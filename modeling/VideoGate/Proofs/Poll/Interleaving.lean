import Mathlib.Data.List.Sort
import Mathlib.Logic.Function.Basic
import VideoGate.Proofs.Poll.Failures
import VideoGate.Proofs.Stats.Intervals

/-!
# Polls at the same time

`Session.poll` is one poll from its start to its end.  Where the task and others poll at once, a
poll is two steps: a sample is taken from the source, and recorded when the poller has the collector
for itself.  Between these two steps another poll may begin and end, and then the older sample is
recorded behind the newer one; apart from that every sample is recorded in its turn
(`Session.orderly_iff_not_nested`).
-/

namespace VideoGate.Session

/-- Those who poll a session. -/
inductive Poller where
  | task
  | caller (number : Nat)
deriving DecidableEq, Repr

/-- A step of those who poll a session. -/
inductive Move where
  /-- A poller takes a sample from the source. -/
  | take (poller : Poller)
  /-- A poller records the sample that it holds. -/
  | record (poller : Poller)
  /-- The task is told to stop. -/
  | abort
  /-- The task, told to stop, comes to a wait and ends; a sample that it holds is given up. -/
  | stop
deriving DecidableEq, Repr

/-- Who makes a step as a poller. -/
def Move.poller? : Move → Option Poller
  | take poller => some poller
  | record poller => some poller
  | abort => none
  | stop => some .task

/-- A session, and all who poll it.  Samples go by their number: the source gives sample 0 first. -/
structure Shared where
  session : Session := .new
  /-- Number of samples that the source has given. -/
  given : Nat := 0
  /-- The sample that a poller has taken and not recorded yet. -/
  held : Poller → Option Nat := fun _ => none
  /-- Has the task been told to stop? -/
  isAborted : Bool := false
  /-- The samples that have been recorded, in this order. -/
  recorded : List Nat := []
  /-- The samples that the task has given up. -/
  givenUp : List Nat := []

/-- The poll that ends with the recording of a sample. -/
def Poller.poll (verbose : Bool) : Poller → Sample → Poll
  | task, sample => .tick verbose (.ok sample)
  | caller _, sample => .once (.ok sample)

variable (source : Nat → Sample) (verbose : Bool)

/-- One step.  A task that has ended makes none. -/
inductive Step : Shared → Move → Shared → Prop
  | take {shared : Shared} {poller : Poller} (hfree : shared.held poller = none)
      (hruns : poller = .task → shared.session.isRunning = true) :
      Step shared (.take poller)
        { shared with
          given := shared.given + 1
          held := Function.update shared.held poller (some shared.given) }
  | record {shared : Shared} {poller : Poller} {number : Nat}
      (hheld : shared.held poller = some number)
      (hruns : poller = .task → shared.session.isRunning = true) :
      Step shared (.record poller)
        { shared with
          session := (shared.session.poll (poller.poll verbose (source number))).2
          held := Function.update shared.held poller none
          recorded := shared.recorded ++ [number] }
  | abort {shared : Shared} : Step shared .abort { shared with isAborted := true }
  | stop {shared : Shared} (haborted : shared.isAborted = true)
      (hruns : shared.session.isRunning = true) :
      Step shared .stop
        { shared with
          session := { shared.session with isRunning := false }
          held := Function.update shared.held .task none
          givenUp := shared.givenUp ++ (shared.held .task).toList }

/-- Steps of any pollers, one after the other. -/
inductive Steps : Shared → List Move → Shared → Prop
  | nil {shared : Shared} : Steps shared [] shared
  | cons {shared middle after : Shared} {move : Move} {moves : List Move}
      (hstep : Step source verbose shared move middle) (hsteps : Steps middle moves after) :
      Steps shared (move :: moves) after

variable {source verbose} {shared middle after : Shared} {move : Move} {moves more : List Move}

theorem steps_append_iff :
    Steps source verbose shared (moves ++ more) after ↔
      ∃ middle, Steps source verbose shared moves middle ∧
        Steps source verbose middle more after := by
  induction moves generalizing shared with
  | nil =>
      constructor
      · exact fun h => ⟨shared, .nil, h⟩
      · rintro ⟨middle, ⟨⟩, h⟩
        exact h
  | cons move moves ih =>
      constructor
      · rintro (_ | ⟨hstep, hsteps⟩)
        obtain ⟨middle, hmoves, hmore⟩ := ih.mp hsteps
        exact ⟨middle, .cons hstep hmoves, hmore⟩
      · rintro ⟨middle, _ | ⟨hstep, hmoves⟩, hmore⟩
        exact .cons hstep (ih.mpr ⟨middle, hmoves, hmore⟩)

theorem steps_cons_iff :
    Steps source verbose shared (move :: moves) after ↔
      ∃ middle, Step source verbose shared move middle ∧
        Steps source verbose middle moves after := by
  constructor
  · rintro (_ | ⟨hstep, hsteps⟩)
    exact ⟨_, hstep, hsteps⟩
  · rintro ⟨middle, hstep, hsteps⟩
    exact .cons hstep hsteps

theorem steps_concat_iff :
    Steps source verbose shared (moves ++ [move]) after ↔
      ∃ middle, Steps source verbose shared moves middle ∧
        Step source verbose middle move after := by
  rw [steps_append_iff]
  constructor
  · rintro ⟨middle, hmoves, hlast⟩
    obtain ⟨last, hstep, ⟨⟩⟩ := steps_cons_iff.mp hlast
    exact ⟨middle, hmoves, hstep⟩
  · rintro ⟨middle, hmoves, hstep⟩
    exact ⟨middle, hmoves, .cons hstep .nil⟩

/-- What every step preserves, any steps preserve. -/
theorem Steps.preserves (property : Shared → Prop)
    (hstep : ∀ {shared move after}, Step source verbose shared move after →
      property shared → property after)
    (hsteps : Steps source verbose shared moves after) (h : property shared) :
    property after := by
  induction hsteps with
  | nil => exact h
  | cons hfirst _ ih => exact ih (hstep hfirst h)

/-! ## Where the samples are -/

/-- Every sample that the source has given is in one place. -/
structure Accounted (shared : Shared) : Prop where
  held_lt : ∀ poller number, shared.held poller = some number → number < shared.given
  recorded_lt : ∀ number ∈ shared.recorded, number < shared.given
  held_injective : ∀ poller other number,
    shared.held poller = some number → shared.held other = some number → poller = other
  not_recorded : ∀ poller number, shared.held poller = some number → number ∉ shared.recorded
  somewhere : ∀ number < shared.given, number ∈ shared.recorded ∨ number ∈ shared.givenUp ∨
    ∃ poller, shared.held poller = some number

theorem accounted_start : Accounted {} where
  held_lt := nofun
  recorded_lt := nofun
  held_injective := nofun
  not_recorded := nofun
  somewhere := nofun

section

variable {held : Poller → Option Nat} {poller other : Poller} {number given : Nat}

theorem held_update_none_iff :
    Function.update held poller none other = some number ↔
      other ≠ poller ∧ held other = some number := by
  rw [Function.update_apply]
  split
  case isTrue hsame => simp [hsame]
  case isFalse hother => simp [hother]

theorem held_update_some_iff :
    Function.update held poller (some given) other = some number ↔
      other = poller ∧ number = given ∨ other ≠ poller ∧ held other = some number := by
  rw [Function.update_apply]
  split
  case isTrue hsame => simp [hsame, eq_comm]
  case isFalse hother => simp [hother]

end

namespace Accounted

variable {poller : Poller} {number : Nat}

theorem take (h : Accounted shared) (hfree : shared.held poller = none) :
    Accounted { shared with
      given := shared.given + 1
      held := Function.update shared.held poller (some shared.given) } where
  held_lt other number hnumber := by
    rcases held_update_some_iff.mp hnumber with ⟨-, rfl⟩ | ⟨-, hold⟩
    · exact Nat.lt_succ_self _
    · exact Nat.lt_succ_of_lt (h.held_lt other number hold)
  recorded_lt number hnumber := Nat.lt_succ_of_lt (h.recorded_lt number hnumber)
  held_injective one other number hone hother := by
    rcases held_update_some_iff.mp hone with ⟨rfl, rfl⟩ | ⟨-, hone⟩
    · rcases held_update_some_iff.mp hother with ⟨rfl, -⟩ | ⟨-, hother⟩
      · rfl
      · exact absurd (h.held_lt other _ hother) (Nat.lt_irrefl _)
    · rcases held_update_some_iff.mp hother with ⟨-, rfl⟩ | ⟨-, hother⟩
      · exact absurd (h.held_lt one _ hone) (Nat.lt_irrefl _)
      · exact h.held_injective one other number hone hother
  not_recorded other number hnumber hrecorded := by
    rcases held_update_some_iff.mp hnumber with ⟨-, rfl⟩ | ⟨-, hold⟩
    · exact absurd (h.recorded_lt _ hrecorded) (Nat.lt_irrefl _)
    · exact h.not_recorded other number hold hrecorded
  somewhere number hnumber := by
    rcases Nat.lt_succ_iff_lt_or_eq.mp hnumber with hlt | rfl
    case inr => exact .inr (.inr ⟨poller, held_update_some_iff.mpr (.inl ⟨rfl, rfl⟩)⟩)
    refine (h.somewhere number hlt).imp_right (Or.imp_right ?_)
    rintro ⟨other, hold⟩
    refine ⟨other, held_update_some_iff.mpr (.inr ⟨?_, hold⟩)⟩
    rintro rfl
    rw [hfree] at hold
    cases hold

theorem record (h : Accounted shared) (hheld : shared.held poller = some number)
    (session : Session) :
    Accounted { shared with
      session
      held := Function.update shared.held poller none
      recorded := shared.recorded ++ [number] } where
  held_lt other number hnumber := h.held_lt other number (held_update_none_iff.mp hnumber).2
  recorded_lt other hother := by
    rcases List.mem_append.mp hother with hother | hother
    · exact h.recorded_lt other hother
    · obtain rfl := List.mem_singleton.mp hother
      exact h.held_lt poller other hheld
  held_injective one other number hone hother :=
    h.held_injective one other number (held_update_none_iff.mp hone).2
      (held_update_none_iff.mp hother).2
  not_recorded other number hnumber hrecorded := by
    obtain ⟨hother, hold⟩ := held_update_none_iff.mp hnumber
    rcases List.mem_append.mp hrecorded with hrecorded | hrecorded
    · exact h.not_recorded other number hold hrecorded
    · obtain rfl := List.mem_singleton.mp hrecorded
      exact hother (h.held_injective other poller number hold hheld)
  somewhere other hother := by
    rcases h.somewhere other hother with hrecorded | hgivenUp | ⟨holder, hold⟩
    · exact .inl (List.mem_append_left _ hrecorded)
    · exact .inr (.inl hgivenUp)
    by_cases hsame : holder = poller
    · rw [hsame, hheld] at hold
      obtain rfl := Option.some.inj hold
      exact .inl List.mem_concat_self
    · exact .inr (.inr ⟨holder, held_update_none_iff.mpr ⟨hsame, hold⟩⟩)

theorem stop (h : Accounted shared) (session : Session) :
    Accounted { shared with
      session
      held := Function.update shared.held .task none
      givenUp := shared.givenUp ++ (shared.held .task).toList } where
  held_lt other number hnumber := h.held_lt other number (held_update_none_iff.mp hnumber).2
  recorded_lt := h.recorded_lt
  held_injective one other number hone hother :=
    h.held_injective one other number (held_update_none_iff.mp hone).2
      (held_update_none_iff.mp hother).2
  not_recorded other number hnumber :=
    h.not_recorded other number (held_update_none_iff.mp hnumber).2
  somewhere number hnumber := by
    refine (h.somewhere number hnumber).imp_right ?_
    rintro (hgivenUp | ⟨holder, hold⟩)
    · exact .inl (List.mem_append_left _ hgivenUp)
    by_cases hsame : holder = .task
    · refine .inl (List.mem_append_right _ (Option.mem_toList.mpr ?_))
      rw [← hsame]
      exact hold
    · exact .inr ⟨holder, held_update_none_iff.mpr ⟨hsame, hold⟩⟩

theorem step (h : Accounted shared) (hstep : Step source verbose shared move after) :
    Accounted after := by
  cases hstep with
  | take hfree _ => exact h.take hfree
  | record hheld _ => exact h.record hheld _
  | abort => exact ⟨h.held_lt, h.recorded_lt, h.held_injective, h.not_recorded, h.somewhere⟩
  | stop _ _ => exact h.stop _

theorem steps (h : Accounted shared) (hsteps : Steps source verbose shared moves after) :
    Accounted after :=
  hsteps.preserves Accounted (fun hstep h => h.step hstep) h

end Accounted

/-- Once nobody holds a sample and none has been given up, all have been recorded; so if they have
been recorded in order, this is the order in which they were given. -/
theorem Accounted.recorded_eq_range (h : Accounted shared)
    (hfree : ∀ poller, shared.held poller = none) (hgivenUp : shared.givenUp = [])
    (horder : shared.recorded.Pairwise (· < ·)) : shared.recorded = List.range shared.given := by
  refine horder.eq_of_mem_iff List.pairwise_lt_range fun number => ?_
  rw [List.mem_range]
  refine ⟨h.recorded_lt number, fun hlt => ?_⟩
  rcases h.somewhere number hlt with hrecorded | hlost | ⟨poller, hold⟩
  · exact hrecorded
  · rw [hgivenUp] at hlost
    cases hlost
  · rw [hfree poller] at hold
    cases hold

/-! ## The collector -/

/-- The collector holds what it makes of the samples in the order in which they were recorded. -/
def Shared.Recording (source : Nat → Sample) (shared : Shared) : Prop :=
  shared.session.collector = (Collector.offerAll (shared.recorded.map source) .new).2

theorem recording_start : Shared.Recording source {} := rfl

theorem Shared.Recording.step (h : shared.Recording source)
    (hstep : Step source verbose shared move after) : after.Recording source := by
  cases hstep with
  | take | abort | stop => exact h
  | @record poller number _ hruns =>
      have hsample : shared.session.sampleAt? (poller.poll verbose (source number)) =
          some (source number) := by
        cases poller with
        | task => exact if_pos (hruns rfl)
        | caller => rfl
      unfold Shared.Recording at h ⊢
      rw [List.map_append, Collector.offerAll_append, collector_poll, hsample, h]
      rfl

theorem Shared.Recording.steps (h : shared.Recording source)
    (hsteps : Steps source verbose shared moves after) : after.Recording source :=
  hsteps.preserves (Recording source) (fun hstep h => Recording.step h hstep) h

/-! ## Polls within a poll -/

/-- While a poller holds its sample, another one takes a sample and records it. -/
def Nested (moves : List Move) : Prop :=
  ∃ slow quick before during after,
    moves = before ++ .take slow :: (during ++ .record slow :: after) ∧
      (∀ move ∈ during, move.poller? ≠ some slow) ∧
      [.take quick, .record quick].Sublist during

theorem Nested.append (h : Nested moves) (more : List Move) : Nested (moves ++ more) := by
  obtain ⟨slow, quick, before, during, after, rfl, hwaits, hquick⟩ := h
  exact ⟨slow, quick, before, during, after ++ more, by simp, hwaits, hquick⟩

section

variable {slow quick poller : Poller} {number first : Nat}

/-- What a poller holds is changed by the steps of this poller alone. -/
theorem held_step (hstep : Step source verbose shared move after)
    (hother : move.poller? ≠ some poller) : after.held poller = shared.held poller := by
  cases hstep with
  | abort => rfl
  | take | record | stop =>
      refine Function.update_of_ne ?_ _ _
      rintro rfl
      exact hother rfl

theorem held_steps (hsteps : Steps source verbose shared moves after)
    (hothers : ∀ move ∈ moves, move.poller? ≠ some poller) :
    after.held poller = shared.held poller := by
  induction hsteps with
  | nil => rfl
  | cons hstep _ ih =>
      rw [List.forall_mem_cons] at hothers
      rw [ih hothers.2, held_step hstep hothers.1]

theorem given_le_given (hsteps : Steps source verbose shared moves after) :
    shared.given ≤ after.given := by
  refine hsteps.preserves (shared.given ≤ ·.given) (fun hstep hle => ?_) (Nat.le_refl _)
  cases hstep with
  | take => exact Nat.le_succ_of_le hle
  | record | abort | stop => exact hle

theorem recorded_prefix (hsteps : Steps source verbose shared moves after) :
    shared.recorded <+: after.recorded := by
  refine hsteps.preserves (shared.recorded <+: ·.recorded) (fun hstep hprefix => ?_)
    (List.prefix_refl _)
  cases hstep with
  | record => exact hprefix.trans (List.prefix_append _ _)
  | take | abort | stop => exact hprefix

/-- A poller holds no sample from before a certain one. -/
def Shared.Fresh (shared : Shared) (first : Nat) (poller : Poller) : Prop :=
  first ≤ shared.given ∧ ∀ number, shared.held poller = some number → first ≤ number

theorem Shared.Fresh.step (h : shared.Fresh first poller)
    (hstep : Step source verbose shared move after) : after.Fresh first poller := by
  obtain ⟨hgiven, hheld⟩ := h
  cases hstep with
  | abort => exact ⟨hgiven, hheld⟩
  | record | stop =>
      exact ⟨hgiven, fun number hnumber => hheld number (held_update_none_iff.mp hnumber).2⟩
  | take =>
      refine ⟨Nat.le_succ_of_le hgiven, fun number hnumber => ?_⟩
      rcases held_update_some_iff.mp hnumber with ⟨-, rfl⟩ | ⟨-, hold⟩
      · exact hgiven
      · exact hheld number hold

theorem Shared.Fresh.steps (h : shared.Fresh first poller)
    (hsteps : Steps source verbose shared moves after) : after.Fresh first poller :=
  hsteps.preserves (·.Fresh first poller) (fun hstep h => Fresh.step h hstep) h

/-- Whoever has taken a sample since holds none from before. -/
theorem fresh_of_take_mem (hsteps : Steps source verbose shared moves after)
    (hmem : .take quick ∈ moves) : after.Fresh shared.given quick := by
  obtain ⟨before, rest, rfl⟩ := List.append_of_mem hmem
  obtain ⟨middle, hbefore, hrest⟩ := steps_append_iff.mp hsteps
  obtain ⟨next, hstep, hrest⟩ := steps_cons_iff.mp hrest
  have hgiven := given_le_given hbefore
  refine Shared.Fresh.steps ?_ hrest
  cases hstep with
  | take =>
      refine ⟨Nat.le_succ_of_le hgiven, fun number hnumber => ?_⟩
      rcases held_update_some_iff.mp hnumber with ⟨-, rfl⟩ | ⟨hother, -⟩
      · exact hgiven
      · exact absurd rfl hother

theorem Shared.Fresh.mem_recorded (h : shared.Fresh first quick)
    (hsteps : Steps source verbose shared moves after) (hmem : .record quick ∈ moves) :
    ∃ number ∈ after.recorded, first ≤ number := by
  obtain ⟨before, rest, rfl⟩ := List.append_of_mem hmem
  obtain ⟨middle, hbefore, hrest⟩ := steps_append_iff.mp hsteps
  obtain ⟨next, hstep, hrest⟩ := steps_cons_iff.mp hrest
  have hfresh := h.steps hbefore
  have hprefix := recorded_prefix hrest
  cases hstep with
  | @record _ number hheld _ =>
      exact ⟨number, hprefix.subset List.mem_concat_self, hfresh.2 number hheld⟩

/-- A poll within a poll puts the older sample behind the newer one. -/
theorem Nested.not_ascending (h : Nested moves) (hsteps : Steps source verbose shared moves after) :
    ¬ after.recorded.Pairwise (· < ·) := by
  obtain ⟨slow, quick, before, during, rest, rfl, hwaits, hquick⟩ := h
  obtain ⟨early, late, rfl, htake, hrecord⟩ := List.cons_sublist_iff.mp hquick
  rw [List.singleton_sublist] at hrecord
  obtain ⟨start, -, hsteps⟩ := steps_append_iff.mp hsteps
  obtain ⟨taken, hslow, hsteps⟩ := steps_cons_iff.mp hsteps
  obtain ⟨last, hduring, hsteps⟩ := steps_append_iff.mp hsteps
  obtain ⟨next, hlast, hsteps⟩ := steps_cons_iff.mp hsteps
  obtain ⟨middle, hearly, hlate⟩ := steps_append_iff.mp hduring
  obtain ⟨newer, hnewer, hle⟩ := (fresh_of_take_mem hearly htake).mem_recorded hlate hrecord
  -- What the other poll records was taken after the sample that is held all the while.
  have hheld := held_steps hduring hwaits
  have hprefix := recorded_prefix hsteps
  intro hordered
  have hordered := hordered.sublist hprefix.sublist
  cases hslow with
  | take _ _ =>
      cases hlast with
      | record hlast _ =>
          have hslow := hlast.symm.trans (hheld.trans (Function.update_self ..))
          obtain rfl := Option.some.inj hslow
          have hlt := (List.pairwise_append.mp hordered).2.2 newer hnewer _
            (List.mem_singleton_self _)
          exact absurd (Nat.lt_of_lt_of_le hlt (Nat.le_of_succ_le hle)) (Nat.lt_irrefl _)

/-- A sample that a poller holds has been taken by it in its last step so far. -/
theorem exists_take_of_held (hstart : shared.held slow = none)
    (hsteps : Steps source verbose shared moves after) (hheld : after.held slow = some number) :
    ∃ before during middle, moves = before ++ .take slow :: during ∧
      (∀ move ∈ during, move.poller? ≠ some slow) ∧
      Steps source verbose shared before middle ∧ middle.given = number ∧
      Steps source verbose middle (.take slow :: during) after := by
  induction moves using List.reverseRecOn generalizing after with
  | nil =>
      cases hsteps
      rw [hstart] at hheld
      cases hheld
  | append_singleton moves move ih =>
      obtain ⟨middle, hmoves, hstep⟩ := steps_concat_iff.mp hsteps
      by_cases hmine : move.poller? = some slow
      case neg =>
        obtain ⟨before, during, start, rfl, hothers, hbefore, hgiven, hduring⟩ :=
          ih hmoves ((held_step hstep hmine).symm.trans hheld)
        refine ⟨before, during ++ [move], start, by simp, ?_, hbefore, hgiven,
          steps_append_iff.mpr ⟨middle, hduring, .cons hstep .nil⟩⟩
        rw [List.forall_mem_append]
        exact ⟨hothers, by simpa using hmine⟩
      case pos =>
        cases hstep with
        | abort => cases hmine
        | record | stop =>
            cases hmine
            simp at hheld
        | take hfree hruns =>
            cases hmine
            have hgiven := (Function.update_self ..).symm.trans hheld
            exact ⟨moves, [], middle, rfl, nofun, hmoves, Option.some.inj hgiven,
              .cons (.take hfree hruns) .nil⟩

theorem take_mem_of_held (hsteps : Steps source verbose shared moves after)
    (hnew : shared.held quick ≠ some number) (hheld : after.held quick = some number) :
    .take quick ∈ moves := by
  induction hsteps with
  | nil => exact absurd hheld hnew
  | @cons shared middle after move moves hstep _ ih =>
      by_cases hheld' : middle.held quick = some number
      case neg => exact List.mem_cons_of_mem _ (ih hheld' hheld)
      cases hstep with
      | abort => exact absurd hheld' hnew
      | record | stop => exact absurd (held_update_none_iff.mp hheld').2 hnew
      | take =>
          rcases held_update_some_iff.mp hheld' with ⟨rfl, -⟩ | ⟨-, hold⟩
          · exact List.mem_cons_self
          · exact absurd hold hnew

/-- A sample that has been recorded since was also taken since, unless it had been given before. -/
theorem exists_poll_of_recorded (haccounted : Accounted shared)
    (hsteps : Steps source verbose shared moves after) (hnew : shared.given ≤ number)
    (hrecorded : number ∈ after.recorded) :
    ∃ quick, [.take quick, .record quick].Sublist moves := by
  induction moves using List.reverseRecOn generalizing after with
  | nil =>
      cases hsteps
      exact absurd (haccounted.recorded_lt number hrecorded) (Nat.not_lt.mpr hnew)
  | append_singleton moves move ih =>
      obtain ⟨middle, hmoves, hstep⟩ := steps_concat_iff.mp hsteps
      by_cases hbefore : number ∈ middle.recorded
      case pos =>
        obtain ⟨quick, hquick⟩ := ih hmoves hbefore
        exact ⟨quick, hquick.trans (List.sublist_append_left _ _)⟩
      cases hstep with
      | take | abort | stop => exact absurd hrecorded hbefore
      | @record quick recorded hheld _ =>
          rcases List.mem_append.mp hrecorded with hrecorded | hrecorded
          · exact absurd hrecorded hbefore
          obtain rfl := List.mem_singleton.mp hrecorded
          have hfree : shared.held quick ≠ some number := fun hold =>
            absurd (haccounted.held_lt quick number hold) (Nat.not_lt.mpr hnew)
          have htake := take_mem_of_held hmoves hfree hheld
          exact ⟨quick, (List.singleton_sublist.mpr htake).append (List.Sublist.refl [_])⟩

/-- Where no poll is nested in another one, samples are recorded in the order they were taken. -/
theorem ascending_of_not_nested (hsteps : Steps source verbose {} moves shared)
    (h : ¬ Nested moves) : shared.recorded.Pairwise (· < ·) := by
  induction moves using List.reverseRecOn generalizing shared with
  | nil =>
      cases hsteps
      exact .nil
  | append_singleton moves move ih =>
      obtain ⟨middle, hmoves, hstep⟩ := steps_concat_iff.mp hsteps
      have hordered := ih hmoves fun hnested => h (hnested.append [move])
      cases hstep with
      | take | abort | stop => exact hordered
      | @record slow number hheld _ =>
          have haccounted := accounted_start.steps hmoves
          suffices hlast : ∀ earlier ∈ middle.recorded, earlier < number by
            refine List.pairwise_append.mpr ⟨hordered, List.pairwise_singleton _ _, ?_⟩
            intro earlier hearlier last hmem
            rw [List.mem_singleton.mp hmem]
            exact hlast earlier hearlier
          intro earlier hearlier
          -- A newer sample recorded before this one was taken and recorded while this one was held.
          refine Nat.lt_of_not_le fun hle => h ?_
          have hne : earlier ≠ number := by
            rintro rfl
            exact haccounted.not_recorded slow earlier hheld hearlier
          obtain ⟨before, during, start, rfl, hwaits, hbefore, rfl, hduring⟩ :=
            exists_take_of_held rfl hmoves hheld
          obtain ⟨taken, htake, hduring⟩ := steps_cons_iff.mp hduring
          have htaken := (accounted_start.steps hbefore).step htake
          have hgiven : taken.given ≤ earlier := by
            cases htake
            exact Nat.lt_of_le_of_ne hle hne.symm
          obtain ⟨quick, hquick⟩ := exists_poll_of_recorded htaken hduring hgiven hearlier
          exact ⟨slow, quick, before, during, [], by simp, hwaits, hquick⟩

end

/-! ## Samples in their order -/

/-- No counter of a source ever falls. -/
def Steady (source : Nat → Sample) : Prop :=
  ∀ (measure : Measure) (earlier later : Nat), earlier ≤ later →
    measure.count (source earlier) ≤ measure.count (source later)

/-- The samples are recorded in the order in which they were taken, with all that this is for. -/
structure Orderly (source : Nat → Sample) (shared : Shared) : Prop where
  ascending : shared.recorded.Pairwise (· < ·)
  /-- When all polls have come to their end, no sample is missing. -/
  whole : (∀ poller, shared.held poller = none) → shared.givenUp = [] →
    shared.recorded = List.range shared.given
  /-- A snapshot has the totals of the most recent sample that was not refused. -/
  totals : ∀ timestamp elapsed snapshot,
    shared.session.collector.snapshot? timestamp elapsed = .ok (some snapshot) →
      ∃ last ∈ shared.recorded, snapshot.videoTotals = .ofVideo (source last).video ∧
        ∀ number ∈ shared.recorded, last < number → ¬ (source last).Fits (source number)
  /-- Every sample is told by all that came to the counters since the sample before. -/
  lossless : ∀ before number later, shared.recorded = before ++ number :: later →
    let collector : Collector Float := (Collector.offerAll (before.map source) .new).2
    ∀ report next, (Collector.takeIn (source number)).perform collector = (.ok report, next) →
      ∀ measure : Measure, measure.count (collector.precursor (source number)) +
        (measure.ofReport report).toNat = measure.count (source number)

/-- The latest sample of those that were offered. -/
theorem latest_offered (offered : List Nat) :
    (Collector.offerAll (offered.map source) (.new : Collector Float)).2.latest =
      (keptFrom source none offered).getLast?.map source := by
  have hnone : (.new : Collector Float).latest = (none : Option Nat).map source := rfl
  have hlatest := Collector.latest_offerAll source hnone offered
  rwa [Option.or_none] at hlatest

theorem totals_of_ascending (hrecording : shared.Recording source)
    (h : shared.recorded.Pairwise (· < ·)) {timestamp : String} {elapsed : UInt64}
    {snapshot : Snapshot Float}
    (hsnapshot : shared.session.collector.snapshot? timestamp elapsed = .ok (some snapshot)) :
    ∃ last ∈ shared.recorded, snapshot.videoTotals = .ofVideo (source last).video ∧
      ∀ number ∈ shared.recorded, last < number → ¬ (source last).Fits (source number) := by
  obtain ⟨latest, hlatest, htotals⟩ := Collector.videoTotals_of_snapshot? hsnapshot
  rw [show shared.session.collector = _ from hrecording, latest_offered,
    Option.map_eq_some_iff] at hlatest
  obtain ⟨last, hlast, rfl⟩ := hlatest
  have hlast := Option.or_none.trans hlast
  rcases eq_append_of_getLast?_keptFrom source hlast with
    ⟨before, after, hrecorded, hrefused⟩ | ⟨hnone, -⟩
  case inr => cases hnone
  rw [hrecorded] at h ⊢
  refine ⟨last, List.mem_append_right _ List.mem_cons_self, htotals, fun number hnumber hlt => ?_⟩
  rcases List.mem_append.mp hnumber with hbefore | hnumber
  · have hgt := (List.pairwise_append.mp h).2.2 number hbefore last List.mem_cons_self
    omega
  · rcases List.mem_cons.mp hnumber with rfl | hafter
    · exact absurd hlt (Nat.lt_irrefl _)
    · exact hrefused number hafter

theorem lossless_of_ascending (hsteady : Steady source) {before later : List Nat} {number : Nat}
    (h : (before ++ number :: later).Pairwise (· < ·)) {report : IntervalReport Float}
    {next : Collector Float}
    (hrecord : (Collector.takeIn (source number)).perform
      (Collector.offerAll (before.map source) .new).2 = (.ok report, next)) (measure : Measure) :
    measure.count ((Collector.offerAll (before.map source) (.new : Collector Float)).2.precursor
        (source number)) + (measure.ofReport report).toNat = measure.count (source number) := by
  have htook := Collector.perform_takeIn_eq_ok_iff.mp hrecord
  rw [htook.report_eq, Measure.toNat_ofReport_reportTo]
  refine Nat.add_sub_cancel' ?_
  unfold Collector.precursor
  rw [latest_offered]
  cases hlast : (keptFrom source none before).getLast? with
  | none => exact Nat.le_refl _
  | some last =>
      have hmem := (keptFrom_sublist source none before).mem (List.mem_of_getLast? hlast)
      have hlt := (List.pairwise_append.mp h).2.2 last hmem number List.mem_cons_self
      exact hsteady measure last number (Nat.le_of_lt hlt)

/-- **Samples in their order.**  However those who poll a session take their steps, its collector
holds what it makes of the samples in the order in which they were recorded.  This is the order in
which they were taken exactly if no poll begins and ends within another one; then a snapshot has the
totals of the most recent sample, no growth is lost, and no sample is missing in the end. -/
theorem orderly_iff_not_nested (hsteady : Steady source)
    (hsteps : Steps source verbose {} moves shared) :
    shared.session.collector = (Collector.offerAll (shared.recorded.map source) .new).2 ∧
      (Orderly source shared ↔ ¬ Nested moves) := by
  have hrecording := recording_start.steps hsteps
  refine ⟨hrecording, fun horderly hnested => hnested.not_ascending hsteps horderly.ascending,
    fun hnested => ?_⟩
  have hascending := ascending_of_not_nested hsteps hnested
  exact {
    ascending := hascending
    whole := fun hfree hgivenUp =>
      (accounted_start.steps hsteps).recorded_eq_range hfree hgivenUp hascending
    totals := fun _ _ _ => totals_of_ascending hrecording hascending
    lossless := by
      intro before number later hrecorded collector report next hrecord
      rw [hrecorded] at hascending
      exact lossless_of_ascending hsteady hascending hrecord }

/-- A source whose counters stand higher from its second sample on. -/
def risen : Nat → Sample
  | 0 => { (default : Sample) with video := .ofList [0, 0, 0, 0, 5, 1] }
  | _ + 1 => { (default : Sample) with video := .ofList [0, 0, 0, 0, 9, 2] }

theorem steady_risen : Steady risen := by
  have hgrown : ∀ measure : Measure, measure.count (risen 0) ≤ measure.count (risen 1) := by
    intro measure
    cases measure <;> decide +kernel
  intro measure earlier later hle
  cases earlier with
  | succ =>
      cases later with
      | succ => exact Nat.le_refl _
      | zero => cases hle
  | zero =>
      cases later with
      | succ => exact hgrown measure
      | zero => exact Nat.le_refl _

/-- Both polls overlap, but neither lies within the other. -/
theorem orderly_iff_not_nested_overlapping :
    let moves : List Move := [.take .task, .take (.caller 0), .record .task, .record (.caller 0)]
    ∃ shared, Steady risen ∧ Steps risen false {} moves shared ∧ shared.recorded = [0, 1] ∧
      shared.session.collector = (Collector.offerAll [risen 0, risen 1] .new).2 ∧
      ¬ Nested moves ∧ Orderly risen shared := by
  intro moves
  obtain ⟨shared, hsteps, hrecorded⟩ : ∃ shared, Steps risen false {} moves shared ∧
      shared.recorded = [0, 1] :=
    ⟨_, .cons (.take rfl fun _ => rfl) (.cons (.take rfl nofun)
      (.cons (.record rfl fun _ => rfl) (.cons (.record rfl nofun) .nil))), rfl⟩
  obtain ⟨hcollector, hiff⟩ := orderly_iff_not_nested steady_risen hsteps
  have hnested : ¬ Nested moves := fun hnested =>
    hnested.not_ascending hsteps (by rw [hrecorded]; decide)
  rw [hrecorded] at hcollector
  exact ⟨shared, steady_risen, hsteps, hrecorded, hcollector, hnested, hiff.mpr hnested⟩

/-- The task is told to stop between taking a sample and recording it.  The poll that was to be the
last one lies within this one: the snapshot has the totals of the older sample, and neither the
interval nor the period shows what was dropped in between. -/
theorem overtaken_by_last_poll :
    let moves : List Move :=
      [.take .task, .abort, .take (.caller 0), .record (.caller 0), .record .task]
    Steady risen ∧ Nested moves ∧
      ∃ shared snapshot report, ∃ next : Collector Float, Steps risen false {} moves shared ∧
      shared.recorded = [1, 0] ∧ ¬ Orderly risen shared ∧
      shared.session.collector.snapshot? "now" 1 = .ok (some snapshot) ∧
      snapshot.videoTotals = .ofVideo (risen 0).video ∧
      Measure.dropped.ofSnapshot snapshot = 0 ∧
      (Collector.takeIn (risen 0)).perform (Collector.offerAll [risen 1] .new).2 =
        (.ok report, next) ∧
      Measure.dropped.ofReport report = 0 ∧
      Measure.dropped.count (risen 0) + 4 = Measure.dropped.count (risen 1) := by
  intro moves
  have hnested : Nested moves :=
    ⟨.task, .caller 0, [], [.abort, .take (.caller 0), .record (.caller 0)], [], rfl, by decide,
      by decide⟩
  obtain ⟨shared, hsteps, hrecorded⟩ : ∃ shared, Steps risen false {} moves shared ∧
      shared.recorded = [1, 0] :=
    ⟨_, .cons (.take rfl fun _ => rfl) (.cons .abort (.cons (.take rfl nofun)
      (.cons (.record rfl nofun) (.cons (.record rfl fun _ => rfl) .nil)))), rfl⟩
  have hcollector : shared.session.collector = _ := recording_start.steps hsteps
  rw [hrecorded] at hcollector
  obtain ⟨middle, hfirst⟩ : ∃ middle, (.new : Collector Float).TookIn (risen 1)
      ((risen 1).reportTo (risen 1)) middle := ⟨_, by decide +kernel, by decide +kernel, rfl, rfl⟩
  obtain ⟨last, hsecond⟩ : ∃ last, middle.TookIn (risen 0) ((risen 1).reportTo (risen 0)) last := by
    obtain rfl := hfirst.next_eq
    exact ⟨_, by decide +kernel, by decide +kernel, rfl, rfl⟩
  have hmiddle : (Collector.offerAll [risen 1] (.new : Collector Float)).2 = middle := by
    rw [Collector.offerAll_cons_of_tookIn hfirst]
    rfl
  have hlast : shared.session.collector = last := by
    rw [hcollector, List.map_cons, List.map_singleton, Collector.offerAll_cons_of_tookIn hfirst,
      Collector.offerAll_cons_of_tookIn hsecond]
    rfl
  have hholds := (Collector.TookInAll.cons hfirst (.cons hsecond .nil)).holds .new
  have hsnapshot := Collector.snapshot?_eq hholds.baseline hholds.latest "now" 1
  rw [if_pos (by decide +kernel), ← hlast] at hsnapshot
  have hrecord := Collector.perform_takeIn_eq_ok_iff.mpr hsecond
  rw [← hmiddle] at hrecord
  refine ⟨steady_risen, hnested, shared, _, _, last, hsteps, hrecorded, fun horderly => ?_,
    hsnapshot, rfl, ?_, hrecord, ?_, ?_⟩
  · exact absurd horderly.ascending (by rw [hrecorded]; decide)
  · refine UInt64.toNat_inj.mp ((Measure.toNat_ofSnapshot_snapshotTo ..).trans ?_)
    decide +kernel
  · refine UInt64.toNat_inj.mp ((Measure.toNat_ofReport_reportTo ..).trans ?_)
    decide +kernel
  · decide +kernel

end VideoGate.Session
