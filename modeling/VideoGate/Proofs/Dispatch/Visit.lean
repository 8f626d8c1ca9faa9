import VideoGate.Proofs.Dispatch.Simulation
import VideoGate.Table.Dispatch

/-!
# The visits of a walk

What the dispatcher does with a packet depends on the calls of the stages and on their answers
alone.  A `StageVisit` is a call with its answer, and `visitsOf` lists the visits that a packet
makes.  The rules by which one visit follows another are those of `Path`: a visit either leads on
or is the last, and the last one says how the walk ends (`StageVisit.ending`).  Every walk is such
a path (`Walk.run_follows`), whatever the stages are and whatever they write into the metadata.
-/

namespace VideoGate

open DispatchStore

/-! ## Recording the visits -/

/-- A call of a stage and its answer. -/
structure StageVisit extends StageCall where
  disposition : Disposition
  /-- The metadata that the stage left. -/
  left : Metadata
deriving DecidableEq, Repr

namespace Stage

variable {τ : Type}

def visit (number : Fin 2) (stage : Stage τ) (entry : Metadata) (world : τ) : StageVisit where
  stage := number
  entry := entry
  disposition := (stage entry world).1
  left := (stage entry world).2.1

/-- The same stage, which also writes down its visits. -/
def recorded (number : Fin 2) (stage : Stage τ) : Stage (τ × List StageVisit) :=
  fun metadata world =>
    let (disposition, after, inner) := stage metadata world.1
    (disposition, after, inner, world.2 ++ [stage.visit number metadata world.1])

end Stage

/-- The same stages, which also write down their visits in order. -/
def Stages.recorded {τ : Type} (stages : Stages τ) : Stages (τ × List StageVisit) where
  first := stages.first.recorded ⟨0, Nat.zero_lt_two⟩
  second := stages.second.recorded ⟨1, Nat.one_lt_two⟩

section Recording

variable {δ τ : Type} [DispatchStore δ]

/-- The visits that a packet makes, in order. -/
def visitsOf (stages : Stages τ) (slot : Option Metadata) (store : δ) (world : τ) :
    List StageVisit :=
  (dispatch stages.recorded slot store (world, [])).world.2

def callsOf (stages : Stages τ) (slot : Option Metadata) (store : δ) (world : τ) :
    List StageCall :=
  (dispatch stages.watched slot store (world, [])).world.2

/-- **Recording changes nothing** but what is recorded. -/
theorem dispatch_recorded (stages : Stages τ) (slot : Option Metadata) (store : δ) (world : τ) :
    (dispatch stages.recorded slot store (world, [])).Alike Eq
      (fun recorded plain => recorded.1 = plain) (dispatch stages slot store world) := by
  have halike : ∀ (number : Fin 2) (stage : Stage τ),
      StagesAlike (fun recorded plain => recorded.1 = plain) (stage.recorded number) stage := by
    rintro number stage metadata world plain rfl
    exact ⟨rfl, rfl, rfl⟩
  exact dispatch_alike storesAlike_eq (halike 0 stages.first) (halike 1 stages.second) slot rfl rfl

/-- The calls that a watcher sees are those of the visits. -/
theorem callsOf_eq_map_visitsOf (stages : Stages τ) (slot : Option Metadata) (store : δ)
    (world : τ) :
    callsOf stages slot store world =
      (visitsOf stages slot store world).map StageVisit.toStageCall := by
  let worlds : τ × List StageCall → τ × List StageVisit → Prop :=
    fun watched recorded => watched.1 = recorded.1 ∧
      watched.2 = recorded.2.map StageVisit.toStageCall
  have halike : ∀ (number : Fin 2) (stage : Stage τ),
      StagesAlike worlds (stage.watched number) (stage.recorded number) := by
    rintro number stage metadata ⟨world, _⟩ ⟨_, visits⟩ ⟨hworld, hvisits⟩
    cases hworld
    cases hvisits
    refine ⟨rfl, rfl, rfl, ?_⟩
    show _ = (visits ++ [stage.visit number metadata world]).map StageVisit.toStageCall
    rw [List.map_append]
    rfl
  have hstart : worlds (world, []) (world, []) := ⟨rfl, rfl⟩
  exact (dispatch_alike storesAlike_eq (halike 0 stages.first) (halike 1 stages.second) slot rfl
    hstart).world.2

/-- What holds of every answer that the stages can give holds of the visits. -/
theorem visitsOf_forall {P : StageVisit → Prop} {stages : Stages τ}
    (hfirst : ∀ entry world, P (stages.first.visit 0 entry world))
    (hsecond : ∀ entry world, P (stages.second.visit 1 entry world)) (slot : Option Metadata)
    (store : δ) (world : τ) : ∀ visit ∈ visitsOf stages slot store world, P visit := by
  let worlds : τ × List StageVisit → τ × List StageVisit → Prop :=
    fun a b => a = b ∧ ∀ visit ∈ a.2, P visit
  have halike : ∀ {number : Fin 2} {stage : Stage τ},
      (∀ entry world, P (stage.visit number entry world)) →
      StagesAlike worlds (stage.recorded number) (stage.recorded number) := by
    rintro number stage hanswer metadata ⟨world, visits⟩ _ ⟨rfl, hvisits⟩
    refine ⟨rfl, rfl, rfl, ?_⟩
    exact List.forall_mem_append.mpr
      ⟨hvisits, List.forall_mem_singleton.mpr (hanswer metadata world)⟩
  have hrecordedFirst : StagesAlike worlds stages.recorded.first stages.recorded.first :=
    halike hfirst
  have hrecordedSecond : StagesAlike worlds stages.recorded.second stages.recorded.second :=
    halike hsecond
  have hstart : worlds (world, []) (world, []) := ⟨rfl, nofun⟩
  exact (dispatch_alike storesAlike_eq hrecordedFirst hrecordedSecond slot rfl hstart).world.2

end Recording

/-! ## How a walk ends -/

inductive Ending where
  | dropped
  /-- At the output interface. -/
  | routed
  | passed
deriving DecidableEq, Repr

/-- What becomes of the packet, and what is counted for it. -/
def Ending.settle {δ : Type} [DispatchStore δ] (store : δ) : Ending → Action × δ
  | dropped => (.drop, store)
  | routed => routeToOutput store
  | passed => (.pass, store)

/-- The decision by which the walk goes on: from stage 1 to stage 2, and back again. -/
def onward : Fin 2 → RoutingDecision
  | 0 => .callNext
  | 1 => .return

namespace StageVisit

def drops (visit : StageVisit) : Bool := VideoGate.drops visit.disposition visit.left

/-- Does the stage leave the decision by which the walk goes on? -/
def callsOn (visit : StageVisit) : Bool := visit.left.decision? == some (onward visit.stage)

/-- The end of a walk whose last visit this is. -/
def ending (visit : StageVisit) : Ending :=
  if visit.drops then .dropped else if visit.callsOn then .passed else .routed

/-- Does the walk go on?  From stage 1 it does only if stage 2 is enabled. -/
def LeadsOn (secondEnabled : Bool) (visit : StageVisit) : Prop :=
  visit.ending = .passed ∧ (visit.stage.val = 0 → secondEnabled = true)

instance (secondEnabled : Bool) (visit : StageVisit) : Decidable (visit.LeadsOn secondEnabled) :=
  inferInstanceAs (Decidable (_ ∧ _))

theorem ending_eq_passed_iff (visit : StageVisit) :
    visit.ending = .passed ↔ visit.drops = false ∧ visit.callsOn = true := by
  unfold ending
  cases visit.drops <;> cases visit.callsOn <;> simp

theorem ending_eq_dropped_iff (visit : StageVisit) :
    visit.ending = .dropped ↔ visit.drops = true := by
  unfold ending
  cases visit.drops <;> cases visit.callsOn <;> simp

theorem ending_eq_routed_iff (visit : StageVisit) :
    visit.ending = .routed ↔ visit.drops = false ∧ visit.callsOn = false := by
  unfold ending
  cases visit.drops <;> cases visit.callsOn <;> simp

end StageVisit

/-- The end of a walk with these visits. -/
def endingOf (visits : List StageVisit) : Ending := visits.getLast?.elim .passed StageVisit.ending

/-- A visit that leads on is the last one only if no other is possible, and the packet passes
then. -/
theorem endingOf_cons {secondEnabled : Bool} {visit : StageVisit}
    (h : visit.LeadsOn secondEnabled) (visits : List StageVisit) :
    endingOf (visit :: visits) = endingOf visits := by
  cases visits with
  | nil => exact h.1
  | cons next visits => rfl

/-! ## Paths -/

def Metadata.enterFirst (metadata : Metadata) : Metadata :=
  { metadata with stage1Visits := metadata.stage1Visits + 1 }

def Metadata.enterSecond (metadata : Metadata) : Metadata :=
  { metadata with stage2Visits := metadata.stage2Visits + 1 }

/-- The rules of a walk: from a stage, with some hops left and the metadata as it is, these visits
are made, and this is the metadata in the end. -/
inductive Path (secondEnabled : Bool) :
    Fin 2 → Nat → Metadata → List StageVisit → Metadata → Prop
  | outOfHops {metadata} : Path secondEnabled 0 0 metadata [] metadata
  | skipFirst {hops metadata visits final} :
      ¬ metadata.stage1Visits < maxVisits →
      Path secondEnabled 1 hops metadata visits final →
      Path secondEnabled 0 (hops + 1) metadata visits final
  | endFirst {hops metadata visit} :
      metadata.stage1Visits < maxVisits → visit.stage = 0 → visit.entry = metadata.enterFirst →
      Path secondEnabled 0 (hops + 1) metadata [visit] visit.left
  | leadFirst {hops metadata visit visits final} :
      metadata.stage1Visits < maxVisits → visit.stage = 0 → visit.entry = metadata.enterFirst →
      visit.LeadsOn secondEnabled →
      Path secondEnabled 1 hops visit.left visits final →
      Path secondEnabled 0 (hops + 1) metadata (visit :: visits) final
  | skipSecond {hops metadata} :
      ¬ metadata.stage2Visits < maxVisits →
      Path secondEnabled 1 hops metadata [] metadata
  | endSecond {hops metadata visit} :
      metadata.stage2Visits < maxVisits → visit.stage = 1 → visit.entry = metadata.enterSecond →
      Path secondEnabled 1 hops metadata [visit] visit.left
  | leadSecond {hops metadata visit visits final} :
      metadata.stage2Visits < maxVisits → visit.stage = 1 → visit.entry = metadata.enterSecond →
      visit.LeadsOn secondEnabled →
      Path secondEnabled 0 hops (visit.left.leave .callNext) visits final →
      Path secondEnabled 1 hops metadata (visit :: visits) final

/-! ## Every walk is a path -/

namespace DispatchTables

def secondEnabled (tables : DispatchTables) : Bool := tables.get? .stage2 == some Setting.enabled

def countVisit (tables : DispatchTables) (visit : StageVisit) : DispatchTables :=
  match visit.stage with
  | 0 => tables.bump .stage1
  | 1 => tables.bump .stage2

def countVisits (tables : DispatchTables) (visits : List StageVisit) : DispatchTables :=
  visits.foldl countVisit tables

theorem secondEnabled_bump (tables : DispatchTables) (counter : DispatchCounter) :
    (tables.bump counter).secondEnabled = tables.secondEnabled := by
  unfold secondEnabled
  rw [get?_bump]

theorem secondEnabled_countVisit (tables : DispatchTables) (visit : StageVisit) :
    (tables.countVisit visit).secondEnabled = tables.secondEnabled := by
  unfold countVisit
  split <;> exact secondEnabled_bump ..

end DispatchTables

namespace Walk

/-- The rest of a walk that has come to stage 2. -/
def fromSecond {δ τ : Type} [DispatchStore δ] (stages : Stages τ) (hops : Nat) (walk : Walk δ τ) :
    Action × Walk δ τ :=
  match walk.visitSecond stages with
  | .finished action walk => (action, walk)
  | .goesOn walk => run stages hops walk

variable {τ : Type} (stages : Stages τ) (walk : Walk DispatchTables (τ × List StageVisit))

/-- The walk after a visit, which led to another world. -/
def after (visit : StageVisit) (world : τ) : Walk DispatchTables (τ × List StageVisit) where
  metadata := visit.left
  store := walk.store.countVisit visit
  world := (world, walk.world.2 ++ [visit])

def finish (ending : Ending) : Progress DispatchTables (τ × List StageVisit) :=
  .finished (ending.settle walk.store).1 { walk with store := (ending.settle walk.store).2 }

/-- The visit that the walk makes to stage 1 next. -/
def nextFirst : StageVisit :=
  stages.first.visit ⟨0, Nat.zero_lt_two⟩ walk.metadata.enterFirst walk.world.1

def worldAfterFirst : τ := (stages.first walk.metadata.enterFirst walk.world.1).2.2

/-- **A visit to stage 1** leads on to stage 2, or else it ends the walk by its answer. -/
theorem visitFirst_eq (h : walk.metadata.stage1Visits < maxVisits) :
    let visit := walk.nextFirst stages
    let next := walk.after visit (walk.worldAfterFirst stages)
    walk.visitFirst stages.recorded =
      if visit.LeadsOn walk.store.secondEnabled then .goesOn next
      else next.finish visit.ending := by
  intro visit next
  have hcall : stages.recorded.first walk.metadata.enterFirst walk.world =
      (visit.disposition, visit.left, walk.worldAfterFirst stages, walk.world.2 ++ [visit]) := rfl
  have hstore : walk.store.countVisit visit = bump .stage1 walk.store := rfl
  have henabled : isEnabled .stage2 (bump .stage1 walk.store) =
      (walk.store.secondEnabled, bump .stage1 walk.store) := by
    rw [← walk.store.secondEnabled_countVisit visit, hstore]
    rfl
  have honward : visit.callsOn = (visit.left.decision? == some .callNext) := rfl
  have hstage : visit.stage.val = 0 := rfl
  unfold visitFirst
  rw [if_pos h]
  unfold Metadata.enterFirst at hcall
  simp only [hcall, henabled, finishAtOutput, finish, next, after, hstore, StageVisit.LeadsOn,
    StageVisit.ending, StageVisit.drops, honward, hstage, true_imp_iff]
  -- Counting the visit leaves the settings, so the walk asks the tables it started from.
  cases VideoGate.drops visit.disposition visit.left with
  | true => rfl
  | false =>
      by_cases hnext : visit.left.decision? = some .callNext
      · rw [hnext]
        cases walk.store.secondEnabled <;> rfl
      · rw [beq_false_of_ne hnext, if_neg hnext]
        rfl

/-- The visit that the walk makes to stage 2 next. -/
def nextSecond : StageVisit :=
  stages.second.visit ⟨1, Nat.one_lt_two⟩ walk.metadata.enterSecond walk.world.1

def worldAfterSecond : τ := (stages.second walk.metadata.enterSecond walk.world.1).2.2

/-- **A visit to stage 2** leads back to stage 1, or else it ends the walk by its answer. -/
theorem visitSecond_eq (h : walk.metadata.stage2Visits < maxVisits) :
    let visit := walk.nextSecond stages
    let next := walk.after visit (walk.worldAfterSecond stages)
    walk.visitSecond stages.recorded =
      if visit.LeadsOn walk.store.secondEnabled then
        .goesOn { next with metadata := visit.left.leave .callNext }
      else next.finish visit.ending := by
  intro visit next
  have hcall : stages.recorded.second walk.metadata.enterSecond walk.world =
      (visit.disposition, visit.left, walk.worldAfterSecond stages,
        walk.world.2 ++ [visit]) := rfl
  have hstore : walk.store.countVisit visit = bump .stage2 walk.store := rfl
  have honward : visit.callsOn = (visit.left.decision? == some .return) := rfl
  have hstage : ¬ visit.stage.val = 0 := Nat.one_ne_zero
  unfold visitSecond
  rw [if_pos h]
  unfold Metadata.enterSecond at hcall
  simp only [hcall, finishAtOutput, finish, next, after, hstore, StageVisit.LeadsOn,
    StageVisit.ending, StageVisit.drops, honward, hstage, false_imp_iff, and_true]
  cases VideoGate.drops visit.disposition visit.left with
  | true => rfl
  | false =>
      by_cases hnext : visit.left.decision? = some .return
      · rw [hnext]
        rfl
      · rw [beq_false_of_ne hnext, if_neg hnext]
        rfl

/-- What a path with these visits makes of a walk. -/
def endOf (final : Metadata) (visits : List StageVisit) (world : τ) :
    Action × Walk DispatchTables (τ × List StageVisit) :=
  ((endingOf visits).settle (walk.store.countVisits visits)).map id fun store =>
    { metadata := final, store, world := (world, walk.world.2 ++ visits) }

/-- The walk ends as some path from a stage says. -/
def Follows (stage : Fin 2) (hops : Nat)
    (result : Action × Walk DispatchTables (τ × List StageVisit)) : Prop :=
  ∃ visits final world, Path walk.store.secondEnabled stage hops walk.metadata visits final ∧
    result = walk.endOf final visits world

variable {walk} {visit : StageVisit} {hops : Nat}
  {result : Action × Walk DispatchTables (τ × List StageVisit)}

/-- A visit that leads on comes before the visits of the rest of the walk. -/
theorem Follows.cons {stage next : Fin 2} {hops' : Nat} {metadata : Metadata} {world : τ}
    (hleads : visit.LeadsOn walk.store.secondEnabled)
    (hpath : ∀ {visits final}, Path walk.store.secondEnabled next hops metadata visits final →
      Path walk.store.secondEnabled stage hops' walk.metadata (visit :: visits) final)
    (h : Follows { walk.after visit world with metadata } next hops result) :
    walk.Follows stage hops' result := by
  obtain ⟨visits, final, world', hrest, rfl⟩ := h
  have henabled : (walk.after visit world).store.secondEnabled = walk.store.secondEnabled :=
    walk.store.secondEnabled_countVisit visit
  rw [henabled] at hrest
  refine ⟨visit :: visits, final, world', hpath hrest, ?_⟩
  unfold endOf after
  rw [endingOf_cons hleads, List.append_cons walk.world.2 visit visits]
  rfl

/-- A visit that ends the walk is the last. -/
theorem Follows.last {stage : Fin 2} {world : τ}
    (hpath : Path walk.store.secondEnabled stage hops walk.metadata [visit] visit.left) :
    walk.Follows stage hops
      ((visit.ending.settle (walk.after visit world).store).map id fun store =>
        { walk.after visit world with store }) :=
  ⟨[visit], visit.left, world, hpath, rfl⟩

/-- A walk without a visit passes the packet. -/
theorem Follows.nil {stage : Fin 2}
    (hpath : Path walk.store.secondEnabled stage hops walk.metadata [] walk.metadata) :
    walk.Follows stage hops (.pass, walk) := by
  refine ⟨[], walk.metadata, walk.world.1, hpath, ?_⟩
  unfold endOf
  rw [List.append_nil]
  rfl

variable (walk)

theorem fromSecond_follows
    (hrun : ∀ walk, Follows walk 0 hops (run stages.recorded hops walk)) :
    walk.Follows 1 hops (fromSecond stages.recorded hops walk) := by
  unfold fromSecond
  by_cases hvisits : walk.metadata.stage2Visits < maxVisits
  · rw [visitSecond_eq stages walk hvisits]
    by_cases hleads : (walk.nextSecond stages).LeadsOn walk.store.secondEnabled
    · rw [if_pos hleads]
      exact .cons hleads (.leadSecond hvisits rfl rfl hleads) (hrun _)
    · rw [if_neg hleads]
      exact .last (.endSecond hvisits rfl rfl)
  · unfold visitSecond
    rw [if_neg hvisits]
    exact .nil (.skipSecond hvisits)

/-- **Every walk is a path.** -/
theorem run_follows (hops : Nat) : walk.Follows 0 hops (run stages.recorded hops walk) := by
  -- A hop is a visit to stage 1, or none if its visits are used up, and what comes after it.
  induction hops generalizing walk with
  | zero => exact .nil .outOfHops
  | succ hops ih =>
      have hrest := fun walk => fromSecond_follows stages walk ih
      unfold run
      by_cases hvisits : walk.metadata.stage1Visits < maxVisits
      · rw [visitFirst_eq stages walk hvisits]
        by_cases hleads : (walk.nextFirst stages).LeadsOn walk.store.secondEnabled
        · rw [if_pos hleads]
          exact .cons hleads (.leadFirst hvisits rfl rfl hleads) (hrest (walk.after ..))
        · rw [if_neg hleads]
          exact .last (.endFirst hvisits rfl rfl)
      · obtain ⟨visits, final, world, hpath, hresult⟩ := hrest walk
        refine ⟨visits, final, world, .skipFirst hvisits hpath, ?_⟩
        rw [← hresult]
        unfold visitFirst
        rw [if_neg hvisits]
        rfl

end Walk

end VideoGate
