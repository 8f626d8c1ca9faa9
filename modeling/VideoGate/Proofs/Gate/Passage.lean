import VideoGate.Proofs.Dispatch.Protocol
import VideoGate.Table.Video

/-!
# Packets through the dispatcher and the filter

A gate is the dispatcher with a first stage that hands every packet on and the video filter as the
second, over the tables of both.  A packet passes it in one of four ways (`Passage`): it goes to the
bridge peer, it is turned away before any stage, it ends behind stage 1, or the filter decides
about it (`Arrival.passage`).
-/

namespace VideoGate

open DispatchStore VideoFilter

/-! ## The gate -/

structure Gate where
  dispatcher : DispatchTables
  video : VideoTables
deriving DecidableEq

/-- Stage 1 hands every packet on, and stage 2 filters its frame. -/
def Stages.filtering (frame : Frame) : Stages VideoTables := ⟨.passThrough, .video frame⟩

/-- A packet that arrives at a gate, with what the metadata slot holds; the slot may be
missing. -/
structure Arrival where
  gate : Gate
  slot : Option Metadata
  frame : Frame

def Action.isRedirect : Action → Bool
  | redirect _ => true
  | pass | drop => false

namespace Arrival

variable (arrival : Arrival)

def outcome : Outcome DispatchTables VideoTables :=
  dispatch (.filtering arrival.frame) arrival.slot arrival.gate.dispatcher arrival.gate.video

def action : Action := arrival.outcome.action

def after : Gate := ⟨arrival.outcome.store, arrival.outcome.world⟩

def calls : List StageCall :=
  callsOf (.filtering arrival.frame) arrival.slot arrival.gate.dispatcher arrival.gate.video

/-- What the filter says about the frame. -/
def verdict : Disposition := (process arrival.frame arrival.gate.video).1

def Enters (stage : Fin 2) : Prop := ∃ call ∈ arrival.calls, call.stage = stage

instance (stage : Fin 2) : Decidable (arrival.Enters stage) :=
  inferInstanceAs (Decidable (∃ call ∈ arrival.calls, call.stage = stage))

end Arrival

/-! ## The four ways -/

/-- What the filter's verdict makes of a packet. -/
def Disposition.ending : Disposition → Ending
  | pass => .routed
  | drop => .dropped

namespace Gate

variable (gate : Gate)

/-- The dispatcher's tables when the filter has been called. -/
def countedThrough : DispatchTables :=
  ((gate.dispatcher.bump .admitted).bump .stage1).bump .stage2

end Gate

/-- The ways through a gate: the calls that are made, the action, and the gate afterwards. -/
inductive Passage (slot : Option Metadata) (frame : Frame) (gate : Gate) :
    List StageCall → Action → Gate → Prop
  | bridged {peer : UInt32} :
      gate.dispatcher.BridgesTo peer →
      Passage slot frame gate [] (.redirect peer)
        ⟨(gate.dispatcher.bump .admitted).bump .bridged, gate.video⟩
  | turnedAway :
      gate.dispatcher.NeverBridges →
      slot = none ∨ gate.dispatcher.get? .stage1 ≠ some 1 →
      Passage slot frame gate [] .pass ⟨gate.dispatcher.bump .admitted, gate.video⟩
  | endedBehindFirst {first : Metadata} :
      gate.dispatcher.NeverBridges → slot.isSome = true →
      gate.dispatcher.get? .stage1 = some 1 → gate.dispatcher.get? .stage2 ≠ some 1 →
      Passage slot frame gate [⟨0, first⟩] .pass
        ⟨(gate.dispatcher.bump .admitted).bump .stage1, gate.video⟩
  | filtered {first second : Metadata} :
      gate.dispatcher.NeverBridges → slot.isSome = true →
      gate.dispatcher.get? .stage1 = some 1 → gate.dispatcher.get? .stage2 = some 1 →
      Passage slot frame gate [⟨0, first⟩, ⟨1, second⟩]
        ((process frame gate.video).1.ending.settle gate.countedThrough).1
        ⟨((process frame gate.video).1.ending.settle gate.countedThrough).2,
          (process frame gate.video).2⟩

/-- **Watching changes nothing** but what is written down. -/
theorem dispatch_watched {τ : Type} (stages : Stages τ) (slot : Option Metadata)
    (tables : DispatchTables) (world : τ) :
    (dispatch stages.watched slot tables (world, [])).Alike Eq
      (fun watched plain => watched.1 = plain) (dispatch stages slot tables world) := by
  have halike : ∀ (number : Fin 2) (stage : Stage τ),
      StagesAlike (fun watched plain => watched.1 = plain) (stage.watched number) stage := by
    rintro number stage metadata world plain rfl
    exact ⟨rfl, rfl, rfl⟩
  exact dispatch_alike storesAlike_eq (halike 0 stages.first) (halike 1 stages.second) slot rfl rfl

section Watched

variable (frame : Frame) {walk : Walk DispatchTables (VideoTables × List StageCall)}

/-- Stage 1 hands the packet on, and it depends on the settings whether there is a stage 2. -/
theorem visitFirst_filtering (h : walk.metadata.stage1Visits < maxVisits) :
    walk.visitFirst (Stages.filtering frame).watched =
      let next : Walk DispatchTables (VideoTables × List StageCall) :=
        { metadata := walk.metadata.enterFirst.leave .callNext
          store := walk.store.bump .stage1
          world := (walk.world.1, walk.world.2 ++ [⟨0, walk.metadata.enterFirst⟩]) }
      if walk.store.get? .stage2 = some 1 then .goesOn next else .finished .pass next := by
  have hcall : (Stages.filtering frame).watched.first walk.metadata.enterFirst walk.world =
      (.pass, walk.metadata.enterFirst.leave .callNext, walk.world.1,
        walk.world.2 ++ [⟨0, walk.metadata.enterFirst⟩]) := rfl
  have hpasses : drops .pass (walk.metadata.enterFirst.leave .callNext) = false := by
    rw [drops, Metadata.decision?_leave]
    rfl
  have hsetting := walk.store.get?_bump .stage1 .stage2
  unfold Walk.visitFirst
  rw [if_pos h]
  unfold Metadata.enterFirst at hcall hpasses ⊢
  simp only [hcall, hpasses, Metadata.decision?_leave]
  rw [show bump .stage1 walk.store = walk.store.bump .stage1 from rfl]
  by_cases hsecond : walk.store.get? .stage2 = some 1
  · simp only [DispatchTables.isEnabled_of_eq (hsetting.trans hsecond), if_pos hsecond]
    rfl
  · simp only [DispatchTables.isEnabled_of_ne (mt hsetting.symm.trans hsecond), if_neg hsecond]
    rfl

/-- Stage 2 ends the walk by its verdict, for it leaves the decision of stage 1 as it is. -/
theorem visitSecond_filtering (h : walk.metadata.stage2Visits < maxVisits)
    (hdecision : walk.metadata.decision? = some .callNext) :
    walk.visitSecond (Stages.filtering frame).watched =
      let settled := (process frame walk.world.1).1.ending.settle (walk.store.bump .stage2)
      .finished settled.1
        { metadata := walk.metadata.enterSecond
          store := settled.2
          world := ((process frame walk.world.1).2,
            walk.world.2 ++ [⟨1, walk.metadata.enterSecond⟩]) } := by
  have hcall : (Stages.filtering frame).watched.second walk.metadata.enterSecond walk.world =
      ((process frame walk.world.1).1, walk.metadata.enterSecond, (process frame walk.world.1).2,
        walk.world.2 ++ [⟨1, walk.metadata.enterSecond⟩]) := rfl
  have hkept : walk.metadata.enterSecond.decision? = some .callNext := hdecision
  unfold Walk.visitSecond
  rw [if_pos h]
  unfold Metadata.enterSecond at hcall hkept ⊢
  simp only [hcall, drops, hkept]
  cases (process frame walk.world.1).1 with
  | pass => rfl
  | drop => rfl

/-- The first round ends the walk of a packet: behind stage 1, or as the filter says. -/
theorem run_filtering (store : DispatchTables) (world : VideoTables × List StageCall)
    (hops : Nat) :
    Walk.run (Stages.filtering frame).watched (hops + 1) ⟨.fresh, store, world⟩ =
      let first := Metadata.fresh.enterFirst
      let second := (first.leave .callNext).enterSecond
      let counted := store.bump .stage1
      let settled := (process frame world.1).1.ending.settle (counted.bump .stage2)
      if store.get? .stage2 = some 1 then
        (settled.1,
          { metadata := second
            store := settled.2
            world := ((process frame world.1).2, world.2 ++ [⟨0, first⟩] ++ [⟨1, second⟩]) })
      else
        (.pass,
          { metadata := first.leave .callNext
            store := counted
            world := (world.1, world.2 ++ [⟨0, first⟩]) }) := by
  have hfirst : Metadata.fresh.stage1Visits < maxVisits := by decide
  unfold Walk.run
  rw [visitFirst_filtering frame hfirst]
  by_cases hsecond : store.get? .stage2 = some 1
  · have hvisits : (Metadata.fresh.enterFirst.leave .callNext).stage2Visits < maxVisits := by decide
    have hdecision := Metadata.fresh.enterFirst.decision?_leave .callNext
    simp only [if_pos hsecond]
    rw [visitSecond_filtering frame hvisits hdecision]
  · simp only [if_neg hsecond]

end Watched

namespace Arrival

variable (arrival : Arrival)

/-- The outcome for stages that also write down their calls. -/
def watched : Outcome DispatchTables (VideoTables × List StageCall) :=
  dispatch (Stages.filtering arrival.frame).watched arrival.slot arrival.gate.dispatcher
    (arrival.gate.video, [])

theorem action_eq_watched : arrival.action = arrival.watched.action :=
  (dispatch_watched (.filtering arrival.frame) arrival.slot arrival.gate.dispatcher
    arrival.gate.video).action.symm

theorem after_eq_watched :
    arrival.after = ⟨arrival.watched.store, arrival.watched.world.1⟩ := by
  obtain ⟨-, -, -, hstore, hworld⟩ := dispatch_watched (.filtering arrival.frame) arrival.slot
    arrival.gate.dispatcher arrival.gate.video
  exact congr (congrArg Gate.mk hstore.symm) hworld.symm

/-- **Every packet passes the gate in one of the four ways.** -/
theorem passage :
    Passage arrival.slot arrival.frame arrival.gate arrival.calls arrival.action arrival.after := by
  rw [action_eq_watched, after_eq_watched]
  obtain ⟨⟨tables, video⟩, slot, frame⟩ := arrival
  unfold calls callsOf watched
  by_cases hbridge : tables.NeverBridges
  · by_cases haway : slot = none ∨ tables.get? .stage1 ≠ some 1
    · rw [dispatch_of_turnedAway hbridge (Stages.filtering frame).watched (video, []) haway]
      exact .turnedAway hbridge haway
    · obtain ⟨hslot, hfirst⟩ := not_or.mp haway
      obtain ⟨contents, rfl⟩ := Option.ne_none_iff_exists'.mp hslot
      have hfirst := Classical.not_not.mp hfirst
      have hsetting := tables.get?_bump .admitted .stage2
      rw [dispatch_of_stage1 hbridge (Stages.filtering frame).watched (video, []) hfirst]
      unfold maxHops
      rw [run_filtering frame]
      by_cases hsecond : tables.get? .stage2 = some 1
      · simp only [if_pos (hsetting.trans hsecond)]
        exact .filtered hbridge rfl hfirst hsecond
      · simp only [if_neg (mt hsetting.symm.trans hsecond)]
        exact .endedBehindFirst hbridge rfl hfirst hsecond
  · obtain ⟨peer, hpeer⟩ := Classical.not_forall_not.mp hbridge
    rw [dispatch_of_bridgesTo hpeer]
    exact .bridged hpeer

end Arrival

/-! ## What becomes of the packet -/

/-- What is counted has no say in where a packet is sent. -/
theorem routeToOutput_bump (tables : DispatchTables) (counter : DispatchCounter) :
    (routeToOutput (tables.bump counter)).1 = (routeToOutput tables).1 := by
  have hsends : ∀ interface,
      (tables.bump counter).SendsTo interface ↔ tables.SendsTo interface := by
    intro interface
    unfold DispatchTables.SendsTo
    rw [DispatchTables.get?_bump]
  obtain ⟨interface, hinterface, hroute⟩ | ⟨hnone, hroute⟩ := tables.routeToOutput_cases
  · rw [hroute, DispatchTables.routeToOutput_of_sendsTo ((hsends interface).mpr hinterface)]
  · have hnone : ∀ interface, ¬ (tables.bump counter).SendsTo interface :=
      fun interface => mt (hsends interface).mp (hnone interface)
    rw [hroute, DispatchTables.routeToOutput_of_no_output hnone]

namespace Passage

variable {slot : Option Metadata} {frame : Frame} {gate after : Gate} {calls : List StageCall}
  {action : Action} (h : Passage slot frame gate calls action after)
include h

theorem timesCalled_le_one (stage : Fin 2) : timesCalled stage calls ≤ 1 := by
  cases h with
  | bridged hpeer => exact Nat.zero_le 1
  | turnedAway hbridge hslot => exact Nat.zero_le 1
  | endedBehindFirst hbridge hslot hfirst hsecond => exact List.countP_le_length
  | filtered hbridge hslot hfirst hsecond =>
      -- The two calls are of different stages.
      match stage with
      | 0 => exact Nat.le_refl 1
      | 1 => exact Nat.le_refl 1

theorem action_of_entered (henters : ∃ call ∈ calls, call.stage = 1) :
    action = if (process frame gate.video).1 = .drop then .drop
      else (routeToOutput gate.dispatcher).1 := by
  cases h with
  | bridged hpeer => simp at henters
  | turnedAway hbridge hslot => simp at henters
  | endedBehindFirst hbridge hslot hfirst hsecond => simp at henters
  | filtered hbridge hslot hfirst hsecond =>
      cases (process frame gate.video).1 with
      | drop => rfl
      | pass =>
          show (routeToOutput gate.countedThrough).1 = _
          unfold Gate.countedThrough
          rw [routeToOutput_bump, routeToOutput_bump, routeToOutput_bump]
          rfl

end Passage

/-- A packet enters each stage once at most, and from stage 2 it goes where the filter and the
output interface send it. -/
structure Arrival.Settled (arrival : Arrival) : Prop where
  once : ∀ stage, timesCalled stage arrival.calls ≤ 1
  action : arrival.Enters 1 → arrival.action =
    if arrival.verdict = .drop then .drop else (routeToOutput arrival.gate.dispatcher).1

/-- **Every packet is settled.** -/
theorem Arrival.settled (arrival : Arrival) : arrival.Settled :=
  ⟨arrival.passage.timesCalled_le_one, arrival.passage.action_of_entered⟩

end VideoGate
