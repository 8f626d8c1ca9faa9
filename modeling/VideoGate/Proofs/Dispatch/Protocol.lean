import Mathlib.Data.List.Chain
import VideoGate.Proofs.Dispatch.Exit

/-!
# The order of the calls

`CallProtocol` lists what holds of the calls that a packet makes whatever the stages write into
the metadata, and `VisitProtocol` what holds if they leave the visits in it alone: the calls
alternate, and the visits in the metadata are the numbers of calls.
-/

namespace VideoGate

/-! ## Reading the calls -/

/-- The visits to the two stages, as the metadata counts them. -/
def Metadata.visits (metadata : Metadata) : Nat × Nat :=
  (metadata.stage1Visits.toNat, metadata.stage2Visits.toNat)

/-- The visits to the called stage, this call included. -/
def StageCall.ownVisits (call : StageCall) : Nat :=
  match call.stage with
  | 0 => call.entry.visits.1
  | 1 => call.entry.visits.2

def timesCalled (stage : Fin 2) (calls : List StageCall) : Nat :=
  calls.countP (·.stage == stage)

/-- The stage leaves the visits in the metadata as they are. -/
def Stage.KeepsVisits {τ : Type} (stage : Stage τ) : Prop :=
  ∀ metadata world,
    (stage metadata world).2.1.stage1Visits = metadata.stage1Visits ∧
    (stage metadata world).2.1.stage2Visits = metadata.stage2Visits

def Stages.KeepVisits {τ : Type} (stages : Stages τ) : Prop :=
  stages.first.KeepsVisits ∧ stages.second.KeepsVisits

/-- What holds of the calls whatever the stages do. -/
structure CallProtocol (tables : DispatchTables) (calls : List StageCall) : Prop where
  atMost : ∀ stage, timesCalled stage calls ≤ 8
  first : ∀ call ∈ calls.head?, call.stage = 0 ∧ call.entry =
    { stage1Visits := 1, stage2Visits := 0, rawDecision := RoutingDecision.pass.toRaw, flow := 0 }
  later : ∀ call ∈ calls.tail, call.entry.decision? = some .callNext
  ownVisits : ∀ call ∈ calls, 1 ≤ call.ownVisits ∧ call.ownVisits ≤ 4
  apart : calls.IsChain fun call next => ¬ (call.stage = 0 ∧ next.stage = 0)
  enabled : ∀ call ∈ calls, call.stage = 1 →
    tables.get? .stage1 = some 1 ∧ tables.get? .stage2 = some 1

/-- What holds of the calls if the stages keep the visits. -/
structure VisitProtocol (calls : List StageCall) : Prop where
  atMost : ∀ stage, timesCalled stage calls ≤ 4
  first : ∀ k call, calls[2 * k]? = some call →
    call.stage = 0 ∧ call.entry.visits = (k + 1, k)
  second : ∀ k call, calls[2 * k + 1]? = some call →
    call.stage = 1 ∧ call.entry.visits = (k + 1, k + 1)

theorem timesCalled_cons (stage : Fin 2) (call : StageCall) (calls : List StageCall) :
    timesCalled stage (call :: calls) =
      timesCalled stage calls + if call.stage = stage then 1 else 0 := by
  unfold timesCalled
  rw [List.countP_cons]
  simp only [beq_iff_eq]

namespace Metadata

variable {metadata : Metadata}

theorem lt_maxVisits_iff {count : UInt32} : count < maxVisits ↔ count.toNat < 4 :=
  UInt32.lt_iff_toNat_lt

theorem toNat_succ {count : UInt32} (h : count < maxVisits) :
    (count + 1).toNat = count.toNat + 1 := by
  have hlt := lt_maxVisits_iff.mp h
  rw [UInt32.toNat_add, show (1 : UInt32).toNat = 1 from rfl]
  omega

theorem visits_enterFirst (h : metadata.stage1Visits < maxVisits) :
    metadata.enterFirst.visits = (metadata.visits.1 + 1, metadata.visits.2) :=
  congrArg (·, metadata.stage2Visits.toNat) (toNat_succ h)

theorem visits_enterSecond (h : metadata.stage2Visits < maxVisits) :
    metadata.enterSecond.visits = (metadata.visits.1, metadata.visits.2 + 1) :=
  congrArg (metadata.stage1Visits.toNat, ·) (toNat_succ h)

end Metadata

/-! ## Calls along a path -/

namespace Path

variable {secondEnabled : Bool} {stage : Fin 2} {hops : Nat} {metadata final : Metadata}
  {visits : List StageVisit}

/-- Each hop is good for one call of each stage, and a path that starts at stage 2 has one more
call of it ahead. -/
theorem timesCalled_le (h : Path secondEnabled stage hops metadata visits final) :
    timesCalled 0 (visits.map StageVisit.toStageCall) ≤ hops ∧
      timesCalled 1 (visits.map StageVisit.toStageCall) ≤ hops + stage := by
  induction h with
  | outOfHops => exact ⟨Nat.le_refl _, Nat.le_refl _⟩
  | skipFirst _ _ ih => exact ⟨Nat.le_succ_of_le ih.1, ih.2⟩
  | endFirst _ hstage _ =>
      simp only [List.map_cons, List.map_nil, timesCalled_cons, hstage]
      simp [timesCalled]
  | leadFirst _ hstage _ _ _ ih =>
      obtain ⟨hfirst, hsecond⟩ := ih
      simp only [List.map_cons, timesCalled_cons, hstage]
      exact ⟨Nat.succ_le_succ hfirst, hsecond⟩
  | skipSecond _ => exact ⟨Nat.zero_le _, Nat.zero_le _⟩
  | endSecond _ hstage _ =>
      simp only [List.map_cons, List.map_nil, timesCalled_cons, hstage]
      simp [timesCalled]
  | leadSecond _ hstage _ _ _ ih =>
      obtain ⟨hfirst, hsecond⟩ := ih
      simp only [List.map_cons, timesCalled_cons, hstage]
      exact ⟨hfirst, Nat.succ_le_succ hsecond⟩

theorem ownVisits_first {visit : StageVisit} (hvisits : metadata.stage1Visits < maxVisits)
    (hstage : visit.stage = 0) (hentry : visit.entry = metadata.enterFirst) :
    1 ≤ visit.ownVisits ∧ visit.ownVisits ≤ 4 := by
  have hlt := Metadata.lt_maxVisits_iff.mp hvisits
  have hown : visit.ownVisits = metadata.stage1Visits.toNat + 1 := by
    unfold StageCall.ownVisits
    rw [hstage, hentry, Metadata.visits_enterFirst hvisits]
    rfl
  omega

theorem ownVisits_second {visit : StageVisit} (hvisits : metadata.stage2Visits < maxVisits)
    (hstage : visit.stage = 1) (hentry : visit.entry = metadata.enterSecond) :
    1 ≤ visit.ownVisits ∧ visit.ownVisits ≤ 4 := by
  have hlt := Metadata.lt_maxVisits_iff.mp hvisits
  have hown : visit.ownVisits = metadata.stage2Visits.toNat + 1 := by
    unfold StageCall.ownVisits
    rw [hstage, hentry, Metadata.visits_enterSecond hvisits]
    rfl
  omega

theorem ownVisits_mem (h : Path secondEnabled stage hops metadata visits final) :
    ∀ visit ∈ visits, 1 ≤ visit.ownVisits ∧ visit.ownVisits ≤ 4 := by
  induction h with
  | outOfHops => nofun
  | skipFirst _ _ ih => exact ih
  | endFirst hvisits hstage hentry =>
      exact List.forall_mem_singleton.mpr (ownVisits_first hvisits hstage hentry)
  | leadFirst hvisits hstage hentry _ _ ih =>
      exact List.forall_mem_cons.mpr ⟨ownVisits_first hvisits hstage hentry, ih⟩
  | skipSecond _ => nofun
  | endSecond hvisits hstage hentry =>
      exact List.forall_mem_singleton.mpr (ownVisits_second hvisits hstage hentry)
  | leadSecond hvisits hstage hentry _ _ ih =>
      exact List.forall_mem_cons.mpr ⟨ownVisits_second hvisits hstage hentry, ih⟩

theorem decision?_of_leadsOn {visit : StageVisit} (hstage : visit.stage = 0)
    (hleads : visit.LeadsOn secondEnabled) : visit.left.decision? = some .callNext := by
  have hcalls := ((visit.ending_eq_passed_iff).mp hleads.1).2
  unfold StageVisit.callsOn at hcalls
  rw [hstage] at hcalls
  exact eq_of_beq hcalls

/-- Entering a stage leaves the decision in the metadata, and only the first entry finds one that
no visit led on with. -/
theorem decision_mem (h : Path secondEnabled stage hops metadata visits final)
    (hnext : metadata.decision? = some .callNext) :
    ∀ visit ∈ visits, visit.entry.decision? = some .callNext := by
  induction h with
  | outOfHops => nofun
  | skipFirst _ _ ih => exact ih hnext
  | endFirst _ _ hentry =>
      refine List.forall_mem_singleton.mpr ?_
      rw [hentry]
      exact hnext
  | leadFirst _ hstage hentry hleads _ ih =>
      refine List.forall_mem_cons.mpr ⟨?_, ih (decision?_of_leadsOn hstage hleads)⟩
      rw [hentry]
      exact hnext
  | skipSecond _ => nofun
  | endSecond _ _ hentry =>
      refine List.forall_mem_singleton.mpr ?_
      rw [hentry]
      exact hnext
  | leadSecond _ _ hentry _ _ ih =>
      refine List.forall_mem_cons.mpr ⟨?_, ih (Metadata.decision?_leave ..)⟩
      rw [hentry]
      exact hnext

theorem head_second {visit : StageVisit}
    (h : Path secondEnabled 1 hops metadata (visit :: visits) final) : visit.stage = 1 := by
  cases h with
  | endSecond _ hstage _ => exact hstage
  | leadSecond _ hstage _ _ _ => exact hstage

theorem isChain (h : Path secondEnabled stage hops metadata visits final) :
    visits.IsChain fun visit next => ¬ (visit.stage = 0 ∧ next.stage = 0) := by
  induction h with
  | outOfHops => exact .nil
  | skipFirst _ _ ih => exact ih
  | endFirst _ _ _ => exact .singleton _
  | @leadFirst _ _ visit visits _ _ _ _ _ hrest ih =>
      cases visits with
      | nil => exact .singleton _
      | cons next visits =>
          refine .cons_cons ?_ ih
          rintro ⟨-, hnext⟩
          cases hnext.symm.trans hrest.head_second
  | skipSecond _ => exact .nil
  | endSecond _ _ _ => exact .singleton _
  | @leadSecond _ _ visit visits _ _ hstage _ _ _ ih =>
      cases visits with
      | nil => exact .singleton _
      | cons next visits =>
          refine .cons_cons ?_ ih
          rintro ⟨hfirst, -⟩
          cases hfirst.symm.trans hstage

/-- The first step from stage 1 with fresh metadata: no visits are used up, so the stage is
called. -/
theorem start (h : Path secondEnabled 0 (hops + 1) .fresh visits final) :
    ∃ visit rest, visits = visit :: rest ∧ visit.stage = 0 ∧
      visit.entry = Metadata.fresh.enterFirst ∧
      (rest = [] ∨ visit.LeadsOn secondEnabled ∧
        Path secondEnabled 1 hops visit.left rest final) := by
  cases h with
  | skipFirst hvisits _ => exact absurd (by decide) hvisits
  | endFirst _ hstage hentry => exact ⟨_, [], rfl, hstage, hentry, .inl rfl⟩
  | leadFirst _ hstage hentry hleads hrest =>
      exact ⟨_, _, rfl, hstage, hentry, .inr ⟨hleads, hrest⟩⟩

end Path

/-- The calls of a path from stage 1 with fresh metadata. -/
theorem Path.callProtocol {tables : DispatchTables} {visits : List StageVisit} {final : Metadata}
    (hfirst : tables.get? .stage1 = some 1)
    (h : Path tables.secondEnabled 0 maxHops .fresh visits final) :
    CallProtocol tables (visits.map StageVisit.toStageCall) := by
  obtain ⟨hatMostFirst, hatMostSecond⟩ := h.timesCalled_le
  have hown := h.ownVisits_mem
  have hchain := h.isChain
  obtain ⟨visit, rest, rfl, hstage, hentry, hrest⟩ := h.start
  constructor
  · intro stage
    match stage with
    | 0 => exact hatMostFirst
    | 1 => exact hatMostSecond
  · intro call hcall
    cases hcall
    exact ⟨hstage, hentry⟩
  · refine List.forall_mem_map.mpr fun later hlater => ?_
    obtain rfl | ⟨hleads, hpath⟩ := hrest
    · nomatch hlater
    · exact hpath.decision_mem (decision?_of_leadsOn hstage hleads) later hlater
  · exact List.forall_mem_map.mpr hown
  · exact (List.isChain_map _).mpr hchain
  · refine List.forall_mem_map.mpr fun call hcall hsecond => ⟨hfirst, ?_⟩
    obtain rfl | hlater := List.mem_cons.mp hcall
    · cases hstage.symm.trans hsecond
    · obtain rfl | ⟨hleads, -⟩ := hrest
      · nomatch hlater
      · exact eq_of_beq (hleads.2 (congrArg Fin.val hstage))

/-! ## Alternation -/

/-- The visits to the two stages after some calls that alternate, stage 1 being the first. -/
def visitsAfter (made : Nat) : Nat × Nat := ((made + 1) / 2, made / 2)

/-- These calls carry on the alternation after some calls, and the metadata in the end counts
them. -/
structure Alternates (made : Nat) (calls : List StageCall) (final : Metadata) : Prop where
  call : ∀ i call, calls[i]? = some call →
    call.stage.val = (made + i) % 2 ∧ call.entry.visits = visitsAfter (made + i + 1)
  counts : final.visits =
    ((visitsAfter made).1 + timesCalled 0 calls, (visitsAfter made).2 + timesCalled 1 calls)
  atMost : final.visits.1 ≤ 4 ∧ final.visits.2 ≤ 4

namespace Alternates

variable {made : Nat} {calls : List StageCall} {final : Metadata}

theorem nil (hmade : made ≤ 8) (hfinal : final.visits = visitsAfter made) :
    Alternates made [] final := by
  refine ⟨nofun, hfinal, ?_⟩
  rw [hfinal]
  unfold visitsAfter
  omega

theorem cons {call : StageCall} (hstage : call.stage.val = made % 2)
    (hentry : call.entry.visits = visitsAfter (made + 1))
    (h : Alternates (made + 1) calls final) : Alternates made (call :: calls) final := by
  refine ⟨?_, ?_, h.atMost⟩
  · intro i later hlater
    cases i with
    | zero =>
        cases hlater
        exact ⟨hstage, hentry⟩
    | succ i =>
        rw [Nat.add_succ, ← Nat.succ_add]
        exact h.call i later hlater
  · rw [h.counts, timesCalled_cons, timesCalled_cons]
    unfold visitsAfter
    -- The call is one of stage 1 exactly if an even number of calls was made before.
    match hcall : call.stage with
    | 0 =>
        have heven : made % 2 = 0 := by rw [← hstage, hcall]; rfl
        ext <;> simp <;> omega
    | 1 =>
        have hodd : made % 2 = 1 := by rw [← hstage, hcall]; rfl
        ext <;> simp <;> omega

end Alternates

section Enter

variable {made : Nat} {metadata : Metadata} (hvisits : metadata.visits = visitsAfter made)
include hvisits

theorem visits_enterFirst_after (hlt : metadata.stage1Visits < maxVisits) (heven : made % 2 = 0) :
    metadata.enterFirst.visits = visitsAfter (made + 1) ∧ made + 1 ≤ 8 := by
  have hcount := Metadata.lt_maxVisits_iff.mp hlt
  obtain ⟨hfirst, -⟩ := Prod.mk.inj hvisits
  rw [Metadata.visits_enterFirst hlt, hvisits]
  unfold visitsAfter
  refine ⟨Prod.ext ?_ ?_, ?_⟩
  · show (made + 1) / 2 + 1 = (made + 1 + 1) / 2
    omega
  · show made / 2 = (made + 1) / 2
    omega
  · omega

theorem visits_enterSecond_after (hlt : metadata.stage2Visits < maxVisits) (hodd : made % 2 = 1) :
    metadata.enterSecond.visits = visitsAfter (made + 1) ∧ made + 1 ≤ 8 := by
  have hcount := Metadata.lt_maxVisits_iff.mp hlt
  obtain ⟨-, hsecond⟩ := Prod.mk.inj hvisits
  rw [Metadata.visits_enterSecond hlt, hvisits]
  unfold visitsAfter
  refine ⟨Prod.ext ?_ ?_, ?_⟩
  · show (made + 1) / 2 = (made + 1 + 1) / 2
    omega
  · show made / 2 + 1 = (made + 1) / 2
    omega
  · omega

end Enter

/-- **Calls alternate along a path** if the stages keep the visits. -/
theorem Path.alternates {secondEnabled : Bool} {stage : Fin 2} {hops made : Nat}
    {metadata final : Metadata} {visits : List StageVisit}
    (h : Path secondEnabled stage hops metadata visits final)
    (hkeeps : ∀ visit ∈ visits, visit.left.visits = visit.entry.visits)
    (hstage : stage.val = made % 2) (hmade : made ≤ 8)
    (hvisits : metadata.visits = visitsAfter made) :
    Alternates made (visits.map StageVisit.toStageCall) final := by
  induction h generalizing made with
  | outOfHops => exact .nil hmade hvisits
  | @skipFirst hops metadata visits final hused hrest ih =>
      -- The visits to stage 1 are used up after seven calls, and those to stage 2 after eight.
      have hused := mt Metadata.lt_maxVisits_iff.mpr hused
      obtain ⟨hfirst, hsecond⟩ := Prod.mk.inj hvisits
      have height : made = 8 := by
        have : made % 2 = 0 := hstage.symm
        omega
      have hsecondUsed : ¬ metadata.stage2Visits < maxVisits := by
        rw [Metadata.lt_maxVisits_iff]
        omega
      cases hrest with
      | skipSecond _ => exact .nil hmade hvisits
      | endSecond hlt _ _ => exact absurd hlt hsecondUsed
      | leadSecond hlt _ _ _ _ => exact absurd hlt hsecondUsed
  | @endFirst hops metadata visit hlt hcall hentry =>
      obtain ⟨hentered, hmade⟩ := visits_enterFirst_after hvisits hlt hstage.symm
      have hkept := (List.forall_mem_singleton.mp hkeeps).trans (hentry ▸ hentered)
      exact .cons (hcall ▸ hstage) (hentry ▸ hentered) (.nil hmade hkept)
  | @leadFirst hops metadata visit visits final hlt hcall hentry hleads hrest ih =>
      obtain ⟨hentered, hmade⟩ := visits_enterFirst_after hvisits hlt hstage.symm
      obtain ⟨hkept, hkeeps⟩ := List.forall_mem_cons.mp hkeeps
      have hparity : 1 = (made + 1) % 2 := by
        have : 0 = made % 2 := hstage
        omega
      exact .cons (hcall ▸ hstage) (hentry ▸ hentered)
        (ih hkeeps hparity hmade (hkept.trans (hentry ▸ hentered)))
  | skipSecond _ => exact .nil hmade hvisits
  | @endSecond hops metadata visit hlt hcall hentry =>
      obtain ⟨hentered, hmade⟩ := visits_enterSecond_after hvisits hlt hstage.symm
      have hkept := (List.forall_mem_singleton.mp hkeeps).trans (hentry ▸ hentered)
      exact .cons (hcall ▸ hstage) (hentry ▸ hentered) (.nil hmade hkept)
  | @leadSecond hops metadata visit visits final hlt hcall hentry hleads hrest ih =>
      obtain ⟨hentered, hmade⟩ := visits_enterSecond_after hvisits hlt hstage.symm
      obtain ⟨hkept, hkeeps⟩ := List.forall_mem_cons.mp hkeeps
      have hparity : 0 = (made + 1) % 2 := by
        have : 1 = made % 2 := hstage
        omega
      exact .cons (hcall ▸ hstage) (hentry ▸ hentered)
        (ih hkeeps hparity hmade (hkept.trans (hentry ▸ hentered)))

theorem Alternates.visitProtocol {calls : List StageCall} {final : Metadata}
    (h : Alternates 0 calls final) :
    VisitProtocol calls ∧ final.visits = (timesCalled 0 calls, timesCalled 1 calls) := by
  have hfinal : final.visits = (timesCalled 0 calls, timesCalled 1 calls) := by
    rw [h.counts]
    simp [visitsAfter]
  obtain ⟨hfirst, hsecond⟩ := h.atMost
  rw [hfinal] at hfirst hsecond
  refine ⟨⟨?_, ?_, ?_⟩, hfinal⟩
  · intro stage
    match stage with
    | 0 => exact hfirst
    | 1 => exact hsecond
  · intro k call hcall
    obtain ⟨hstage, hvisits⟩ := h.call (2 * k) call hcall
    have hafter : visitsAfter (0 + 2 * k + 1) = (k + 1, k) := by
      unfold visitsAfter
      refine Prod.ext ?_ ?_ <;> simp only <;> omega
    exact ⟨Fin.ext (by rw [hstage, Fin.val_zero]; omega), hvisits.trans hafter⟩
  · intro k call hcall
    obtain ⟨hstage, hvisits⟩ := h.call (2 * k + 1) call hcall
    have hafter : visitsAfter (0 + (2 * k + 1) + 1) = (k + 1, k + 1) := by
      unfold visitsAfter
      refine Prod.ext ?_ ?_ <;> simp only <;> omega
    exact ⟨Fin.ext (by rw [hstage, Fin.val_one]; omega), hvisits.trans hafter⟩

/-! ## The calls of a packet -/

theorem CallProtocol.nil (tables : DispatchTables) : CallProtocol tables [] :=
  ⟨fun _ => Nat.zero_le _, nofun, nofun, nofun, .nil, nofun⟩

section Packet

variable {τ : Type} {stages : Stages τ} {tables : DispatchTables}

theorem callsOf_of_bridged (h : ¬ tables.NeverBridges) (stages : Stages τ)
    (slot : Option Metadata) (world : τ) : callsOf stages slot tables world = [] := by
  obtain ⟨peer, hpeer⟩ := Classical.not_forall_not.mp h
  unfold callsOf
  rw [dispatch_of_bridgesTo hpeer]

theorem callsOf_protocol (stages : Stages τ) (slot : Option Metadata) (tables : DispatchTables)
    (world : τ) : CallProtocol tables (callsOf stages slot tables world) := by
  by_cases hbridge : tables.NeverBridges
  · rw [callsOf_eq_map_visitsOf]
    obtain ⟨hnone, -⟩ | ⟨hfirst, final, -, hpath⟩ := (dispatch_led hbridge stages slot world).path
    · rw [hnone]
      exact .nil tables
    · exact hpath.callProtocol hfirst
  · rw [callsOf_of_bridged hbridge]
    exact .nil tables

theorem visitsOf_keep (h : stages.KeepVisits) (slot : Option Metadata) (tables : DispatchTables)
    (world : τ) :
    ∀ visit ∈ visitsOf stages slot tables world, visit.left.visits = visit.entry.visits := by
  refine visitsOf_forall (fun entry world => ?_) (fun entry world => ?_) slot tables world
  · obtain ⟨hfirst, hsecond⟩ := h.1 entry world
    exact Prod.ext (congrArg UInt32.toNat hfirst) (congrArg UInt32.toNat hsecond)
  · obtain ⟨hfirst, hsecond⟩ := h.2 entry world
    exact Prod.ext (congrArg UInt32.toNat hfirst) (congrArg UInt32.toNat hsecond)

/-- Stages that keep the visits are called by turns, and the metadata in the end holds the numbers
of calls. -/
theorem callsOf_alternates (h : stages.KeepVisits) (hbridge : tables.NeverBridges)
    (slot : Option Metadata) (world : τ) :
    ∃ final, Alternates 0 (callsOf stages slot tables world) final ∧
      (slot.isSome = true → (dispatch stages slot tables world).slot = some final) := by
  have hkeeps := visitsOf_keep h slot tables world
  rw [callsOf_eq_map_visitsOf]
  obtain ⟨hnone, hslot⟩ | ⟨-, final, hslot, hpath⟩ := (dispatch_led hbridge stages slot world).path
  · refine ⟨.fresh, ?_, fun hpresent => ?_⟩
    · rw [hnone]
      exact .nil (Nat.zero_le 8) rfl
    · obtain ⟨metadata, rfl⟩ := Option.isSome_iff_exists.mp hpresent
      exact hslot
  · exact ⟨final, hpath.alternates hkeeps rfl (Nat.zero_le 8) rfl, fun _ => hslot⟩

end Packet

/-- **The call protocol** of the dispatcher. -/
theorem dispatch_protocol {τ : Type} (stages : Stages τ) (slot : Option Metadata)
    (tables : DispatchTables) (world : τ) :
    let calls := callsOf stages slot tables world
    CallProtocol tables calls ∧
    (stages.KeepVisits →
      VisitProtocol calls ∧
      (tables.NeverBridges → slot.isSome = true →
        (dispatch stages slot tables world).slot.map Metadata.visits =
          some (timesCalled 0 calls, timesCalled 1 calls))) := by
  intro calls
  refine ⟨callsOf_protocol stages slot tables world, fun hkeep => ?_⟩
  by_cases hbridge : tables.NeverBridges
  · obtain ⟨final, halternates, hslot⟩ := callsOf_alternates hkeep hbridge slot world
    obtain ⟨hprotocol, hvisits⟩ := halternates.visitProtocol
    refine ⟨hprotocol, fun _ hpresent => ?_⟩
    rw [hslot hpresent]
    exact congrArg some hvisits
  · have hnone : calls = [] := callsOf_of_bridged hbridge stages slot world
    rw [hnone]
    exact ⟨⟨fun _ => Nat.zero_le _, nofun, nofun⟩, fun hnever => absurd hnever hbridge⟩

/-- A first stage that always calls on and a second that always returns: each is called four
times. -/
theorem dispatch_protocol_ping_pong :
    let stages : Stages Unit :=
      ⟨.passThrough, fun metadata world => (.pass, metadata.leave .return, world)⟩
    let tables := { DispatchTables.empty with stage1 := 1, stage2 := 1 }
    let calls := callsOf stages (some .fresh) tables ()
    stages.KeepVisits ∧ tables.NeverBridges ∧ calls.length = 8 ∧ VisitProtocol calls ∧
      (dispatch stages (some .fresh) tables ()).slot.map Metadata.visits = some (4, 4) := by
  intro stages tables calls
  have hkeep : stages.KeepVisits := ⟨fun _ _ => ⟨rfl, rfl⟩, fun _ _ => ⟨rfl, rfl⟩⟩
  have hbridge : tables.NeverBridges := by
    rintro peer ⟨hbridge, -⟩
    exact absurd hbridge (by decide)
  obtain ⟨hprotocol, hslot⟩ := (dispatch_protocol stages (some .fresh) tables ()).2 hkeep
  exact ⟨hkeep, hbridge, by decide, hprotocol, (hslot hbridge rfl).trans (by decide)⟩

end VideoGate
