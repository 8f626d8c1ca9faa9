import VideoGate.Proofs.Control.SettingMaps
import VideoGate.Proofs.Dispatch.Exit

/-!
# What the status tells about the packets

The status and the dispatcher decode the same words, each in its own way.  They agree on all of
them: the status shows a switch as on exactly if packets take the way behind it
(`dispatch_obeys_status`).
-/

namespace VideoGate

variable {τ : Type}

/-! ## The first visits -/

/-- Stage 2 is visited from where the walk has come to it, unless its visits are used up. -/
theorem Path.visits_second_iff {secondEnabled : Bool} {hops : Nat} {metadata final : Metadata}
    {visits : List StageVisit} (h : Path secondEnabled 1 hops metadata visits final) :
    (∃ visit ∈ visits, visit.stage = 1) ↔ metadata.stage2Visits < maxVisits := by
  cases h with
  | skipSecond hvisits => simp [hvisits]
  | endSecond hvisits hstage => simp [hvisits, hstage]
  | leadSecond hvisits hstage => simp [hvisits, hstage]

/-- A walk that may visit stage 1 does so at once, and comes to stage 2 if this visit leads on and
leaves visits to it. -/
theorem Walk.visits_run (stages : Stages τ) (walk : Walk DispatchTables (τ × List StageVisit))
    (hops : Nat) (hvisits : walk.metadata.stage1Visits < maxVisits) :
    let first := walk.nextFirst stages
    ∃ rest, (run stages.recorded (hops + 1) walk).2.world.2 = walk.world.2 ++ first :: rest ∧
      ((∃ visit ∈ rest, visit.stage = 1) ↔
        first.LeadsOn walk.store.secondEnabled ∧ first.left.stage2Visits < maxVisits) := by
  intro first
  unfold run
  rw [visitFirst_eq stages walk hvisits]
  by_cases hleads : first.LeadsOn walk.store.secondEnabled
  · -- What comes after is a path from stage 2, whose first visit is to stage 2 if there is any.
    obtain ⟨rest, final, world, hpath, hrest⟩ :=
      fromSecond_follows stages (walk.after first (walk.worldAfterFirst stages))
        (fun walk => run_follows stages walk hops)
    refine ⟨rest, ?_, ?_⟩
    · rw [if_pos hleads]
      show (fromSecond stages.recorded hops _).2.world.2 = _
      rw [hrest, List.append_cons]
      rfl
    · rw [hpath.visits_second_iff, and_iff_right hleads]
      rfl
  · refine ⟨[], ?_, ?_⟩
    · rw [if_neg hleads]
      rfl
    · simp [hleads]

theorem StageVisit.leadsOn_iff_of_first {visit : StageVisit} (h : visit.stage = 0)
    (secondEnabled : Bool) :
    visit.LeadsOn secondEnabled ↔ visit.disposition = .pass ∧
      visit.left.decision? = some .callNext ∧ secondEnabled = true := by
  have hcalls : visit.callsOn = true ↔ visit.left.decision? = some .callNext := by
    unfold callsOn
    rw [h]
    exact beq_iff_eq
  have hdrops : visit.drops = false ↔
      visit.disposition ≠ .drop ∧ visit.left.decision? ≠ some .drop := by
    simp [drops, VideoGate.drops]
  have hpass : visit.disposition ≠ .drop ↔ visit.disposition = .pass := by
    cases visit.disposition <;> decide
  unfold LeadsOn
  rw [ending_eq_passed_iff, hdrops, hcalls, hpass, h]
  constructor
  · rintro ⟨⟨⟨hdisposition, -⟩, hdecision⟩, hsecond⟩
    exact ⟨hdisposition, hdecision, hsecond rfl⟩
  · rintro ⟨hdisposition, hdecision, hsecond⟩
    refine ⟨⟨⟨hdisposition, ?_⟩, hdecision⟩, fun _ => hsecond⟩
    rw [hdecision]
    decide

section NeverBridges

variable {tables : DispatchTables} (h : tables.NeverBridges) (stages : Stages τ) (world : τ)
include h

theorem visitsOf_of_turnedAway {slot : Option Metadata}
    (hslot : slot = none ∨ tables.get? .stage1 ≠ some 1) :
    visitsOf stages slot tables world = [] := by
  unfold visitsOf
  rw [dispatch_of_turnedAway h stages.recorded (world, []) hslot]

/-- With stage 1 enabled its visit is the first. -/
theorem visitsOf_of_stage1 (hfirst : tables.get? .stage1 = some 1) (contents : Metadata) :
    ∃ first rest, visitsOf stages (some contents) tables world = first :: rest ∧
      first.stage = 0 ∧ ((∃ visit ∈ rest, visit.stage = 1) ↔
        first.LeadsOn tables.secondEnabled ∧ first.left.stage2Visits < maxVisits) := by
  have hfresh : Metadata.fresh.stage1Visits < maxVisits := by decide
  obtain ⟨rest, hrun, hrest⟩ := Walk.visits_run stages
    { metadata := .fresh, store := tables.bump .admitted, world := (world, []) } 7 hfresh
  refine ⟨_, rest, ?_, rfl, tables.secondEnabled_bump .admitted ▸ hrest⟩
  unfold visitsOf
  rw [dispatch_of_stage1 h stages.recorded (world, []) hfirst]
  exact hrun

end NeverBridges

/-! ## The same words -/

namespace DispatchTables

/-- The dispatcher reads the words of these maps. -/
def Reads (tables : DispatchTables) (maps : SettingMaps) : Prop :=
  ∀ setting : Setting, tables.get? setting = maps.word? setting.place

variable {tables : DispatchTables} {maps : SettingMaps} (h : tables.Reads maps)
include h

theorem Reads.get?_eq (setting : Setting) : tables.get? setting = some (maps.raw setting) :=
  (h setting).trans (maps.word?_place setting)

theorem Reads.isOn_iff (setting : Setting) :
    tables.get? setting = some 1 ↔ (maps.raw setting == Setting.enabled) = true := by
  rw [h.get?_eq, Option.some_inj, beq_iff_eq]
  rfl

theorem Reads.secondEnabled_eq : tables.secondEnabled = maps.status.stage2Enabled := by
  unfold secondEnabled
  rw [h.get?_eq, maps.status_eq]
  rfl

theorem Reads.stage1_iff : tables.get? .stage1 = some 1 ↔ maps.status.stage1Enabled = true := by
  rw [h.isOn_iff, maps.status_eq]

theorem Reads.bridgesTo_iff (peer : UInt32) :
    tables.BridgesTo peer ↔
      maps.status.bridgeEnabled = true ∧ 0 < maps.status.peer ∧ peer = maps.status.peer := by
  unfold BridgesTo
  rw [h.isOn_iff, h.get?_eq, maps.status_eq, Option.some_inj]
  constructor
  · rintro ⟨hbridge, rfl, hzero⟩
    exact ⟨hbridge, UInt32.pos_iff_ne_zero.mpr hzero, rfl⟩
  · rintro ⟨hbridge, hpositive, rfl⟩
    exact ⟨hbridge, rfl, UInt32.pos_iff_ne_zero.mp hpositive⟩

theorem Reads.sendsTo_iff (interface : UInt32) :
    tables.SendsTo interface ↔ interface = maps.status.output ∧ 0 < maps.status.output := by
  unfold SendsTo
  rw [h.get?_eq, maps.status_eq, Option.some_inj]
  constructor
  · rintro ⟨rfl, hzero⟩
    exact ⟨rfl, UInt32.pos_iff_ne_zero.mpr hzero⟩
  · rintro ⟨rfl, hpositive⟩
    exact ⟨rfl, UInt32.pos_iff_ne_zero.mp hpositive⟩

end DispatchTables

/-! ## What the status tells -/

/-- What became of a packet is as the status says. -/
structure Status.TellsOf (status : Status) (tables : DispatchTables) (visits : List StageVisit)
    (outcome : Outcome DispatchTables τ) : Prop where
  bridge : ∀ interface, outcome.bridgedTo? = some interface ↔
    status.bridgeEnabled = true ∧ 0 < status.peer ∧ interface = status.peer
  counted : outcome.store.counter .bridged =
    if outcome.bridgedTo?.isSome then Counter.increment (tables.counter .bridged)
    else tables.counter .bridged
  first : (∃ visit ∈ visits, visit.stage = 0) ↔
    outcome.bridgedTo? = none ∧ status.stage1Enabled = true
  /-- Stage 2 is called if the first call of stage 1 asks for it and leaves visits to it. -/
  second : (∃ visit ∈ visits, visit.stage = 1) ↔
    ∃ visit ∈ visits.find? (·.stage == 0), visit.disposition = .pass ∧
      visit.left.decision? = some .callNext ∧ status.stage2Enabled = true ∧
      visit.left.stage2Visits < maxVisits
  output : outcome.bridgedTo? = none → ∀ interface, outcome.action = .redirect interface →
    interface = status.output ∧ 0 < status.output

/-- Only what is routed is sent out. -/
theorem Ending.sendsTo_of_settle {ending : Ending} {tables : DispatchTables} {interface : UInt32}
    (h : (ending.settle tables).1 = .redirect interface) : tables.SendsTo interface := by
  cases ending with
  | dropped => cases h
  | passed => cases h
  | routed =>
      unfold settle at h
      obtain ⟨output, houtput, hroute⟩ | ⟨-, hroute⟩ := tables.routeToOutput_cases
      · rw [hroute] at h
        cases h
        exact houtput
      · rw [hroute] at h
        cases h

section Dispatch

variable {tables : DispatchTables} {maps : SettingMaps} (h : tables.Reads maps)
  (stages : Stages τ) (contents : Metadata) (world : τ)
include h

theorem tellsOf_of_bridgesTo {peer : UInt32} (hpeer : tables.BridgesTo peer) :
    maps.status.TellsOf tables (visitsOf stages (some contents) tables world)
      (dispatch stages (some contents) tables world) := by
  have hdue := (h.bridgesTo_iff peer).mp hpeer
  rw [visitsOf_of_bridgesTo hpeer, dispatch_of_bridgesTo hpeer]
  constructor
  case bridge =>
    intro interface
    rw [← h.bridgesTo_iff]
    constructor
    · intro hinterface
      cases hinterface
      exact hpeer
    · intro hinterface
      rw [hinterface.unique hpeer]
      rfl
  case counted =>
    have hcounted : (tables.bump .admitted).counter .bridged = tables.counter .bridged :=
      DispatchTables.counter_bump_of_ne tables (by decide)
    rw [DispatchTables.counter_bump_self, hcounted]
    rfl
  case first => simp [Outcome.bridgedTo?, Outcome.fetched]
  case second => simp
  case output => simp [Outcome.bridgedTo?, Outcome.fetched]

theorem tellsOf_of_neverBridges (hnever : tables.NeverBridges) :
    maps.status.TellsOf tables (visitsOf stages (some contents) tables world)
      (dispatch stages (some contents) tables world) := by
  have hled := dispatch_led hnever stages (some contents) world
  have hnone : (dispatch stages (some contents) tables world).bridgedTo? = none := by
    unfold Outcome.bridgedTo?
    rw [hled.fetched]
  constructor
  case bridge =>
    intro interface
    rw [hnone, ← h.bridgesTo_iff]
    simp [hnever interface]
  case counted =>
    rw [hnone]
    exact hled.counter_bridged
  case first =>
    rw [and_iff_right hnone, ← h.stage1_iff]
    by_cases hfirst : tables.get? .stage1 = some 1
    · obtain ⟨first, rest, hvisits, hstage, -⟩ :=
        visitsOf_of_stage1 hnever stages world hfirst contents
      simp [hvisits, hstage, hfirst]
    · simp [visitsOf_of_turnedAway hnever stages world (.inr hfirst), hfirst]
  case second =>
    by_cases hfirst : tables.get? .stage1 = some 1
    · obtain ⟨first, rest, hvisits, hstage, hrest⟩ :=
        visitsOf_of_stage1 hnever stages world hfirst contents
      rw [StageVisit.leadsOn_iff_of_first hstage, h.secondEnabled_eq] at hrest
      simp [hvisits, hstage, hrest, and_assoc]
    · simp [visitsOf_of_turnedAway hnever stages world (.inr hfirst)]
  case output =>
    intro _ interface hredirect
    rw [← h.sendsTo_iff, ← tables.sendsTo_admit_countVisits]
    have hsettled := congrArg Prod.fst hled.settled
    exact Ending.sendsTo_of_settle (hsettled.symm.trans hredirect)

/-- **The status tells the truth about the packets**, whatever the words are: it shows whether and
where they are bridged, which stages they go through and where they leave. -/
theorem dispatch_obeys_status :
    maps.status.TellsOf tables (visitsOf stages (some contents) tables world)
      (dispatch stages (some contents) tables world) := by
  by_cases hnever : tables.NeverBridges
  · exact tellsOf_of_neverBridges h stages contents world hnever
  · obtain ⟨peer, hpeer⟩ := Classical.not_forall_not.mp hnever
    exact tellsOf_of_bridgesTo h stages contents world hpeer

end Dispatch

/-- A word of the bridge other than 1 is no switch: the packet goes through both stages and out. -/
theorem dispatch_obeys_status_odd_bridge :
    let maps : SettingMaps := ⟨#v[1, 1], #v[9, 7, 3], #v[0]⟩
    let tables : DispatchTables :=
      { DispatchTables.empty with stage1 := 1, stage2 := 1, peer := 9, bridge := 7, output := 3 }
    let stages : Stages Unit := ⟨.passThrough, .default⟩
    let outcome := dispatch stages (some .fresh) tables ()
    tables.Reads maps ∧ outcome.action = .redirect 3 ∧
      maps.status.TellsOf tables (visitsOf stages (some .fresh) tables ()) outcome := by
  intro maps tables stages outcome
  have hreads : tables.Reads maps := by
    intro setting
    cases setting <;> rfl
  exact ⟨hreads, by decide, dispatch_obeys_status hreads stages .fresh ()⟩

end VideoGate
