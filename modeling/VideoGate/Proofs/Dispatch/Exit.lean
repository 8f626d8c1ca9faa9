import Mathlib.Logic.ExistsUnique
import VideoGate.Proofs.Dispatch.Visit

/-!
# How packets leave the dispatcher

Over tables that nobody else writes, a packet leaves the dispatcher in one of four ways, which
the settings and the last visit tell (`Exit.Due`), and each way has its action and its counters
(`Exit.Seen`).  `dispatch_exit` says so for all tables, all stages and every metadata slot.
-/

namespace VideoGate

open DispatchStore

namespace DispatchTables

/-- Every packet goes to this peer: the bridge is on, and the peer is not zero. -/
def BridgesTo (tables : DispatchTables) (peer : UInt32) : Prop :=
  tables.get? .bridge = some 1 ∧ tables.get? .peer = some peer ∧ peer ≠ 0

def NeverBridges (tables : DispatchTables) : Prop := ∀ peer, ¬ tables.BridgesTo peer

theorem BridgesTo.unique {tables : DispatchTables} {a b : UInt32} (ha : tables.BridgesTo a)
    (hb : tables.BridgesTo b) : a = b :=
  Option.some.inj (ha.2.1.symm.trans hb.2.1)

theorem counter_countVisits (tables : DispatchTables) (visits : List StageVisit)
    {counter : DispatchCounter} (hfirst : counter ≠ .stage1) (hsecond : counter ≠ .stage2) :
    (tables.countVisits visits).counter counter = tables.counter counter := by
  induction visits generalizing tables with
  | nil => rfl
  | cons visit visits ih =>
      refine (ih (tables.countVisit visit)).trans ?_
      unfold countVisit
      split
      · exact counter_bump_of_ne tables hfirst
      · exact counter_bump_of_ne tables hsecond

theorem get?_countVisits (tables : DispatchTables) (visits : List StageVisit)
    (setting : Setting) : (tables.countVisits visits).get? setting = tables.get? setting := by
  induction visits generalizing tables with
  | nil => rfl
  | cons visit visits ih =>
      refine (ih (tables.countVisit visit)).trans ?_
      unfold countVisit
      split <;> exact get?_bump ..

theorem isEnabled_of_eq {tables : DispatchTables} {setting : Setting}
    (h : tables.get? setting = some 1) : isEnabled setting tables = (true, tables) :=
  congrArg (·, tables) (beq_iff_eq.mpr h)

theorem isEnabled_of_ne {tables : DispatchTables} {setting : Setting}
    (h : tables.get? setting ≠ some 1) : isEnabled setting tables = (false, tables) :=
  congrArg (·, tables) (beq_false_of_ne h)

theorem bridgePeer?_of_bridgesTo {tables : DispatchTables} {peer : UInt32}
    (h : tables.BridgesTo peer) : bridgePeer? tables = (some peer, tables) := by
  obtain ⟨hbridge, hpeer, hzero⟩ := h
  have hread : read .peer tables = (some peer, tables) := by
    rw [← hpeer]
    rfl
  have hpositive : decide (0 < peer) = true := decide_eq_true (UInt32.pos_iff_ne_zero.mpr hzero)
  have hkept : (some peer).filter (0 < ·) = some peer := Option.filter_some_pos hpositive
  unfold bridgePeer?
  simp only [isEnabled_of_eq hbridge, hread, hkept]

theorem bridgePeer?_of_neverBridges {tables : DispatchTables} (h : tables.NeverBridges) :
    bridgePeer? tables = (none, tables) := by
  unfold bridgePeer?
  by_cases hbridge : tables.get? .bridge = some 1
  · have hread : read .peer tables = (tables.get? .peer, tables) := rfl
    have hnone : (tables.get? .peer).filter (0 < ·) = none := by
      rw [Option.filter_eq_none_iff]
      intro peer hpeer hpositive
      have hzero := UInt32.pos_iff_ne_zero.mp (of_decide_eq_true hpositive)
      exact h peer ⟨hbridge, hpeer, hzero⟩
    simp only [isEnabled_of_eq hbridge, hread, hnone]
  · simp only [isEnabled_of_ne hbridge]

/-- Routed packets go out through this interface. -/
def SendsTo (tables : DispatchTables) (interface : UInt32) : Prop :=
  tables.get? .output = some interface ∧ interface ≠ 0

theorem routeToOutput_of_sendsTo {tables : DispatchTables} {interface : UInt32}
    (h : tables.SendsTo interface) :
    routeToOutput tables = (.redirect interface, tables.bump .outputRedirects) := by
  obtain ⟨houtput, hzero⟩ := h
  have hread : read .output tables = (some interface, tables) := by
    rw [← houtput]
    rfl
  unfold routeToOutput
  simp only [hread]
  rw [if_pos (UInt32.pos_iff_ne_zero.mpr hzero)]
  rfl

theorem routeToOutput_of_no_output {tables : DispatchTables}
    (h : ∀ interface, ¬ tables.SendsTo interface) : routeToOutput tables = (.pass, tables) := by
  have hread : read .output tables = (tables.get? .output, tables) := rfl
  unfold routeToOutput
  rw [hread]
  cases houtput : tables.get? .output with
  | none => rfl
  | some interface =>
      refine if_neg fun hpositive => ?_
      exact h interface ⟨houtput, UInt32.pos_iff_ne_zero.mp hpositive⟩

/-- The output interface takes the packet, or there is none and it passes. -/
theorem routeToOutput_cases (tables : DispatchTables) :
    (∃ interface, tables.SendsTo interface ∧
      routeToOutput tables = (.redirect interface, tables.bump .outputRedirects)) ∨
    (∀ interface, ¬ tables.SendsTo interface) ∧ routeToOutput tables = (.pass, tables) := by
  by_cases hout : ∃ interface, tables.SendsTo interface
  · obtain ⟨interface, hinterface⟩ := hout
    exact .inl ⟨interface, hinterface, routeToOutput_of_sendsTo hinterface⟩
  · have hnone := not_exists.mp hout
    exact .inr ⟨hnone, routeToOutput_of_no_output hnone⟩

/-- Settling a walk counts nothing but what leaves through the output interface. -/
theorem counter_settle (ending : Ending) (tables : DispatchTables) {counter : DispatchCounter}
    (h : counter ≠ .outputRedirects) :
    (ending.settle tables).2.counter counter = tables.counter counter := by
  cases ending with
  | dropped => rfl
  | passed => rfl
  | routed =>
      unfold Ending.settle
      obtain ⟨interface, -, hroute⟩ | ⟨-, hroute⟩ := tables.routeToOutput_cases
      · rw [hroute]
        exact counter_bump_of_ne tables h
      · rw [hroute]

/-- Visits leave the count of what leaves through the output interface. -/
theorem counter_output_countVisits (tables : DispatchTables) (visits : List StageVisit) :
    ((tables.bump .admitted).countVisits visits).counter .outputRedirects =
      tables.counter .outputRedirects :=
  (counter_countVisits _ visits (by decide) (by decide)).trans
    (counter_bump_of_ne tables (by decide))

theorem sendsTo_admit_countVisits (tables : DispatchTables) (visits : List StageVisit)
    (interface : UInt32) :
    ((tables.bump .admitted).countVisits visits).SendsTo interface ↔
      tables.SendsTo interface := by
  unfold SendsTo
  rw [get?_countVisits, get?_bump]

end DispatchTables

section Dispatch

variable {τ : Type} {tables : DispatchTables}

theorem dispatch_of_bridgesTo {peer : UInt32} (h : tables.BridgesTo peer) (stages : Stages τ)
    (slot : Option Metadata) (world : τ) :
    dispatch stages slot tables world =
      { action := .redirect peer, place := { contents := slot },
        store := (tables.bump .admitted).bump .bridged, world } := by
  have hpeer : bridgePeer? (bump .admitted tables) = (some peer, tables.bump .admitted) :=
    DispatchTables.bridgePeer?_of_bridgesTo
      (by simpa [DispatchTables.BridgesTo] using h : (tables.bump .admitted).BridgesTo peer)
  unfold dispatch
  simp only [hpeer]
  rfl

theorem visitsOf_of_bridgesTo {peer : UInt32} (h : tables.BridgesTo peer) (stages : Stages τ)
    (slot : Option Metadata) (world : τ) : visitsOf stages slot tables world = [] := by
  unfold visitsOf
  rw [dispatch_of_bridgesTo h]

section NeverBridges

variable (h : tables.NeverBridges) (stages : Stages τ) (world : τ)
include h

theorem bridgePeer?_admit_of_neverBridges :
    bridgePeer? (bump .admitted tables) = (none, tables.bump .admitted) :=
  DispatchTables.bridgePeer?_of_neverBridges
    (by simpa [DispatchTables.NeverBridges, DispatchTables.BridgesTo] using h :
      (tables.bump .admitted).NeverBridges)

/-- Without a metadata slot or without stage 1 the packet passes at once. -/
theorem dispatch_of_turnedAway {slot : Option Metadata}
    (hslot : slot = none ∨ tables.get? .stage1 ≠ some 1) :
    dispatch stages slot tables world =
      { action := .pass, place := { contents := slot.map fun _ => .fresh, isFetched := true },
        store := tables.bump .admitted, world } := by
  have hpeer := bridgePeer?_admit_of_neverBridges h
  unfold dispatch
  simp only [hpeer]
  cases slot with
  | none => rfl
  | some contents =>
      have hread := tables.get?_bump .admitted .stage1
      have hfirst := hslot.resolve_left (Option.some_ne_none contents)
      simp only [DispatchTables.isEnabled_of_ne (mt hread.symm.trans hfirst)]
      rfl

/-- Otherwise it sets out with fresh metadata. -/
theorem dispatch_of_stage1 (hfirst : tables.get? .stage1 = some 1) (contents : Metadata) :
    dispatch stages (some contents) tables world =
      let result := Walk.run stages maxHops ⟨.fresh, tables.bump .admitted, world⟩
      { action := result.1, place := { contents := some result.2.metadata, isFetched := true },
        store := result.2.store, world := result.2.world } := by
  have hpeer := bridgePeer?_admit_of_neverBridges h
  have hread := tables.get?_bump .admitted .stage1
  unfold dispatch
  simp only [hpeer, MetadataSlot.fetch, Metadata.reset_eq, MetadataSlot.put,
    DispatchTables.isEnabled_of_eq (hread.trans hfirst)]

end NeverBridges

/-- A packet that is not bridged: its visits, if any, are a path from stage 1, and their end
settles what becomes of it. -/
structure Led (slot : Option Metadata) (tables : DispatchTables) (visits : List StageVisit)
    (outcome : Outcome DispatchTables τ) : Prop where
  fetched : outcome.fetched = true
  settled : (outcome.action, outcome.store) =
    (endingOf visits).settle ((tables.bump .admitted).countVisits visits)
  path : visits = [] ∧ outcome.slot = slot.map (fun _ => .fresh) ∨
    tables.get? .stage1 = some 1 ∧ ∃ final, outcome.slot = some final ∧
      Path tables.secondEnabled 0 maxHops .fresh visits final

namespace Led

variable {slot : Option Metadata} {visits : List StageVisit} {outcome : Outcome DispatchTables τ}

/-- The counters that neither the visits nor the exit move. -/
theorem counter_settled (h : Led slot tables visits outcome) {counter : DispatchCounter}
    (hfirst : counter ≠ .stage1) (hsecond : counter ≠ .stage2)
    (houtput : counter ≠ .outputRedirects) :
    outcome.store.counter counter = (tables.bump .admitted).counter counter := by
  have hstore : outcome.store = ((endingOf visits).settle _).2 := congrArg Prod.snd h.settled
  rw [hstore, DispatchTables.counter_settle _ _ houtput,
    DispatchTables.counter_countVisits _ visits hfirst hsecond]

theorem counter_admitted (h : Led slot tables visits outcome) :
    outcome.store.counter .admitted = Counter.increment (tables.counter .admitted) := by
  rw [h.counter_settled (by decide) (by decide) (by decide), DispatchTables.counter_bump_self]

theorem counter_bridged (h : Led slot tables visits outcome) :
    outcome.store.counter .bridged = tables.counter .bridged :=
  (h.counter_settled (by decide) (by decide) (by decide)).trans
    (DispatchTables.counter_bump_of_ne tables (by decide))

end Led

theorem dispatch_recorded_led (h : tables.NeverBridges) (stages : Stages τ)
    (slot : Option Metadata) (world : τ) :
    Led slot tables (visitsOf stages slot tables world)
      (dispatch stages.recorded slot tables (world, [])) := by
  unfold visitsOf
  by_cases haway : slot = none ∨ tables.get? .stage1 ≠ some 1
  · rw [dispatch_of_turnedAway h stages.recorded (world, []) haway]
    exact ⟨rfl, rfl, .inl ⟨rfl, rfl⟩⟩
  · obtain ⟨hslot, hfirst⟩ := not_or.mp haway
    obtain ⟨contents, rfl⟩ := Option.ne_none_iff_exists'.mp hslot
    have hfirst := Classical.not_not.mp hfirst
    obtain ⟨visits, final, world', hpath, hrun⟩ :=
      Walk.run_follows stages
        { metadata := .fresh, store := tables.bump .admitted, world := (world, []) } maxHops
    rw [dispatch_of_stage1 h stages.recorded (world, []) hfirst, hrun]
    rw [tables.secondEnabled_bump] at hpath
    exact ⟨rfl, rfl, .inr ⟨hfirst, final, rfl, hpath⟩⟩

/-- **A packet that is not bridged is led through the stages**, and what becomes of it is settled
by its visits. -/
theorem dispatch_led (h : tables.NeverBridges) (stages : Stages τ) (slot : Option Metadata)
    (world : τ) :
    Led slot tables (visitsOf stages slot tables world) (dispatch stages slot tables world) := by
  obtain ⟨hfetched, hsettled, hpath⟩ := dispatch_recorded_led h stages slot world
  have hplain := dispatch_recorded stages slot tables world
  rw [hplain.fetched] at hfetched
  rw [hplain.action, hplain.store] at hsettled
  rw [hplain.slot] at hpath
  exact ⟨hfetched, hsettled, hpath⟩

end Dispatch

/-! ## Bridged packets -/

/-- The interface that the bridge has sent the packet to, before any metadata slot was asked
for. -/
def Outcome.bridgedTo? {δ τ : Type} (outcome : Outcome δ τ) : Option UInt32 :=
  match outcome.fetched, outcome.action with
  | false, .redirect interface => some interface
  | _, _ => none

/-- A packet is bridged exactly if its two reads say so. -/
theorem bridgedTo?_dispatch {δ τ : Type} [DispatchStore δ] (stages : Stages τ)
    (slot : Option Metadata) (store : δ) (world : τ) :
    (dispatch stages slot store world).bridgedTo? = (bridgePeer? (bump .admitted store)).1 := by
  unfold dispatch
  cases hpeer : bridgePeer? (bump .admitted store) with
  | mk peer? after =>
      cases peer? with
      | some peer =>
          simp only [hpeer]
          rfl
      | none =>
          cases slot with
          | none =>
              simp only [hpeer]
              rfl
          | some contents =>
              simp only [hpeer]
              rcases isEnabled .stage1 after with ⟨_ | _, after⟩ <;> rfl

/-! ## The four exits -/

/-- How a packet leaves the dispatcher. -/
inductive Exit where
  | bridged (peer : UInt32)
  | dropped
  | routed
  | passed
deriving DecidableEq, Repr

def Ending.exit : Ending → Exit
  | dropped => .dropped
  | routed => .routed
  | passed => .passed

namespace Exit

/-- The settings and the last visit, if there is one, call for this exit. -/
def Due (tables : DispatchTables) (last? : Option StageVisit) : Exit → Prop
  | bridged peer => tables.BridgesTo peer
  | dropped => tables.NeverBridges ∧ ∃ visit ∈ last?, visit.drops = true
  | routed =>
    tables.NeverBridges ∧ ∃ visit ∈ last?, visit.drops = false ∧ visit.callsOn = false
  | passed =>
    tables.NeverBridges ∧ ∀ visit ∈ last?, visit.drops = false ∧ visit.callsOn = true

/-- What this exit makes of the packet, and what it counts.  Routed packets pass if no output
interface is set. -/
def Seen {τ : Type} (slot : Option Metadata) (tables : DispatchTables) (visits : List StageVisit)
    (outcome : Outcome DispatchTables τ) : Exit → Prop
  | bridged peer =>
    outcome.fetched = false ∧ outcome.slot = slot ∧ visits = [] ∧
    outcome.action = .redirect peer ∧
    outcome.store.counter .bridged = Counter.increment (tables.counter .bridged) ∧
    outcome.store.counter .outputRedirects = tables.counter .outputRedirects
  | dropped =>
    outcome.fetched = true ∧
    outcome.store.counter .bridged = tables.counter .bridged ∧
    outcome.action = .drop ∧
    outcome.store.counter .outputRedirects = tables.counter .outputRedirects
  | routed =>
    outcome.fetched = true ∧
    outcome.store.counter .bridged = tables.counter .bridged ∧
    (∀ interface, tables.SendsTo interface →
      outcome.action = .redirect interface ∧
      outcome.store.counter .outputRedirects =
        Counter.increment (tables.counter .outputRedirects)) ∧
    ((∀ interface, ¬ tables.SendsTo interface) →
      outcome.action = .pass ∧
      outcome.store.counter .outputRedirects = tables.counter .outputRedirects)
  | passed =>
    outcome.fetched = true ∧
    outcome.store.counter .bridged = tables.counter .bridged ∧
    outcome.action = .pass ∧
    outcome.store.counter .outputRedirects = tables.counter .outputRedirects

variable {tables : DispatchTables} {visits : List StageVisit}

/-- The last visit calls for the exit that belongs to the end of the walk. -/
theorem due_exit_iff (h : tables.NeverBridges) (ending : Ending) :
    ending.exit.Due tables visits.getLast? ↔ endingOf visits = ending := by
  unfold endingOf
  cases visits.getLast? with
  | none => cases ending <;> simp [Ending.exit, Due, h]
  | some visit =>
      cases ending with
      | dropped => simp [Ending.exit, Due, h, visit.ending_eq_dropped_iff]
      | routed => simp [Ending.exit, Due, h, visit.ending_eq_routed_iff]
      | passed => simp [Ending.exit, Due, h, visit.ending_eq_passed_iff]

/-- The settings and the last visit call for exactly one exit. -/
theorem existsUnique_due (tables : DispatchTables) (visits : List StageVisit) :
    ∃! exit : Exit, exit.Due tables visits.getLast? := by
  by_cases hbridge : tables.NeverBridges
  · refine ⟨(endingOf visits).exit, (due_exit_iff hbridge _).mpr rfl, ?_⟩
    intro exit hdue
    cases exit with
    | bridged peer => exact absurd hdue (hbridge peer)
    | dropped => rw [(due_exit_iff hbridge .dropped).mp hdue]; rfl
    | routed => rw [(due_exit_iff hbridge .routed).mp hdue]; rfl
    | passed => rw [(due_exit_iff hbridge .passed).mp hdue]; rfl
  · obtain ⟨peer, hpeer⟩ := Classical.not_forall_not.mp hbridge
    refine ⟨.bridged peer, hpeer, ?_⟩
    intro exit hdue
    cases exit with
    | bridged other => rw [DispatchTables.BridgesTo.unique hdue hpeer]
    | dropped => exact absurd hdue.1 hbridge
    | routed => exact absurd hdue.1 hbridge
    | passed => exact absurd hdue.1 hbridge

variable {τ : Type} {slot : Option Metadata} {outcome : Outcome DispatchTables τ}

theorem seen_of_led (h : Led slot tables visits outcome) :
    (endingOf visits).exit.Seen slot tables visits outcome := by
  have hbridged := h.counter_bridged
  obtain ⟨hfetched, hsettled, -⟩ := h
  have houtput := tables.counter_output_countVisits visits
  have hsends := tables.sendsTo_admit_countVisits visits
  generalize (tables.bump .admitted).countVisits visits = counted at hsettled houtput hsends
  generalize endingOf visits = ending at hsettled ⊢
  cases ending with
  | dropped =>
      obtain ⟨haction, hstore⟩ := Prod.mk.inj hsettled
      exact ⟨hfetched, hbridged, haction, hstore ▸ houtput⟩
  | passed =>
      obtain ⟨haction, hstore⟩ := Prod.mk.inj hsettled
      exact ⟨hfetched, hbridged, haction, hstore ▸ houtput⟩
  | routed =>
      unfold Ending.settle at hsettled
      refine ⟨hfetched, hbridged, fun interface hinterface => ?_, fun hnone => ?_⟩
      · rw [DispatchTables.routeToOutput_of_sendsTo ((hsends interface).mpr hinterface)] at hsettled
        obtain ⟨haction, hstore⟩ := Prod.mk.inj hsettled
        rw [haction, hstore, DispatchTables.counter_bump_self, houtput]
        exact ⟨rfl, rfl⟩
      · rw [DispatchTables.routeToOutput_of_no_output
          fun interface => mt (hsends interface).mp (hnone interface)] at hsettled
        obtain ⟨haction, hstore⟩ := Prod.mk.inj hsettled
        exact ⟨haction, hstore ▸ houtput⟩

theorem seen_of_bridgesTo {peer : UInt32} (h : tables.BridgesTo peer) (stages : Stages τ)
    (slot : Option Metadata) (world : τ) :
    (bridged peer).Seen slot tables (visitsOf stages slot tables world)
      (dispatch stages slot tables world) := by
  have hbridged : (tables.bump .admitted).counter .bridged = tables.counter .bridged :=
    DispatchTables.counter_bump_of_ne tables (by decide)
  have houtput : ((tables.bump .admitted).bump .bridged).counter .outputRedirects =
      (tables.bump .admitted).counter .outputRedirects :=
    DispatchTables.counter_bump_of_ne _ (by decide)
  rw [visitsOf_of_bridgesTo h, dispatch_of_bridgesTo h]
  refine ⟨rfl, rfl, rfl, rfl, ?_, houtput.trans ?_⟩
  · rw [DispatchTables.counter_bump_self, hbridged]
  · exact DispatchTables.counter_bump_of_ne tables (by decide)

/-- Only a packet whose exit is `dropped` gets the action drop. -/
theorem eq_dropped_of_action {exit : Exit} (h : exit.Seen slot tables visits outcome)
    (hdrop : outcome.action = .drop) : exit = dropped := by
  cases exit with
  | bridged peer => cases hdrop.symm.trans h.2.2.2.1
  | dropped => rfl
  | routed =>
      by_cases hout : ∃ interface, tables.SendsTo interface
      · obtain ⟨interface, hinterface⟩ := hout
        cases hdrop.symm.trans (h.2.2.1 interface hinterface).1
      · cases hdrop.symm.trans (h.2.2.2 (not_exists.mp hout)).1
  | passed => cases hdrop.symm.trans h.2.2.1

end Exit

/-- **How a packet leaves the dispatcher**: it is admitted, exactly one exit is called for, and
that exit is taken. -/
theorem dispatch_exit {τ : Type} (stages : Stages τ) (slot : Option Metadata)
    (tables : DispatchTables) (world : τ) :
    let visits := visitsOf stages slot tables world
    let outcome := dispatch stages slot tables world
    outcome.store.counter .admitted = Counter.increment (tables.counter .admitted) ∧
    (∃! exit : Exit, exit.Due tables visits.getLast?) ∧
    (∀ exit : Exit, exit.Due tables visits.getLast? → exit.Seen slot tables visits outcome) ∧
    (outcome.action = .drop ↔ Exit.dropped.Due tables visits.getLast?) := by
  intro visits outcome
  have hunique := Exit.existsUnique_due tables visits
  have hseen : ∀ exit : Exit, exit.Due tables visits.getLast? →
      exit.Seen slot tables visits outcome := by
    intro exit hdue
    by_cases hbridge : tables.NeverBridges
    · have hled := (Exit.due_exit_iff hbridge (endingOf visits)).mpr rfl
      rw [hunique.unique hdue hled]
      exact Exit.seen_of_led (dispatch_led hbridge stages slot world)
    · obtain ⟨peer, hpeer⟩ := Classical.not_forall_not.mp hbridge
      have hexit : exit = .bridged peer := hunique.unique hdue hpeer
      rw [hexit]
      exact Exit.seen_of_bridgesTo hpeer stages slot world
  refine ⟨?_, hunique, hseen, ?_⟩
  · by_cases hbridge : tables.NeverBridges
    · exact (dispatch_led hbridge stages slot world).counter_admitted
    · obtain ⟨peer, hpeer⟩ := Classical.not_forall_not.mp hbridge
      have hstore : outcome.store = (tables.bump .admitted).bump .bridged :=
        congrArg Outcome.store (dispatch_of_bridgesTo hpeer stages slot world)
      have hkept : ((tables.bump .admitted).bump .bridged).counter .admitted =
          (tables.bump .admitted).counter .admitted :=
        DispatchTables.counter_bump_of_ne _ (by decide)
      rw [hstore, hkept, DispatchTables.counter_bump_self]
  · constructor
    · intro hdrop
      obtain ⟨exit, hdue, -⟩ := hunique
      rw [← Exit.eq_dropped_of_action (hseen exit hdue) hdrop]
      exact hdue
    · intro hdue
      exact (hseen .dropped hdue).2.2.1

end VideoGate
