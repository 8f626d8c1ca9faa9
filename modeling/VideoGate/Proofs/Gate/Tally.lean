import VideoGate.Proofs.Gate.Passage
import VideoGate.Proofs.Video.Accounts
import VideoGate.Proofs.Video.Simulation

/-!
# What a packet counts

What the counters hold has no bearing on what becomes of a packet.  What is counted for it can so
be read off a gate whose counters are all at zero (`Arrival.tally`), and every other gate counts
the same on top of what it holds, up to the largest word (`Arrival.toNat_count_after`).
-/

namespace VideoGate

open DispatchStore VideoStore VideoFilter

inductive GateCounter where
  | dispatched (counter : DispatchCounter)
  | filtered (stat : VideoStat)
deriving DecidableEq, Repr

/-- The tables with all counters back at zero. -/
def DispatchTables.uncounted (tables : DispatchTables) : DispatchTables :=
  { tables with counters := Vector.replicate _ 0 }

namespace Gate

def count (gate : Gate) : GateCounter → UInt64
  | .dispatched counter => gate.dispatcher.counter counter
  | .filtered stat => gate.video.stat stat

def uncounted (gate : Gate) : Gate := ⟨gate.dispatcher.uncounted, gate.video.uncounted⟩

end Gate

/-! ## Counting from different starts -/

/-- One counter is ahead of the other by the start, as far as a counter goes. -/
def Counter.Ahead (start a b : UInt64) : Prop :=
  a.toNat = min (start.toNat + b.toNat) (UInt64.size - 1)

theorem Counter.Ahead.increment {start a b : UInt64} (h : Ahead start a b) :
    Ahead start (increment a) (increment b) := by
  unfold Ahead at h ⊢
  rw [toNat_increment, toNat_increment, h]
  omega

theorem Counter.ahead_zero (start : UInt64) : Ahead start start 0 := toNat_eq_min start

namespace DispatchTables

/-- The tables differ in the counters only, and there by the start. -/
structure Ahead (start a b : DispatchTables) : Prop where
  rest : a.uncounted = b.uncounted
  counters : ∀ counter,
    Counter.Ahead (start.counter counter) (a.counter counter) (b.counter counter)

theorem counter_bump (tables : DispatchTables) (counter other : DispatchCounter) :
    (tables.bump counter).counter other =
      if other = counter then Counter.increment (tables.counter other)
      else tables.counter other := by
  by_cases hother : other = counter
  · subst hother
    rw [if_pos rfl, counter_bump_self]
  · rw [if_neg hother, counter_bump_of_ne tables hother]

theorem counter_uncounted (tables : DispatchTables) (counter : DispatchCounter) :
    tables.uncounted.counter counter = 0 := by
  cases counter <;> rfl

theorem ahead_uncounted (tables : DispatchTables) : Ahead tables tables tables.uncounted where
  rest := rfl
  counters counter := by
    rw [counter_uncounted]
    exact Counter.ahead_zero _

theorem storesAlike_ahead (start : DispatchTables) : StoresAlike (Ahead start) where
  bump counter {a b} h := by
    refine ⟨h.rest, ?_⟩
    intro other
    show Counter.Ahead _ ((a.bump counter).counter other) ((b.bump counter).counter other)
    rw [counter_bump, counter_bump]
    split
    · exact (h.counters other).increment
    · exact h.counters other
  read setting {a b} h := ⟨congrArg (·.get? setting) h.rest, h⟩

end DispatchTables

namespace VideoTables

/-- The tables differ in the counters only, and there by the start. -/
structure Ahead (start a b : VideoTables) : Prop where
  rest : a.uncounted = b.uncounted
  counters : ∀ stat, Counter.Ahead (start.stat stat) (a.stat stat) (b.stat stat)

theorem stat_uncounted (tables : VideoTables) (stat : VideoStat) :
    tables.uncounted.stat stat = 0 := by
  cases stat <;> rfl

theorem ahead_uncounted (tables : VideoTables) : Ahead tables tables tables.uncounted where
  rest := rfl
  counters stat := by
    rw [stat_uncounted]
    exact Counter.ahead_zero _

theorem storesAlike_ahead (start : VideoTables) : VideoStoresAlike (Ahead start) where
  count stat {a b} h := by
    refine ⟨h.rest, ?_⟩
    intro other
    show Counter.Ahead _ ((a.count stat).stat other) ((b.count stat).stat other)
    rw [stat_count, stat_count]
    split
    · exact (h.counters other).increment
    · exact h.counters other
  cameraMode camera {a b} h := congrArg (·.cameraRaw? camera) h.rest
  setCameraMode camera mode {a b} h :=
    ⟨congrArg (·.setCameraRaw camera mode.toRaw) h.rest, h.counters⟩
  globalMode {a b} h := congrArg (·.globalRaw?) h.rest
  pFrameInProgress {a b} h := congrArg (·.pFrame) h.rest
  setPFrameInProgress inProgress {a b} h :=
    ⟨congrArg (VideoStore.setPFrameInProgress inProgress) h.rest, h.counters⟩
  recordPosition position {a b} h :=
    ⟨congrArg (VideoStore.recordPosition position) h.rest, h.counters⟩

end VideoTables

/-! ## The tally -/

theorem StagesAlike.watched {τ τ' : Type} {worlds : τ → τ' → Prop} {a : Stage τ} {b : Stage τ'}
    (h : StagesAlike worlds a b) (number : Fin 2) :
    StagesAlike (fun x y => worlds x.1 y.1 ∧ x.2 = y.2) (a.watched number) (b.watched number) := by
  rintro metadata ⟨world, calls⟩ ⟨world', _⟩ ⟨hworld, rfl⟩
  obtain ⟨hdisposition, hmetadata, hworld⟩ := h metadata hworld
  exact ⟨hdisposition, hmetadata, hworld, rfl⟩

namespace Arrival

variable (arrival : Arrival)

/-- The same packet at a gate that has counted nothing yet. -/
def uncounted : Arrival := { arrival with gate := arrival.gate.uncounted }

/-- How often the packet is counted, by counter. -/
def tally (counter : GateCounter) : Nat := (arrival.uncounted.after.count counter).toNat

/-- **What was counted before does not matter** to a packet, and stays counted. -/
theorem uncounted_alike :
    arrival.calls = arrival.uncounted.calls ∧ arrival.action = arrival.uncounted.action ∧
      arrival.gate.dispatcher.Ahead arrival.after.dispatcher arrival.uncounted.after.dispatcher ∧
      arrival.gate.video.Ahead arrival.after.video arrival.uncounted.after.video := by
  -- No answer of the tables depends on a counter, so one run stays ahead of the other all along.
  have hdispatcher := DispatchTables.storesAlike_ahead arrival.gate.dispatcher
  have hvideo := VideoTables.storesAlike_ahead arrival.gate.video
  have hfirst : StagesAlike arrival.gate.video.Ahead Stage.passThrough Stage.passThrough :=
    fun _ _ _ hworld => ⟨rfl, rfl, hworld⟩
  have hsecond : StagesAlike arrival.gate.video.Ahead (Stage.video arrival.frame)
      (Stage.video arrival.frame) := by
    intro metadata world world' hworld
    obtain ⟨hverdict, hrest⟩ := process_alike hvideo
      (rfl : Traffic.classify arrival.frame = Traffic.classify arrival.frame) hworld
    exact ⟨hverdict, rfl, hrest⟩
  have halike : arrival.watched.Alike arrival.gate.dispatcher.Ahead
      (fun x y => arrival.gate.video.Ahead x.1 y.1 ∧ x.2 = y.2) arrival.uncounted.watched :=
    dispatch_alike hdispatcher (hfirst.watched 0) (hsecond.watched 1) arrival.slot
      arrival.gate.dispatcher.ahead_uncounted ⟨arrival.gate.video.ahead_uncounted, rfl⟩
  rw [action_eq_watched, action_eq_watched, after_eq_watched, after_eq_watched]
  exact ⟨halike.world.2, halike.action, halike.store, halike.world.1⟩

/-- **What a gate has counted after a packet**: what it had, and the tally of the packet. -/
theorem toNat_count_after (counter : GateCounter) :
    (arrival.after.count counter).toNat =
      min ((arrival.gate.count counter).toNat + arrival.tally counter) (UInt64.size - 1) := by
  obtain ⟨-, -, hdispatcher, hvideo⟩ := arrival.uncounted_alike
  cases counter with
  | dispatched counter => exact hdispatcher.counters counter
  | filtered stat => exact hvideo.counters stat

end Arrival

/-! ## The balance -/

/-- The balance of the counts over some packets: some of them entered stage 2, some were dropped,
and some were sent out. -/
structure Balance (counts : GateCounter → Nat) (packets entered drops redirects : Nat) : Prop where
  admitted : counts (.dispatched .admitted) = packets
  stage2 : counts (.dispatched .stage2) = entered
  stageEntries : counts (.filtered .stageEntries) = entered
  totalPackets : counts (.filtered .totalPackets) = entered
  stages : counts (.dispatched .stage2) ≤ counts (.dispatched .stage1)
  ways : counts (.dispatched .stage1) + counts (.dispatched .bridged) ≤
    counts (.dispatched .admitted)
  dropped : counts (.filtered .dropped) = drops
  decided : counts (.filtered .dropped) + counts (.filtered .forwarded) ≤ entered
  redirected : counts (.dispatched .bridged) + counts (.dispatched .outputRedirects) = redirects
  atMost : ∀ counter, counts counter ≤ packets

namespace Balance

variable {a b : GateCounter → Nat} {packets entered drops redirects packets' entered' drops'
  redirects' : Nat}

theorem zero : Balance (fun _ => 0) 0 0 0 0 := by
  constructor <;> simp

theorem add (ha : Balance a packets entered drops redirects)
    (hb : Balance b packets' entered' drops' redirects') :
    Balance (fun counter => a counter + b counter) (packets + packets') (entered + entered')
      (drops + drops') (redirects + redirects') := by
  obtain ⟨_, _, _, _, _, _, _, _, _, hatMost⟩ := ha
  obtain ⟨_, _, _, _, _, _, _, _, _, hatMost'⟩ := hb
  constructor
  case atMost => exact fun counter => Nat.add_le_add (hatMost counter) (hatMost' counter)
  all_goals omega

end Balance

theorem process_accounts_of_zero (frame : Frame) {tables : VideoTables}
    (hzero : ∀ stat, tables.stat stat = 0) :
    ∃ cutAtUdp cutAtRtp, Accounts (fun stat => ((process frame tables).2.stat stat).toNat) 1
      (if (process frame tables).1 = .drop then 1 else 0) cutAtUdp cutAtRtp := by
  obtain ⟨entries, hcounted, haccounts⟩ := process_accounts frame tables
  rw [List.count_singleton, List.length_singleton] at haccounts
  simp only [beq_iff_eq] at haccounts
  exact ⟨_, _, haccounts.of_countedAs hcounted hzero (by decide)⟩

namespace DispatchTables

/-- Settling a walk counts a redirect if it makes one, and nothing else. -/
theorem counter_settle_of_zero (ending : Ending) {tables : DispatchTables}
    (hzero : tables.counter .outputRedirects = 0) (counter : DispatchCounter) :
    ((ending.settle tables).2.counter counter).toNat = (tables.counter counter).toNat +
      if counter = .outputRedirects ∧ (ending.settle tables).1.isRedirect then 1 else 0 := by
  by_cases hcounter : counter = .outputRedirects
  · subst hcounter
    cases ending with
    | dropped => rfl
    | passed => rfl
    | routed =>
        unfold Ending.settle
        obtain ⟨interface, -, hroute⟩ | ⟨-, hroute⟩ := tables.routeToOutput_cases
        · rw [hroute, counter_bump_self, hzero]
          rfl
        · rw [hroute]
          rfl
  · rw [counter_settle ending tables hcounter, if_neg fun h => hcounter h.1, Nat.add_zero]

theorem settle_eq_drop_iff (ending : Ending) (tables : DispatchTables) :
    (ending.settle tables).1 = .drop ↔ ending = .dropped := by
  cases ending with
  | dropped => exact iff_of_true rfl rfl
  | passed => exact iff_of_false nofun nofun
  | routed =>
      refine iff_of_false ?_ nofun
      unfold Ending.settle
      obtain ⟨interface, -, hroute⟩ | ⟨-, hroute⟩ := tables.routeToOutput_cases
      · rw [hroute]
        exact nofun
      · rw [hroute]
        exact nofun

end DispatchTables

section

variable {gate : Gate} (hzero : ∀ counter, gate.count counter = 0)
include hzero

theorem Gate.counter_countedThrough (counter : DispatchCounter) :
    (gate.countedThrough.counter counter).toNat =
      if counter = .bridged ∨ counter = .outputRedirects then 0 else 1 := by
  have hdispatcher : ∀ counter, gate.dispatcher.counter counter = 0 :=
    fun counter => hzero (.dispatched counter)
  unfold countedThrough
  cases counter <;> simp only [DispatchTables.counter_bump, hdispatcher] <;> decide

/-- A packet that the filter decides about is counted by both, each in its own tables. -/
theorem balance_of_filtered (frame : Frame) :
    let settled := (process frame gate.video).1.ending.settle gate.countedThrough
    Balance (fun counter => (Gate.count ⟨settled.2, (process frame gate.video).2⟩ counter).toNat)
      1 1 (if settled.1 = .drop then 1 else 0) (if settled.1.isRedirect then 1 else 0) := by
  intro settled
  obtain ⟨cutAtUdp, cutAtRtp, haccounts⟩ :=
    process_accounts_of_zero frame fun stat => hzero (.filtered stat)
  have htotal := haccounts.total
  have hpackets := haccounts.totalPackets
  have hdrop : settled.1 = .drop ↔ (process frame gate.video).1 = .drop := by
    rw [DispatchTables.settle_eq_drop_iff]
    cases (process frame gate.video).1 <;> simp [Disposition.ending]
  have houtput : gate.countedThrough.counter .outputRedirects = 0 :=
    UInt64.toNat_inj.mp (Gate.counter_countedThrough hzero .outputRedirects)
  have hcounter : ∀ counter, (settled.2.counter counter).toNat =
      (if counter = .bridged ∨ counter = .outputRedirects then 0 else 1) +
        if counter = .outputRedirects ∧ settled.1.isRedirect then 1 else 0 := by
    intro counter
    rw [← Gate.counter_countedThrough hzero counter]
    exact DispatchTables.counter_settle_of_zero _ houtput counter
  constructor
  case atMost =>
    rintro (counter | stat)
    · show (settled.2.counter counter).toNat ≤ 1
      rw [hcounter]
      by_cases hout : counter = .outputRedirects
      · rw [if_pos (.inr hout)]
        split <;> omega
      · have hnone : ¬ (counter = .outputRedirects ∧ settled.1.isRedirect = true) :=
          fun h => hout h.1
        rw [if_neg hnone]
        split <;> omega
    · exact haccounts.le_arrivals stat
  case stageEntries => exact haccounts.stageEntries
  case totalPackets => exact haccounts.totalPackets
  case dropped => simp only [hdrop]; exact haccounts.dropped
  case decided => simp only [Gate.count]; omega
  all_goals simp [Gate.count, hcounter]

/-- **Every way through a gate balances**, from a gate that has counted nothing. -/
theorem Passage.balance {slot : Option Metadata} {frame : Frame} {after : Gate}
    {calls : List StageCall} {action : Action} (h : Passage slot frame gate calls action after) :
    Balance (fun counter => (after.count counter).toNat) 1
      (if ∃ call ∈ calls, call.stage = 1 then 1 else 0) (if action = .drop then 1 else 0)
      (if action.isRedirect then 1 else 0) := by
  have hdispatcher : ∀ counter, gate.dispatcher.counter counter = 0 :=
    fun counter => hzero (.dispatched counter)
  have hvideo : ∀ stat, gate.video.stat stat = 0 := fun stat => hzero (.filtered stat)
  have hone : Counter.increment 0 = 1 := rfl
  cases h
  case filtered => exact balance_of_filtered hzero frame
  -- On the other ways the filter counts nothing, and the dispatcher what is written there.
  all_goals
    constructor
    case atMost =>
      rintro (counter | stat)
      · cases counter <;> simp [Gate.count, DispatchTables.counter_bump, hdispatcher, hone]
      · simp [Gate.count, hvideo]
    all_goals
      simp [Gate.count, DispatchTables.counter_bump, hdispatcher, hvideo, hone, Action.isRedirect]

end

theorem Gate.count_uncounted (gate : Gate) (counter : GateCounter) :
    gate.uncounted.count counter = 0 := by
  cases counter with
  | dispatched counter => exact gate.dispatcher.counter_uncounted counter
  | filtered stat => exact gate.video.stat_uncounted stat

theorem Arrival.balance (arrival : Arrival) :
    Balance arrival.tally 1 (if arrival.Enters 1 then 1 else 0)
      (if arrival.action = .drop then 1 else 0) (if arrival.action.isRedirect then 1 else 0) := by
  obtain ⟨hcalls, haction, -, -⟩ := arrival.uncounted_alike
  have hbalance := arrival.uncounted.passage.balance arrival.gate.count_uncounted
  rw [← hcalls, ← haction] at hbalance
  exact hbalance

/-- How often some packets are counted, by counter. -/
def tallyOf : List Arrival → GateCounter → Nat
  | [], _ => 0
  | arrival :: arrivals, counter => arrival.tally counter + tallyOf arrivals counter

theorem tallyOf_append (first second : List Arrival) (counter : GateCounter) :
    tallyOf (first ++ second) counter = tallyOf first counter + tallyOf second counter := by
  induction first with
  | nil => exact (Nat.zero_add _).symm
  | cons arrival first ih =>
      rw [List.cons_append, tallyOf, tallyOf, ih, Nat.add_assoc]

/-- **The tallies of any packets balance.** -/
theorem tallyOf_balance (arrivals : List Arrival) :
    Balance (tallyOf arrivals) arrivals.length (arrivals.countP fun arrival => arrival.Enters 1)
      (arrivals.countP fun arrival => arrival.action = .drop)
      (arrivals.countP fun arrival => arrival.action.isRedirect) := by
  induction arrivals with
  | nil => exact .zero
  | cons arrival arrivals ih =>
      have htally : tallyOf (arrival :: arrivals) =
          fun counter => tallyOf arrivals counter + arrival.tally counter :=
        funext fun counter => Nat.add_comm ..
      rw [htally]
      have hbalance := ih.add arrival.balance
      simpa only [List.countP_cons, List.length_cons, decide_eq_true_eq] using hbalance

end VideoGate
