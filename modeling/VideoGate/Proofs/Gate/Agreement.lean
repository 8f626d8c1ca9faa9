import VideoGate.Frame.Sample
import VideoGate.Pin.Layout
import VideoGate.Proofs.Gate.Tally

/-!
# Runs of a gate

Packets arrive at a gate while its settings and its cameras are written from outside, in any
order.  Over a whole run the counters of the dispatcher and those of the filter are what the
packets of the run come to (`Gate.toNat_count_run`), and so they agree with each other and with
what became of the packets (`run_agrees`).
-/

namespace VideoGate

open VideoFilter

/-- What happens at a gate: a packet arrives, or a word is written from outside.  The words that
steer the dispatcher are named by the map and the place, and a place past the map is ignored. -/
inductive GateEvent where
  | arrival (slot : Option Metadata) (frame : Frame)
  | setControl (place value : UInt32)
  | setInterface (place value : UInt32)
  | setGlobal (raw : UInt32)
  | setCamera (camera raw : UInt32)
  | removeCamera (camera : UInt32)
deriving DecidableEq, Repr

/-- The packet that arrives at a gate by an event, if one does. -/
def GateEvent.arrival? (gate : Gate) : GateEvent → Option Arrival
  | arrival slot frame => some { gate, slot, frame }
  | setControl _ _ | setInterface _ _ | setGlobal _ | setCamera _ _ | removeCamera _ => none

def DispatchTables.setPlace (tables : DispatchTables) (map : MapName) (place value : UInt32) :
    DispatchTables :=
  match Setting.ofPlace? map place.toNat with
  | none => tables
  | some setting => tables.set setting value

namespace Gate

/-- Nothing counted, nothing set, and no camera filtered. -/
def fresh : Gate := ⟨.empty, .empty⟩

def step (gate : Gate) : GateEvent → Gate
  | .arrival slot frame => Arrival.after { gate, slot, frame }
  | .setControl place value =>
    { gate with dispatcher := gate.dispatcher.setPlace .control place value }
  | .setInterface place value =>
    { gate with dispatcher := gate.dispatcher.setPlace .interfaces place value }
  | .setGlobal raw => { gate with video := { gate.video with globalRaw := raw } }
  | .setCamera camera raw => { gate with video := gate.video.setCameraRaw camera raw }
  | .removeCamera camera => { gate with video := gate.video.removeCamera camera }

def run (gate : Gate) (events : List GateEvent) : Gate := events.foldl step gate

/-- The packets of a run, each at the gate as it finds it. -/
def arrivals (gate : Gate) : List GateEvent → List Arrival
  | [] => []
  | event :: events => (event.arrival? gate).toList ++ arrivals (gate.step event) events

variable (gate : Gate)

theorem arrivals_cons (event : GateEvent) (events : List GateEvent) :
    gate.arrivals (event :: events) =
      (event.arrival? gate).toList ++ (gate.step event).arrivals events := rfl

theorem arrivals_append (first second : List GateEvent) :
    gate.arrivals (first ++ second) = gate.arrivals first ++ (gate.run first).arrivals second := by
  induction first generalizing gate with
  | nil => rfl
  | cons event first ih =>
      rw [List.cons_append, arrivals_cons, arrivals_cons, ih (gate.step event),
        List.append_assoc]
      rfl

/-- A packet is dispatched by the gate at which it arrives. -/
theorem step_of_arrival {event : GateEvent} {arrival : Arrival}
    (h : event.arrival? gate = some arrival) :
    arrival.gate = gate ∧ gate.step event = arrival.after := by
  cases event <;> cases h
  exact ⟨rfl, rfl⟩

/-- Writing from outside counts nothing. -/
theorem count_step_of_no_arrival {event : GateEvent} (h : event.arrival? gate = none)
    (counter : GateCounter) : (gate.step event).count counter = gate.count counter := by
  have hplace : ∀ (map : MapName) (place value : UInt32) (counter : DispatchCounter),
      (gate.dispatcher.setPlace map place value).counter counter =
        gate.dispatcher.counter counter := by
    intro map place value counter
    unfold DispatchTables.setPlace
    cases Setting.ofPlace? map place.toNat with
    | none => rfl
    | some setting => cases setting <;> rfl
  cases event with
  | arrival slot frame => cases h
  | setControl place value =>
      cases counter with
      | dispatched counter => exact hplace .control place value counter
      | filtered stat => rfl
  | setInterface place value =>
      cases counter with
      | dispatched counter => exact hplace .interfaces place value counter
      | filtered stat => rfl
  | setGlobal raw => cases counter <;> rfl
  | setCamera camera raw => cases counter <;> rfl
  | removeCamera camera =>
      cases counter with
      | dispatched counter => rfl
      | filtered stat =>
          have hkept := gate.video.stats_removeCamera camera
          exact congrArg (fun stats : Vector UInt64 VideoStat.count => stats.get stat.index) hkept

/-- **What a run has counted**: what there was, and the tallies of its packets, up to the largest
word. -/
theorem toNat_count_run (events : List GateEvent) (counter : GateCounter) :
    ((gate.run events).count counter).toNat =
      min ((gate.count counter).toNat + tallyOf (gate.arrivals events) counter)
        (UInt64.size - 1) := by
  induction events generalizing gate with
  | nil => exact Counter.toNat_eq_min (gate.count counter)
  | cons event events ih =>
      refine (ih (gate.step event)).trans ?_
      rw [arrivals_cons]
      cases harrival : event.arrival? gate with
      | none =>
          rw [count_step_of_no_arrival gate harrival]
          rfl
      | some arrival =>
          obtain ⟨hgate, hstep⟩ := gate.step_of_arrival harrival
          rw [hstep, arrival.toNat_count_after, hgate, ← hstep, Option.toList_some,
            List.singleton_append, tallyOf]
          omega

/-- No counter saturates during a run: there is room for all that its packets are counted. -/
def Unsaturated (events : List GateEvent) : Prop :=
  ∀ counter, (gate.count counter).toNat + tallyOf (gate.arrivals events) counter < UInt64.size

variable {gate}

theorem Unsaturated.toNat_count_run {events : List GateEvent} (h : gate.Unsaturated events)
    (counter : GateCounter) : ((gate.run events).count counter).toNat =
      (gate.count counter).toNat + tallyOf (gate.arrivals events) counter := by
  have hroom := h counter
  rw [gate.toNat_count_run]
  omega

theorem Unsaturated.of_append {first second : List GateEvent}
    (h : gate.Unsaturated (first ++ second)) : gate.Unsaturated first := by
  intro counter
  have hroom := h counter
  rw [arrivals_append, tallyOf_append] at hroom
  omega

theorem Unsaturated.of_append_right {first second : List GateEvent}
    (h : gate.Unsaturated (first ++ second)) : (gate.run first).Unsaturated second := by
  intro counter
  have hroom := h counter
  rw [arrivals_append, tallyOf_append] at hroom
  rw [h.of_append.toNat_count_run]
  omega

/-- No packet is counted twice by one counter, so a run that has fewer packets than a counter can
count saturates none that starts at zero. -/
theorem unsaturated_of_zero {events : List GateEvent} (hzero : ∀ counter, gate.count counter = 0)
    (hfew : (gate.arrivals events).length < UInt64.size) : gate.Unsaturated events := by
  intro counter
  have hle := (tallyOf_balance (gate.arrivals events)).atMost counter
  rw [hzero, UInt64.toNat_zero]
  omega

theorem count_fresh (counter : GateCounter) : fresh.count counter = 0 :=
  fresh.count_uncounted counter

end Gate

/-- **Dispatcher and filter agree** after every step of a run that starts at a fresh gate and has
fewer packets than a counter can count, and every packet of it is settled. -/
theorem run_agrees {events : List GateEvent}
    (hfew : (Gate.fresh.arrivals events).length < UInt64.size) {done : List GateEvent}
    (hdone : done <+: events) :
    Balance (fun counter => ((Gate.fresh.run done).count counter).toNat)
      (Gate.fresh.arrivals done).length
      ((Gate.fresh.arrivals done).countP fun arrival => arrival.Enters 1)
      ((Gate.fresh.arrivals done).countP fun arrival => arrival.action = .drop)
      ((Gate.fresh.arrivals done).countP fun arrival => arrival.action.isRedirect) ∧
    ∀ arrival ∈ Gate.fresh.arrivals done, arrival.Settled := by
  obtain ⟨rest, rfl⟩ := hdone
  have hroom := (Gate.unsaturated_of_zero Gate.count_fresh hfew).of_append
  have hcount : ∀ counter, ((Gate.fresh.run done).count counter).toNat =
      tallyOf (Gate.fresh.arrivals done) counter := by
    intro counter
    rw [hroom.toNat_count_run, Gate.count_fresh, UInt64.toNat_zero, Nat.zero_add]
  rw [funext hcount]
  exact ⟨tallyOf_balance _, fun arrival _ => arrival.settled⟩

/-- A P slice is dropped, the next picture goes out, and when the bridge is on a third packet goes
to the peer; a fourth is still to come. -/
theorem run_agrees_three_ways :
    let slice := (SampleFrame.video 0 (.nalUnit 1)).bytes
    let picture := (SampleFrame.video 0 (.nalUnit 19)).bytes
    let done : List GateEvent :=
      [.setControl 0 1, .setControl 1 1, .setInterface 2 7, .setCamera 0 1,
        .arrival (some {}) slice, .arrival (some {}) picture, .setInterface 0 9,
        .setInterface 1 1, .arrival none slice]
    let events := done ++ [.removeCamera 0, .setGlobal 2, .arrival (some {}) slice]
    (Gate.fresh.arrivals events).length < UInt64.size ∧ done <+: events ∧
      Balance (fun counter => ((Gate.fresh.run done).count counter).toNat) 3 2 1 2 := by
  intro slice picture done events
  have hfew : (Gate.fresh.arrivals events).length < UInt64.size := by
    have hlength : (Gate.fresh.arrivals events).length = 4 := rfl
    rw [hlength]
    decide
  have hdone : done <+: events := List.prefix_append ..
  have hlength : (Gate.fresh.arrivals done).length = 3 := rfl
  have hentered : ((Gate.fresh.arrivals done).countP fun arrival => arrival.Enters 1) = 2 := by
    decide +kernel
  have hdrops : ((Gate.fresh.arrivals done).countP fun arrival => arrival.action = .drop) = 1 := by
    decide +kernel
  have hsent :
      ((Gate.fresh.arrivals done).countP fun arrival => arrival.action.isRedirect) = 2 := by
    decide +kernel
  obtain ⟨hbalance, -⟩ := run_agrees hfew hdone
  rw [hlength, hentered, hdrops, hsent] at hbalance
  exact ⟨hfew, hdone, hbalance⟩

end VideoGate
