import VideoGate.Proofs.Robot.Period
import VideoGate.Proofs.System.PinnedWords

/-!
# The robot publishes whole rounds

A run hands the positions of its route to the sink, round after round, and ends either behind the
last of them or with the first one that could not be handed over (`run_publishes`).  Each loop of
the run publishes a list of positions in this sense, and two that follow each other publish both
lists (`Publishes.bind`).

A run needs time between two positions, so it does not begin at all above the highest rate
(`publishes_rounds_iff`).
-/

namespace VideoGate.Robot

variable {sink : Sink}

/-! ## Handing over -/

/-- Waits until a position is due and hands it to the sink. -/
def handOver (sink : Sink) (position : Position) : Operation Unit := do
  awaitTick
  sink position

/-- The sink has taken these positions, one after the other, and apart from that only the operator
has been told something. -/
inductive Taken (sink : Sink) (world : World) : List Position → World → Prop
  | start : Taken sink world [] world
  | told {positions : List Position} {between : World} (notice : Notice)
      (h : Taken sink world positions between) :
      Taken sink world positions { between with told := notice :: between.told }
  | next {positions : List Position} {position : Position} {between after : World}
      (h : Taken sink world positions between)
      (htake : (handOver sink position).perform between = (.ok (), after)) :
      Taken sink world (positions ++ [position]) after

theorem Taken.trans {world between after : World} {first second : List Position}
    (h : Taken sink world first between) (hmore : Taken sink between second after) :
    Taken sink world (first ++ second) after := by
  induction hmore with
  | start => rwa [List.append_nil]
  | told notice _ ih => exact .told notice ih
  | next _ htake ih => rw [← List.append_assoc]; exact .next ih htake

/-- An operation publishes these positions: it counts all of them, or it ends with the first one
that cannot be handed over. -/
def Publishes (sink : Sink) (published : UInt64) (positions : List Position)
    (operation : Operation UInt64) : Prop :=
  ∀ world,
    (∃ count after, operation.perform world = (.ok count, after) ∧
      count.toNat = published.toNat + positions.length ∧ Taken sink world positions after) ∨
    ∃ before position rest failure between after,
      operation.perform world = (.error failure, after) ∧
        positions = before ++ position :: rest ∧ Taken sink world before between ∧
        (handOver sink position).perform between = (.error failure, after)

namespace Publishes

variable {published : UInt64} {first second : List Position} {operation : Operation UInt64}

theorem nothing (published : UInt64) : Publishes sink published [] (pure published) :=
  fun world => .inl ⟨published, world, rfl, rfl, .start⟩

/-- What is published by two operations, of which the second goes on counting. -/
theorem bind {next : UInt64 → Operation UInt64} (h : Publishes sink published first operation)
    (hnext : ∀ count : UInt64, count.toNat = published.toNat + first.length →
      Publishes sink count second (next count)) :
    Publishes sink published (first ++ second) (operation >>= next) := by
  intro world
  rw [Operation.perform_bind]
  rcases h world with ⟨count, between, hrun, hcount, htaken⟩ |
      ⟨before, position, rest, failure, between, after, hrun, rfl, htaken, hfails⟩
  · rw [hrun]
    rcases hnext count hcount between with ⟨total, after, hrun, htotal, hmore⟩ |
        ⟨before, position, rest, failure, between, after, hrun, rfl, hmore, hfails⟩
    · refine .inl ⟨total, after, hrun, ?_, htaken.trans hmore⟩
      rw [htotal, hcount, List.length_append, Nat.add_assoc]
    · exact .inr ⟨first ++ before, position, rest, failure, between, after, hrun,
        (List.append_assoc ..).symm, htaken.trans hmore, hfails⟩
  · rw [hrun]
    exact .inr ⟨before, position, rest ++ second, failure, between, after, rfl,
      by rw [List.append_assoc, List.cons_append], htaken, hfails⟩

/-- Telling the operator something does not publish anything. -/
theorem behind_log (h : Publishes sink published first operation) (level : Level)
    (origin : Origin) (text : String) :
    Publishes sink published first (do Operation.log level origin text; operation) := by
  intro world
  rw [Operation.perform_bind, Operation.perform_log]
  have htold : Taken sink world [] _ := .told (.logged { level, origin, text }) .start
  rcases h { world with told := .logged { level, origin, text } :: world.told } with
      ⟨count, after, hrun, hcount, htaken⟩ |
      ⟨before, position, rest, failure, between, after, hrun, hpositions, htaken, hfails⟩
  · exact .inl ⟨count, after, hrun, hcount, htold.trans htaken⟩
  · exact .inr ⟨before, position, rest, failure, between, after, hrun, hpositions,
      htold.trans htaken, hfails⟩

end Publishes

/-! ## The loops -/

theorem toNat_add_one {published : UInt64} (h : published.toNat + 1 < UInt64.size) :
    (published + 1).toNat = published.toNat + 1 := by
  rw [UInt64.toNat_add, UInt64.toNat_one]
  exact Nat.mod_eq_of_lt h

theorem publish_eq (sink : Sink) (position : Position) (published : UInt64) :
    publish sink position published = (do
      handOver sink position
      Operation.log .debug .simulator (positionWords position)
      countOne published) := by
  simp only [publish, handOver, bind_assoc]

theorem publish_publishes (sink : Sink) (position : Position) {published : UInt64}
    (h : published.toNat + 1 < UInt64.size) :
    Publishes sink published [position] (publish sink position published) := by
  intro world
  rw [publish_eq, Operation.perform_bind]
  rcases hand : (handOver sink position).perform world with ⟨outcome, between⟩
  cases outcome with
  | error failure =>
      exact .inr ⟨[], position, [], failure, world, between, rfl, rfl, .start, hand⟩
  | ok taken =>
      have htaken := Taken.told (.logged ⟨.debug, .simulator, positionWords position⟩)
        (.next .start hand)
      refine .inl ⟨published + 1, _, ?_, toNat_add_one h, htaken⟩
      simp only [Operation.perform_bind, Operation.perform_log, countOne, if_pos h]
      rfl

variable {route : Route} {updates : UInt64}

/-- The positions of a round from the one with this number on. -/
def positionsFrom (route : Route) (updates : UInt64) (index count : Nat) : List Position :=
  (List.range' index count).map fun index => route.positionAt updates (UInt64.ofNat index)

theorem publishFrom_publishes (route : Route) (updates : UInt64) (sink : Sink)
    (count index : Nat) {published : UInt64}
    (h : published.toNat + count < UInt64.size) :
    Publishes sink published (positionsFrom route updates index count)
      (publishFrom route updates sink count index published) := by
  induction count generalizing index published with
  | zero => exact .nothing published
  | succ count ih =>
      have hfirst := publish_publishes sink (route.positionAt updates (UInt64.ofNat index))
        (show published.toNat + 1 < _ by omega)
      refine hfirst.bind fun counted hcounted => ih (index + 1) ?_
      rw [hcounted, List.length_singleton]
      omega

theorem positionsFrom_zero :
    positionsFrom route updates 0 updates.toNat = route.positions updates := by
  rw [positionsFrom, Route.positions, List.range_eq_range']

theorem length_positions : (route.positions updates).length = updates.toNat := by
  rw [Route.positions, List.length_map, List.length_range]

theorem publishRound_publishes (route : Route) (sink : Sink) (round : Nat) {published : UInt64}
    (h : published.toNat + updates.toNat < UInt64.size) :
    Publishes sink published (route.positions updates)
      (publishRound route updates sink round published) := by
  have hfrom := publishFrom_publishes route updates sink updates.toNat 0 h
  rw [positionsFrom_zero] at hfrom
  refine Publishes.behind_log ?_ _ _ _
  rw [← List.append_nil (route.positions updates)]
  exact hfrom.bind fun counted _ => .behind_log (.nothing counted) _ _ _

/-- The positions of so many rounds. -/
def roundsOf (route : Route) (updates : UInt64) (rounds : Nat) : List Position :=
  (List.replicate rounds (route.positions updates)).flatten

theorem length_roundsOf (rounds : Nat) :
    (roundsOf route updates rounds).length = rounds * updates.toNat := by
  simp [roundsOf, length_positions]

theorem publishRounds_publishes (route : Route) (sink : Sink) (rounds round : Nat)
    {published : UInt64}
    (h : published.toNat + rounds * updates.toNat < UInt64.size) :
    Publishes sink published (roundsOf route updates rounds)
      (publishRounds route updates sink rounds round published) := by
  induction rounds generalizing round published with
  | zero => exact .nothing published
  | succ rounds ih =>
      rw [Nat.succ_mul] at h
      have hround := publishRound_publishes route sink round
        (show published.toNat + updates.toNat < _ by omega)
      refine hround.bind fun counted hcounted => ih (round + 1) ?_
      rw [hcounted, length_positions]
      omega

/-! ## Sinks that do not fail -/

/-- In these worlds the sink takes every position, and nothing leads out of them. -/
structure SafeIn (sink : Sink) (safe : World → Prop) : Prop where
  told : ∀ {world}, safe world → ∀ notice, safe { world with told := notice :: world.told }
  handsOver : ∀ {world}, safe world → ∀ position,
    ∃ after, (handOver sink position).perform world = (.ok (), after) ∧ safe after

section

variable {safe : World → Prop} {world after : World} {positions : List Position}

theorem SafeIn.taken (h : SafeIn sink safe) (hworld : safe world)
    (htaken : Taken sink world positions after) : safe after := by
  induction htaken with
  | start => exact hworld
  | told notice _ ih => exact h.told ih notice
  | @next _ position _ _ _ htake ih =>
      obtain ⟨after, hafter, hsafe⟩ := h.handsOver ih position
      rw [htake] at hafter
      exact (Prod.mk.inj hafter).2 ▸ hsafe

/-- With such a sink everything is published. -/
theorem Publishes.of_safeIn {published : UInt64} {operation : Operation UInt64}
    (h : Publishes sink published positions operation) (hsafe : SafeIn sink safe)
    (hworld : safe world) :
    ∃ count after, operation.perform world = (.ok count, after) ∧
      count.toNat = published.toNat + positions.length ∧ Taken sink world positions after := by
  rcases h world with hall | ⟨before, position, rest, failure, between, after, -, -, htaken, hfails⟩
  · exact hall
  · obtain ⟨taken, htake, -⟩ := hsafe.handsOver (hsafe.taken hworld htaken) position
    rw [htake] at hfails
    cases hfails

end

/-- Nobody will interrupt the program. -/
def Undisturbed (world : World) : Prop :=
  ∀ interlude ∈ world.interludes, interlude.interrupts = false

theorem perform_wait (world : World) :
    Operation.wait.perform world =
      match world.interludes with
      | [] => (.ok false, world)
      | interlude :: interludes =>
        (.ok interlude.interrupts,
          { world with
            files := interlude.written.foldl
              (fun files (place, map) => files.put place (.map map)) world.files
            interludes }) := by
  have hget : (get : Operation World).perform world = (.ok world, world) := rfl
  rw [Operation.wait, Operation.perform_bind, hget]
  cases hworld : world.interludes <;> simp only [hworld] <;> rfl

/-- A wait that is not interrupted changes no more than the files and what will happen later. -/
theorem perform_awaitTick {world : World} (h : Undisturbed world) :
    ∃ files interludes, awaitTick.perform world = (.ok (), { world with files, interludes }) ∧
      Undisturbed { world with files, interludes } := by
  rw [awaitTick, Operation.perform_bind, perform_wait]
  cases hworld : world.interludes with
  | nil =>
      exact ⟨world.files, world.interludes, rfl, h⟩
  | cons interlude interludes =>
      rw [Undisturbed, hworld, List.forall_mem_cons] at h
      simp only [h.1]
      exact ⟨_, interludes, rfl, h.2⟩

/-! ### Datagrams -/

section

variable {world after : World} {positions : List Position}

/-- The network can be used, and nobody will interrupt the program. -/
structure Quiet (world : World) : Prop where
  isUp : world.network.isUp = true
  undisturbed : Undisturbed world

/-- The bytes of a position as they are sent. -/
def datagramOf (position : Position) : List UInt8 := (Wire.WireHeader.encode position).toList

theorem perform_send (h : world.network.isUp = true) (target : String) (datagram : List UInt8) :
    (Operation.send target datagram).perform world =
      (.ok (), { world with
        network := { world.network with sent := datagram :: world.network.sent } }) := by
  have hget : (get : Operation World).perform world = (.ok world, world) := rfl
  rw [Operation.send, Operation.perform_bind, hget]
  simp only [if_pos h]
  rfl

theorem handOver_datagrams (h : Quiet world) (target : Wire.Endpoint) (position : Position) :
    ∃ after, (handOver (.datagrams target) position).perform world = (.ok (), after) ∧
      Quiet after ∧ after.datagrams = world.datagrams ++ [datagramOf position] := by
  obtain ⟨files, interludes, hwait, hundisturbed⟩ := perform_awaitTick h.undisturbed
  have hup : ({ world with files, interludes } : World).network.isUp = true := h.isUp
  have hsend := perform_send hup target.text (encodePosition position)
  refine ⟨_, (Operation.perform_bind_of_ok hwait).trans hsend, ⟨h.isUp, hundisturbed⟩, ?_⟩
  simp only [World.datagrams, List.reverse_cons, encodePosition_eq, datagramOf]

theorem safeIn_datagrams (target : Wire.Endpoint) : SafeIn (.datagrams target) Quiet where
  told h _ := ⟨h.isUp, h.undisturbed⟩
  handsOver h position :=
    let ⟨after, htake, hafter, _⟩ := handOver_datagrams h target position
    ⟨after, htake, hafter⟩

/-- Each position that has been taken has been sent as its bytes. -/
theorem Taken.datagrams_eq {target : Wire.Endpoint} (h : Quiet world)
    (htaken : Taken (.datagrams target) world positions after) :
    after.datagrams = world.datagrams ++ positions.map datagramOf := by
  induction htaken with
  | start => rw [List.map_nil, List.append_nil]
  | told _ _ ih => exact ih
  | @next positions position between after htaken htake ih =>
      obtain ⟨sent, hsent, -, hdatagrams⟩ :=
        handOver_datagrams ((safeIn_datagrams target).taken h htaken) target position
      obtain rfl := (Prod.mk.inj (htake.symm.trans hsent)).2
      rw [hdatagrams, ih, List.append_assoc, List.map_append, List.map_singleton]

end

/-! ## A run -/

variable {rounds : UInt32}

/-- The number of positions in a round, if a word can count them. -/
def roundLength (route : Route) : Nat := route.seconds.toNat * route.rate.toNat

theorem updates_eq_ok (h : roundLength route < UInt64.size) :
    route.updates = .ok (UInt64.ofNat (roundLength route)) := if_pos h

theorem run_of_rate_eq_zero (h : route.rate = 0) (world : World) :
    (run route rounds sink).perform world = (.error .noRate, world) := by
  rw [run, if_pos h]
  rfl

theorem run_of_seconds_eq_zero (hrate : route.rate ≠ 0) (h : route.seconds = 0) (world : World) :
    (run route rounds sink).perform world = (.error .noDuration, world) := by
  have hupdates : route.updates = .ok 0 := by
    rw [updates_eq_ok] <;> rw [roundLength, h, UInt64.toNat_zero, Nat.zero_mul] <;> decide
  rw [run, if_neg hrate, hupdates]
  rfl

section

variable (hrate : route.rate ≠ 0) (hupdates : route.updates = .ok updates) (hne : updates ≠ 0)

include hrate hupdates hne

theorem run_of_fast (h : rateLimit < route.rate) (world : World) :
    (run route rounds sink).perform world = (.error .rateTooHigh, world) := by
  rw [run, if_neg hrate, hupdates]
  simp only [Operation.ofExcept, pure_bind, if_neg hne, if_pos ((period_eq_zero_iff hrate).mpr h)]
  rfl

theorem run_eq (h : route.rate ≤ rateLimit) (hrounds : rounds ≠ 0) :
    run route rounds sink = publishRounds route updates sink rounds.toNat 1 0 := by
  have hslow : ¬ period route = 0 := by
    rw [period_eq_zero_iff hrate]
    exact UInt32.not_lt.mpr h
  simp only [run, if_neg hrate, hupdates, Operation.ofExcept, pure_bind, if_neg hne, if_neg hslow,
    if_neg hrounds]

end

/-- A sink that takes everything is safe as long as nobody interrupts the program. -/
theorem safeIn_pure : SafeIn (fun _ => pure ()) Undisturbed where
  told h _ := h
  handsOver {world} h position := by
    obtain ⟨files, interludes, hwait, hundisturbed⟩ := perform_awaitTick h
    exact ⟨_, Operation.perform_bind_of_ok hwait, hundisturbed⟩

/-- What fails at once publishes nothing, although there are sinks that take everything. -/
theorem not_publishes_of_fails {published : UInt64} {positions : List Position}
    {operation : Operation UInt64} {failure : Failure}
    (h : ∀ world, operation.perform world = (.error failure, world)) :
    ¬ Publishes (fun _ => pure ()) published positions operation := by
  intro hpublishes
  obtain ⟨count, after, hrun, -⟩ := hpublishes.of_safeIn safeIn_pure
    (show Undisturbed { files := { cwd := [], entries := [] } } from nofun)
  rw [h] at hrun
  cases hrun

/-- **A run publishes whole rounds** exactly if it leaves time between two positions. -/
theorem publishes_rounds_iff (route : Route) (rounds : UInt32) :
    (route.rate = 0 ∨ route.seconds = 0 → ∀ sink world,
      (run route rounds sink).perform world =
        (.error (if route.rate = 0 then .noRate else .noDuration), world)) ∧
    (1 ≤ route.rate → 1 ≤ route.seconds → 1 ≤ rounds →
      rounds.toNat * roundLength route < UInt64.size →
      let updates := UInt64.ofNat (roundLength route)
      let positions := roundsOf route updates rounds.toNat
      route.updates = .ok updates ∧
        positions.length = rounds.toNat * (route.seconds.toNat * route.rate.toNat) ∧
        ((∀ sink, Publishes sink 0 positions (run route rounds sink)) ↔ route.rate ≤ rateLimit) ∧
        (rateLimit < route.rate → ∀ sink world,
          (run route rounds sink).perform world = (.error .rateTooHigh, world)) ∧
        (route.rate ≤ rateLimit →
          (∀ {sink safe}, SafeIn sink safe → ∀ {world}, safe world →
            ∃ count after, (run route rounds sink).perform world = (.ok count, after) ∧
              count.toNat = positions.length ∧ Taken sink world positions after) ∧
          ∀ {target world}, Quiet world →
            ∃ count after,
              (run route rounds (.datagrams target)).perform world = (.ok count, after) ∧
              count.toNat = positions.length ∧
              after.datagrams = world.datagrams ++ positions.map datagramOf)) := by
  refine ⟨fun hzero sink world => ?_, fun hrate hseconds hrounds hsize => ?_⟩
  · by_cases hrate : route.rate = 0
    · rw [if_pos hrate, run_of_rate_eq_zero hrate]
    · rw [if_neg hrate, run_of_seconds_eq_zero hrate (hzero.resolve_left hrate)]
  intro updates positions
  have hrate' : 1 ≤ route.rate.toNat := hrate
  have hseconds' : 1 ≤ route.seconds.toNat := hseconds
  have hrounds' : 1 ≤ rounds.toNat := hrounds
  have hpos : 0 < roundLength route := Nat.mul_pos hseconds' hrate'
  have hlt : roundLength route < UInt64.size :=
    Nat.lt_of_le_of_lt (Nat.le_mul_of_pos_left _ hrounds') hsize
  have hupdates : route.updates = .ok updates := updates_eq_ok hlt
  have htoNat : updates.toNat = roundLength route := UInt64.toNat_ofNat_of_lt' hlt
  have hrate_ne : route.rate ≠ 0 := fun h => absurd (h ▸ hrate) (by decide)
  have hupdates_ne : updates ≠ 0 := fun h => by rw [h] at htoNat; exact hpos.ne htoNat
  have hrounds_ne : rounds ≠ 0 := fun h => absurd (h ▸ hrounds) (by decide)
  have hfast : rateLimit < route.rate → ∀ sink world,
      (run route rounds sink).perform world = (.error .rateTooHigh, world) :=
    fun h sink world => run_of_fast hrate_ne hupdates hupdates_ne h world
  have hslow : route.rate ≤ rateLimit → ∀ sink,
      Publishes sink 0 positions (run route rounds sink) := fun h sink => by
    rw [run_eq hrate_ne hupdates hupdates_ne h hrounds_ne]
    refine publishRounds_publishes route sink rounds.toNat 1 ?_
    rw [UInt64.toNat_zero, Nat.zero_add, htoNat]
    exact hsize
  have hall : route.rate ≤ rateLimit → ∀ {sink safe}, SafeIn sink safe → ∀ {world}, safe world →
      ∃ count after, (run route rounds sink).perform world = (.ok count, after) ∧
        count.toNat = positions.length ∧ Taken sink world positions after :=
    fun h sink safe hsafe world hworld => by
      simpa using (hslow h sink).of_safeIn hsafe hworld
  refine ⟨hupdates, ?_, ⟨fun hpublishes => ?_, hslow⟩, hfast, fun h => ⟨hall h, ?_⟩⟩
  · rw [length_roundsOf, htoNat, roundLength]
  · by_contra hnot
    exact not_publishes_of_fails (hfast (UInt32.not_le.mp hnot) _) (hpublishes _)
  · intro target world hquiet
    obtain ⟨count, after, hrun, hcount, htaken⟩ := hall h (safeIn_datagrams target) hquiet
    exact ⟨count, after, hrun, hcount, htaken.datagrams_eq hquiet⟩

/-- Two rounds up and down the diagonal, two positions each. -/
theorem publishes_rounds_iff_two_rounds :
    let route : Route := { centerX := 500, centerY := 500, radius := 0, seconds := 1, rate := 2 }
    let world : World := { files := { cwd := [], entries := [] } }
    1 ≤ route.rate ∧ 1 ≤ route.seconds ∧ (1 : UInt32) ≤ 2 ∧
      (2 : UInt32).toNat * roundLength route < UInt64.size ∧ route.rate ≤ rateLimit ∧
      Quiet world ∧
      ∃ count after,
        (run route 2 (.datagrams standardTarget)).perform world = (.ok count, after) ∧
        count.toNat = 4 ∧
        after.datagrams = (roundsOf route 2 2).map datagramOf := by
  intro route world
  have hsize : (2 : UInt32).toNat * roundLength route < UInt64.size := by decide
  have hquiet : Quiet world := ⟨rfl, nofun⟩
  obtain ⟨-, hlength, -, -, hslow⟩ :=
    (publishes_rounds_iff route 2).2 (by decide) (by decide) (by decide) hsize
  obtain ⟨count, after, hrun, hcount, hdatagrams⟩ := (hslow (by decide)).2 hquiet
  exact ⟨by decide, by decide, by decide, hsize, by decide, hquiet, count, after, hrun,
    hcount.trans hlength, hdatagrams⟩

/-- Above the highest rate not even one round is published. -/
theorem not_publishes_rounds_fast :
    let route : Route :=
      { centerX := 250, centerY := 730, radius := 1, seconds := 1, rate := 2000000001 }
    1 ≤ route.rate ∧ 1 ≤ route.seconds ∧ (1 : UInt32) ≤ 1 ∧
      (1 : UInt32).toNat * roundLength route < UInt64.size ∧
      ¬ ∀ sink, Publishes sink 0 (roundsOf route (UInt64.ofNat (roundLength route)) 1)
        (run route 1 sink) := by
  intro route
  have hupdates : route.updates = .ok (UInt64.ofNat (roundLength route)) :=
    updates_eq_ok (by decide)
  refine ⟨by decide, by decide, by decide, by decide, fun hpublishes => ?_⟩
  exact not_publishes_of_fails (run_of_fast (by decide) hupdates (by decide) (by decide))
    (hpublishes _)

end VideoGate.Robot
