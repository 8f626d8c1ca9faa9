import VideoGate.Proofs.Control.RoundTrip
import VideoGate.Proofs.Dispatch.Exit

/-!
# Switching the bridge on while packets pass

A configuration is written word by word, and packets read the words in between: the bridge first,
and then the peer if the bridge is on.  The peer is written before the bridge is switched on, so a
packet that finds the bridge on finds the new peer too (`bridge_never_stale`).
-/

namespace VideoGate

open DispatchStore

/-! ## Turns -/

/-- What happens next. -/
inductive Turn where
  /-- The next write of the configuration. -/
  | write
  /-- The next read of a packet. -/
  | read (packet : Nat)
deriving DecidableEq, Repr

/-- The maps while a configuration is being written into them. -/
structure Switchover where
  maps : SettingMaps
  /-- The writes that are still to be made. -/
  pending : List SlotWrite
deriving DecidableEq

namespace Switchover

def write (state : Switchover) : Switchover :=
  match state.pending with
  | [] => state
  | write :: pending => { maps := state.maps.store write, pending }

/-- Takes a turn; a read changes nothing. -/
def take (state : Switchover) : Turn → Switchover
  | .write => state.write
  | .read _ => state

/-- Only the number of writes matters. -/
theorem foldl_take (turns : List Turn) (maps : SettingMaps) (pending : List SlotWrite) :
    turns.foldl take ⟨maps, pending⟩ =
      ⟨maps.storeAll (pending.take (turns.count .write)), pending.drop (turns.count .write)⟩ := by
  induction turns generalizing maps pending with
  | nil => simp [SettingMaps.storeAll]
  | cons turn turns ih =>
      rw [List.foldl_cons]
      cases turn with
      | read packet =>
          rw [List.count_cons_of_ne (by simp)]
          exact ih maps pending
      | write =>
          rw [List.count_cons_self]
          cases pending with
          | nil => exact (ih maps []).trans (by simp)
          | cons write pending => exact ih (maps.store write) pending

theorem foldl_take_of_length_le {turns : List Turn} {pending : List SlotWrite}
    (h : pending.length ≤ turns.count .write) (maps : SettingMaps) :
    turns.foldl take ⟨maps, pending⟩ = ⟨maps.storeAll pending, []⟩ := by
  rw [foldl_take, List.take_of_length_le h, List.drop_of_length_le h]

/-! ### Never to another peer -/

/-- The peer is written, and stays. -/
structure Settled (peer : UInt32) (state : Switchover) : Prop where
  word : state.maps.raw .peer = peer
  later : ∀ write ∈ state.pending, write.place = Setting.peer.place → write.value = peer

/-- The bridge is off, and the peer will be written before the bridge is. -/
structure Ahead (peer : UInt32) (state : Switchover) : Prop where
  off : state.maps.raw .bridge ≠ Setting.enabled
  split : ∃ before write after, state.pending = before ++ write :: after ∧
    write.place = Setting.peer.place ∧ write.value = peer ∧
    (∀ write ∈ before, write.place ≠ Setting.bridge.place) ∧
    ∀ write ∈ after, write.place = Setting.peer.place → write.value = peer

variable {peer : UInt32} {state : Switchover}

theorem Settled.take (h : state.Settled peer) (turn : Turn) : (state.take turn).Settled peer := by
  obtain ⟨maps, pending⟩ := state
  cases turn with
  | read packet => exact h
  | write =>
      cases pending with
      | nil => exact h
      | cons write pending =>
          obtain ⟨hword, hlater⟩ := h
          obtain ⟨hwrite, hlater⟩ := List.forall_mem_cons.mp hlater
          refine ⟨?_, hlater⟩
          show (maps.store write).raw .peer = peer
          rw [SettingMaps.raw_store]
          split_ifs with hplace
          · exact hwrite hplace.symm
          · exact hword

theorem Ahead.take (h : state.Ahead peer) (turn : Turn) :
    (state.take turn).Settled peer ∨ (state.take turn).Ahead peer := by
  obtain ⟨maps, pending⟩ := state
  cases turn with
  | read packet => exact .inr h
  | write =>
      obtain ⟨hoff, before, write, after, rfl, hplace, hvalue, hbefore, hafter⟩ := h
      cases before with
      | nil =>
          -- Now the peer is written.
          refine .inl ⟨?_, hafter⟩
          show (maps.store write).raw .peer = peer
          rw [SettingMaps.raw_store, if_pos hplace.symm, hvalue]
      | cons first before =>
          obtain ⟨hfirst, hbefore⟩ := List.forall_mem_cons.mp hbefore
          refine .inr ⟨?_, before, write, after, rfl, hplace, hvalue, hbefore, hafter⟩
          show (maps.store first).raw .bridge ≠ Setting.enabled
          rw [SettingMaps.raw_store, if_neg hfirst.symm]
          exact hoff

theorem Settled.run (h : state.Settled peer) (turns : List Turn) :
    (turns.foldl Switchover.take state).Settled peer := by
  induction turns generalizing state with
  | nil => exact h
  | cons turn turns ih => exact ih (h.take turn)

/-- **Whatever the turns are**, the peer is written or the bridge is still off. -/
theorem Ahead.run (h : state.Ahead peer) (turns : List Turn) :
    (turns.foldl Switchover.take state).Settled peer ∨
      (turns.foldl Switchover.take state).Ahead peer := by
  induction turns generalizing state with
  | nil => exact .inr h
  | cons turn turns ih =>
      rcases h.take turn with hsettled | hahead
      · exact .inl (hsettled.run turns)
      · exact ih hahead

end Switchover

/-! ## A packet among others -/

/-- What a packet sees of a switchover. -/
structure Live where
  packet : Nat
  now : Switchover
  /-- What happens from now on. -/
  schedule : List Turn
  counted : List DispatchCounter := []
deriving DecidableEq

namespace Live

/-- The turns before the packet's next read. -/
def before (live : Live) : List Turn := live.schedule.takeWhile (· ≠ .read live.packet)

/-- Waits until it is the packet's turn to read. -/
def await (live : Live) : Live :=
  { live with
    now := live.before.foldl Switchover.take live.now
    schedule := live.schedule.drop (live.before.length + 1) }

instance : DispatchStore Live where
  bump counter live := { live with counted := live.counted ++ [counter] }
  read setting live := (live.await.now.maps.word? setting.place, live.await)

theorem read_eq (setting : Setting) (live : Live) :
    read setting live = (some (live.await.now.maps.raw setting), live.await) := by
  rw [← SettingMaps.word?_place]
  rfl

/-- The bridge is read first, and the peer at a later turn. -/
theorem bridgePeer?_eq (live : Live) :
    (bridgePeer? live).1 =
      if live.await.now.maps.raw .bridge = Setting.enabled then
        (some (live.await.await.now.maps.raw .peer)).filter (0 < ·)
      else none := by
  unfold bridgePeer? isEnabled
  simp only [read_eq]
  by_cases hbridge : live.await.now.maps.raw .bridge = Setting.enabled
  · simp [hbridge]
  · have hoff := beq_false_of_ne hbridge
    simp [hbridge, hoff]

end Live

/-! ## The writes of a configuration -/

/-- The peer is written before the bridge, and once. -/
theorem Config.ahead_orderedWrites {config : Config} {peer : UInt32} {maps : SettingMaps}
    (hpeer : config.peer = some peer) (hoff : maps.raw .bridge ≠ Setting.enabled) :
    Switchover.Ahead peer ⟨maps, config.orderedWrites⟩ := by
  have hplace : ∀ {setting value write}, write ∈ settingWrite setting value →
      write.place = setting.place := by
    intro setting value write hwrite
    obtain ⟨word, -, rfl⟩ := mem_settingWrite_iff.mp hwrite
    rfl
  refine ⟨hoff, settingWrite .stage1 (config.stage1.map Setting.ofSwitch) ++
    settingWrite .stage2 (config.stage2.map Setting.ofSwitch), ⟨.interfaces, 0, peer⟩,
    settingWrite .bridge (config.bridge.map Setting.ofSwitch) ++
      settingWrite .output config.output ++ modeWrite config.globalMode, ?_, rfl, rfl, ?_, ?_⟩
  · rw [config.orderedWrites_eq, writes, hpeer]
    simp [settingWrite, Setting.map, Setting.index]
  · intro write hwrite
    rcases List.mem_append.mp hwrite with hwrite | hwrite
    · rw [hplace hwrite]
      decide
    · rw [hplace hwrite]
      decide
  · intro write hwrite hpeerPlace
    exfalso
    rcases List.mem_append.mp hwrite with hwrite | hwrite
    · rcases List.mem_append.mp hwrite with hwrite | hwrite
      · cases Setting.place_injective ((hplace hwrite).symm.trans hpeerPlace)
      · cases Setting.place_injective ((hplace hwrite).symm.trans hpeerPlace)
    · obtain ⟨mode, -, rfl⟩ := mem_modeWrite_iff.mp hwrite
      exact Setting.peer.place_ne_globalPlace hpeerPlace.symm

/-! ## No stale peer -/

/-- Where a packet goes that has found the bridge on. -/
theorem Live.bridgePeer?_of_ahead {live : Live} {peer target : UInt32}
    (h : live.now.Ahead peer) (htarget : (bridgePeer? live).1 = some target) :
    target = peer ∧ 0 < peer := by
  rw [bridgePeer?_eq] at htarget
  split_ifs at htarget with hbridge
  obtain ⟨hsome, hpositive⟩ := Option.filter_eq_some_iff.mp htarget
  have hsettled : live.await.now.Settled peer := by
    rcases h.run _ with hsettled | hahead
    · exact hsettled
    · exact absurd hbridge hahead.off
  have hpeer : live.await.await.now.maps.raw .peer = peer := (hsettled.run _).word
  obtain rfl := (Option.some.inj hsome).symm.trans hpeer
  exact ⟨rfl, of_decide_eq_true hpositive⟩

/-- A packet that reads after the last write finds what has been written. -/
theorem Live.bridgePeer?_of_written {live : Live} {maps : SettingMaps} {pending : List SlotWrite}
    (hnow : live.now = ⟨maps, pending⟩) (h : pending.length ≤ live.before.count .write) :
    (bridgePeer? live).1 =
      if (maps.storeAll pending).raw .bridge = Setting.enabled then
        (some ((maps.storeAll pending).raw .peer)).filter (0 < ·)
      else none := by
  have hfirst : live.await.now = ⟨maps.storeAll pending, []⟩ := by
    show live.before.foldl Switchover.take live.now = _
    rw [hnow, Switchover.foldl_take_of_length_le h]
  have hsecond : live.await.await.now = ⟨maps.storeAll pending, []⟩ := by
    show live.await.before.foldl Switchover.take live.await.now = _
    rw [hfirst, Switchover.foldl_take_of_length_le (Nat.zero_le _)]
    rfl
  rw [bridgePeer?_eq, hfirst, hsecond]

/-- **Switching the bridge on never uses a stale peer**: however the reads of the packets come
between the writes, a packet that is bridged goes to the new peer, and none is bridged if that is
zero.  Those that read after the last write are bridged. -/
theorem bridge_never_stale {τ : Type} {config : Config} {peer : UInt32} {maps : SettingMaps}
    (hbridge : config.bridge = some true) (hpeer : config.peer = some peer)
    (hoff : maps.raw .bridge ≠ Setting.enabled) (schedule : List Turn) (packet : Nat)
    (stages : Stages τ) (slot : Option Metadata) (world : τ) :
    let live : Live := { packet, now := ⟨maps, config.orderedWrites⟩, schedule }
    let outcome := dispatch stages slot live world
    (∀ target, outcome.bridgedTo? = some target → target = peer) ∧
      (peer = 0 → outcome.bridgedTo? = none) ∧
      (peer ≠ 0 → config.orderedWrites.length ≤ live.before.count .write →
        outcome.bridgedTo? = some peer) := by
  intro live outcome
  have hdispatch : outcome.bridgedTo? = (bridgePeer? (bump .admitted live)).1 :=
    bridgedTo?_dispatch stages slot live world
  have hahead : (bump .admitted live).now.Ahead peer := config.ahead_orderedWrites hpeer hoff
  have htarget : ∀ target, outcome.bridgedTo? = some target → target = peer ∧ 0 < peer := by
    intro target htarget
    exact Live.bridgePeer?_of_ahead hahead (hdispatch.symm.trans htarget)
  refine ⟨fun target h => (htarget target h).1, ?_, ?_⟩
  · intro hzero
    rw [Option.eq_none_iff_forall_ne_some]
    intro target h
    exact absurd hzero (UInt32.pos_iff_ne_zero.mp (htarget target h).2)
  · intro hzero hlength
    have hpositive : decide (0 < peer) = true := decide_eq_true (UInt32.pos_iff_ne_zero.mpr hzero)
    have hon : (maps.storeAll config.orderedWrites).raw .bridge = Setting.enabled := by
      rw [config.orderedWrites_eq, config.raw_storeAll_writes, Config.raw?, hbridge]
      rfl
    have hset : (maps.storeAll config.orderedWrites).raw .peer = peer := by
      rw [config.orderedWrites_eq, config.raw_storeAll_writes, Config.raw?, hpeer]
      rfl
    have hnow : (bump .admitted live).now = ⟨maps, config.orderedWrites⟩ := rfl
    rw [hdispatch, Live.bridgePeer?_of_written hnow hlength, if_pos hon, hset]
    exact Option.filter_some_pos hpositive

/-- Were the bridge written before the peer, packets could go to the old one. -/
example :
    let live : Live :=
      { packet := 0, now := ⟨⟨#v[1, 0], #v[5, 0, 2], #v[0]⟩, [⟨.interfaces, 1, 1⟩,
        ⟨.interfaces, 0, 7⟩]⟩, schedule := [.write, .read 0, .read 0, .write] }
    (bridgePeer? live).1 = some 5 := by
  decide

/-- The first packet reads between the writes of the peer and of the bridge, the second one reads
the bridge after that and the peer in the end. -/
theorem bridge_never_stale_two_packets :
    let config : Config := { peer := some 7, bridge := some true, output := some 3 }
    let maps : SettingMaps := ⟨#v[1, 0], #v[5, 0, 2], #v[0]⟩
    let schedule : List Turn := [.write, .read 0, .write, .read 1, .write, .read 1]
    let outcome (packet : Nat) : Outcome Live Unit := dispatch ⟨.passThrough, .default⟩ none
      { packet, now := ⟨maps, config.orderedWrites⟩, schedule } ()
    (outcome 0).bridgedTo? = none ∧ (outcome 1).bridgedTo? = some 7 ∧
      ∀ packet target, (outcome packet).bridgedTo? = some target → target = 7 := by
  intro config maps schedule outcome
  refine ⟨by decide, by decide, ?_⟩
  intro packet
  exact (bridge_never_stale rfl rfl (by decide) schedule packet ⟨.passThrough, .default⟩ none
    ()).1

end VideoGate
