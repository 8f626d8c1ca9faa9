import VideoGate.Proofs.Dispatch.Visit

/-!
# What the metadata slot held before

The metadata slot outlives a packet.  A packet that is led through the stages starts with fresh
metadata, and one that is bridged never asks for the slot, so nothing of an earlier packet
reaches a later one: what the slot held before is seen by no stage, moves no counter and decides
no action (`dispatch_slot_contents`), neither now nor later on (`sequence_slot_contents`).
-/

namespace VideoGate

open DispatchStore

variable {δ τ : Type} [DispatchStore δ]

/-- A packet that arrives now is bridged. -/
def IsBridged (store : δ) : Prop := (bridgePeer? (bump .admitted store)).1.isSome = true

instance (store : δ) : Decidable (IsBridged store) :=
  inferInstanceAs (Decidable (_ = true))

/-- Two outcomes that differ in the slot at most. -/
structure Outcome.AgreeBesideSlot (a b : Outcome δ τ) : Prop where
  action : a.action = b.action
  fetched : a.fetched = b.fetched
  store : a.store = b.store
  world : a.world = b.world

section Packet

variable {store : δ} (stages : Stages τ) (world : τ)

/-- A bridged packet leaves the slot alone, whatever is in it. -/
theorem dispatch_of_isBridged (h : IsBridged store) (slot other : Option Metadata) :
    let outcome := dispatch stages other store world
    dispatch stages slot store world =
      { outcome with place := { outcome.place with contents := slot } } := by
  obtain ⟨peer, hpeer⟩ := Option.isSome_iff_exists.mp h
  obtain ⟨rest, hanswer⟩ : ∃ rest, bridgePeer? (bump .admitted store) = (some peer, rest) :=
    ⟨_, Prod.ext hpeer rfl⟩
  intro outcome
  simp only [outcome, dispatch, hanswer]

/-- A packet that is not bridged starts with fresh metadata. -/
theorem dispatch_of_not_isBridged (h : ¬ IsBridged store) (contents other : Metadata) :
    dispatch stages (some contents) store world = dispatch stages (some other) store world := by
  have hnone := Option.not_isSome_iff_eq_none.mp h
  obtain ⟨rest, hanswer⟩ : ∃ rest, bridgePeer? (bump .admitted store) = (none, rest) :=
    ⟨_, Prod.ext hnone rfl⟩
  unfold dispatch
  simp only [hanswer, MetadataSlot.fetch, Metadata.reset_eq, MetadataSlot.put]

theorem dispatch_agreeBesideSlot (store : δ) (contents other : Metadata) :
    (dispatch stages (some contents) store world).AgreeBesideSlot
      (dispatch stages (some other) store world) := by
  by_cases hbridged : IsBridged store
  · rw [dispatch_of_isBridged stages world hbridged (some contents) (some other)]
    exact ⟨rfl, rfl, rfl, rfl⟩
  · rw [dispatch_of_not_isBridged stages world hbridged contents other]
    exact ⟨rfl, rfl, rfl, rfl⟩

theorem callsOf_slot_contents (store : δ) (contents other : Metadata) :
    callsOf stages (some contents) store world = callsOf stages (some other) store world :=
  congrArg Prod.snd (dispatch_agreeBesideSlot stages.watched (world, []) store contents other).world

/-- **Nothing leaks through the slot.**  Two packets that differ only in what the slot held before
make the same calls with the same metadata, and have the same action, counters and stages
afterwards.  The slot itself ends up the same too, unless the packet is bridged: then it keeps
what it held. -/
theorem dispatch_slot_contents (store : δ) (contents other : Metadata) :
    let a := dispatch stages (some contents) store world
    let b := dispatch stages (some other) store world
    callsOf stages (some contents) store world = callsOf stages (some other) store world ∧
    a.AgreeBesideSlot b ∧
    (IsBridged store → a.slot = some contents ∧ b.slot = some other) ∧
    (¬ IsBridged store → a.slot = b.slot) := by
  intro a b
  refine ⟨callsOf_slot_contents stages world store contents other,
    dispatch_agreeBesideSlot stages world store contents other, ?bridged, ?led⟩
  case bridged =>
    intro hbridged
    have hkeeps : ∀ slot, (dispatch stages slot store world).slot = slot := fun slot =>
      congrArg Outcome.slot (dispatch_of_isBridged stages world hbridged slot none)
    exact ⟨hkeeps (some contents), hkeeps (some other)⟩
  case led =>
    intro hbridged
    exact congrArg Outcome.slot (dispatch_of_not_isBridged stages world hbridged contents other)

end Packet

/-! ## One packet after another -/

/-- What is seen of some packets: the calls and the action of each, and what it leaves to the
stages and in the store.  Each packet finds the slot as the one before left it. -/
def sequenceOf : List (Stages τ) → Option Metadata → δ → τ →
    List (List StageCall × Action × δ × τ)
  | [], _, _, _ => []
  | stages :: packets, slot, store, world =>
    let outcome := dispatch stages slot store world
    (callsOf stages slot store world, outcome.action, outcome.store, outcome.world) ::
      sequenceOf packets outcome.slot outcome.store outcome.world

/-- **Nothing leaks from packet to packet** either: what the slot held before the first one is
never seen. -/
theorem sequence_slot_contents (packets : List (Stages τ)) (store : δ) (world : τ)
    (contents other : Metadata) :
    sequenceOf packets (some contents) store world =
      sequenceOf packets (some other) store world := by
  -- Either a packet hands on the two slots as they are, or it makes them equal for good.
  induction packets generalizing store world with
  | nil => rfl
  | cons stages packets ih =>
      unfold sequenceOf
      by_cases hbridged : IsBridged store
      · rw [callsOf_slot_contents stages world store contents other,
          dispatch_of_isBridged stages world hbridged (some contents) none,
          dispatch_of_isBridged stages world hbridged (some other) none]
        exact congrArg _ (ih _ _)
      · rw [callsOf_slot_contents stages world store contents other,
          dispatch_of_not_isBridged stages world hbridged contents other]

end VideoGate
