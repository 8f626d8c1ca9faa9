import VideoGate.Dispatch.Stage
import VideoGate.Dispatch.Store

/-!
# The dispatcher

Every packet is admitted, and either bridged to the peer or led through the two stages: stage
1 may call for stage 2, stage 2 may return to stage 1, and the walk ends with a stage that
drops the packet, that routes it to the output interface, or with the budget of hops and visits
used up.

A walk is written as two visits that each either finish it or lead on (`visitFirst`,
`visitSecond`), and `Walk.run` alternates them as often as there are hops.
-/

namespace VideoGate

open DispatchStore

variable {δ τ : Type} [DispatchStore δ]

def maxHops : Nat := 8

/-- Most visits to one stage, as the metadata counts them. -/
def maxVisits : UInt32 := 4

/-- Sends a packet out through the output interface, or passes it if there is none. -/
def routeToOutput (store : δ) : Action × δ :=
  match read .output store with
  | (some interface, store) =>
    if 0 < interface then (.redirect interface, bump .outputRedirects store)
    else (.pass, store)
  | (none, store) => (.pass, store)

/-- Does a stage's answer drop the packet, by its verdict or by the decision that it left? -/
def drops (disposition : Disposition) (metadata : Metadata) : Bool :=
  disposition == .drop || metadata.decision? == some .drop

/-- A packet on its way through the stages. -/
structure Walk (δ τ : Type) where
  metadata : Metadata
  store : δ
  world : τ

/-- What one visit leads to. -/
inductive Progress (δ τ : Type) where
  | finished (action : Action) (walk : Walk δ τ)
  | goesOn (walk : Walk δ τ)

namespace Walk

def finishAtOutput (walk : Walk δ τ) : Progress δ τ :=
  let (action, store) := routeToOutput walk.store
  .finished action { walk with store }

/-- Visits stage 1, unless its visits are used up.  The walk goes on to stage 2 only if the
stage calls for it and stage 2 is enabled. -/
def visitFirst (stages : Stages τ) (walk : Walk δ τ) : Progress δ τ :=
  if walk.metadata.stage1Visits < maxVisits then
    let entry := { walk.metadata with stage1Visits := walk.metadata.stage1Visits + 1 }
    let store := bump .stage1 walk.store
    let (disposition, metadata, world) := stages.first entry walk.world
    if drops disposition metadata then
      .finished .drop { metadata, store, world }
    else if metadata.decision? = some .callNext then
      match isEnabled .stage2 store with
      | (true, store) => .goesOn { metadata, store, world }
      | (false, store) => .finished .pass { metadata, store, world }
    else
      finishAtOutput { metadata, store, world }
  else
    .goesOn walk

/-- Visits stage 2, unless its visits are used up.  The walk goes on, to stage 1 again, only if
the stage returns. -/
def visitSecond (stages : Stages τ) (walk : Walk δ τ) : Progress δ τ :=
  if walk.metadata.stage2Visits < maxVisits then
    let entry := { walk.metadata with stage2Visits := walk.metadata.stage2Visits + 1 }
    let store := bump .stage2 walk.store
    let (disposition, metadata, world) := stages.second entry walk.world
    if drops disposition metadata then
      .finished .drop { metadata, store, world }
    else if metadata.decision? = some .return then
      .goesOn { metadata := metadata.leave .callNext, store, world }
    else
      finishAtOutput { metadata, store, world }
  else
    .finished .pass walk

def run (stages : Stages τ) : Nat → Walk δ τ → Action × Walk δ τ
  | 0, walk => (.pass, walk)
  | hops + 1, walk =>
    match walk.visitFirst stages with
    | .finished action walk => (action, walk)
    | .goesOn walk =>
      match walk.visitSecond stages with
      | .finished action walk => (action, walk)
      | .goesOn walk => run stages hops walk

end Walk

/-! ## One packet -/

structure Outcome (δ τ : Type) where
  action : Action
  place : MetadataSlot
  store : δ
  world : τ

namespace Outcome

def slot (outcome : Outcome δ τ) : Option Metadata := outcome.place.contents

def fetched (outcome : Outcome δ τ) : Bool := outcome.place.isFetched

end Outcome

/-- Runs one packet.  The metadata slot is fetched only if the packet is not bridged; a missing slot
lets the packet pass. -/
def dispatch (stages : Stages τ) (slot : Option Metadata) (store : δ) (world : τ) :
    Outcome δ τ :=
  let place : MetadataSlot := { contents := slot }
  let store := bump .admitted store
  match bridgePeer? store with
  | (some peer, store) => { action := .redirect peer, place, store := bump .bridged store, world }
  | (none, store) =>
    match place.fetch with
    | (none, place) => { action := .pass, place, store, world }
    | (some metadata, place) =>
      let metadata := metadata.reset
      match isEnabled .stage1 store with
      | (false, store) => { action := .pass, place := place.put metadata, store, world }
      | (true, store) =>
        let (action, walk) := Walk.run stages maxHops { metadata, store, world }
        { action, place := place.put walk.metadata, store := walk.store, world := walk.world }

end VideoGate
