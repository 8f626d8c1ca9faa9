import VideoGate.Dispatch.Walk

/-!
# The dispatcher over related stores

The dispatcher knows its store and its stages only by what they answer.  Two runs over stores
that answer alike (`StoresAlike`), with stages that answer alike (`StagesAlike`), treat a packet
alike (`dispatch_alike`).  The same holds of one run that is watched and one that is not.
-/

namespace VideoGate

open DispatchStore

/-- Two results: the answers are the same, and what is left is related. -/
structure Agree {α β γ : Type} (related : β → γ → Prop) (a : α × β) (b : α × γ) : Prop where
  answer : a.1 = b.1
  rest : related a.2 b.2

theorem Agree.exists_eq {α β γ : Type} {related : β → γ → Prop} {a : α × β} {b : α × γ}
    (h : Agree related a b) :
    ∃ answer left right, a = (answer, left) ∧ b = (answer, right) ∧ related left right :=
  ⟨a.1, a.2, b.2, rfl, Prod.ext h.answer.symm rfl, h.rest⟩

section Alike

variable {δ δ' τ τ' : Type} [DispatchStore δ] [DispatchStore δ'] {stores : δ → δ' → Prop}
  {worlds : τ → τ' → Prop}

/-- Related stores answer alike and stay related. -/
structure StoresAlike (stores : δ → δ' → Prop) : Prop where
  bump : ∀ counter {a b}, stores a b → stores (bump counter a) (bump counter b)
  read : ∀ setting {a b}, stores a b → Agree stores (read setting a) (read setting b)

theorem storesAlike_eq : StoresAlike (Eq : δ → δ → Prop) := by
  constructor
  · rintro counter a b rfl
    rfl
  · rintro setting a b rfl
    exact ⟨rfl, rfl⟩

/-- In related worlds the stages give the same disposition, leave the same metadata, and lead to
related worlds again. -/
def StagesAlike (worlds : τ → τ' → Prop) (a : Stage τ) (b : Stage τ') : Prop :=
  ∀ metadata {world world'}, worlds world world' →
    Agree (Agree worlds) (a metadata world) (b metadata world')

/-- Two walks with the same metadata, in related stores and worlds. -/
structure Walk.Alike (stores : δ → δ' → Prop) (worlds : τ → τ' → Prop) (a : Walk δ τ)
    (b : Walk δ' τ') : Prop where
  metadata : a.metadata = b.metadata
  store : stores a.store b.store
  world : worlds a.world b.world

/-- Two visits that both finish their walk with the same action, or that both go on. -/
inductive Progress.Alike (stores : δ → δ' → Prop) (worlds : τ → τ' → Prop) :
    Progress δ τ → Progress δ' τ' → Prop
  | finished (action : Action) {a : Walk δ τ} {b : Walk δ' τ'} :
      a.Alike stores worlds b →
      Progress.Alike stores worlds (.finished action a) (.finished action b)
  | goesOn {a : Walk δ τ} {b : Walk δ' τ'} :
      a.Alike stores worlds b → Progress.Alike stores worlds (.goesOn a) (.goesOn b)

structure Outcome.Alike (stores : δ → δ' → Prop) (worlds : τ → τ' → Prop) (a : Outcome δ τ)
    (b : Outcome δ' τ') : Prop where
  action : a.action = b.action
  slot : a.slot = b.slot
  fetched : a.fetched = b.fetched
  store : stores a.store b.store
  world : worlds a.world b.world

/-! ## Reading the settings -/

section Store

variable (hstores : StoresAlike stores) {a : δ} {b : δ'} (h : stores a b)
include hstores h

theorem isEnabled_alike (setting : Setting) :
    Agree stores (isEnabled setting a) (isEnabled setting b) := by
  obtain ⟨hvalue, hrest⟩ := hstores.read setting h
  exact ⟨congrArg (· == some Setting.enabled) hvalue, hrest⟩

theorem bridgePeer?_alike : Agree stores (bridgePeer? a) (bridgePeer? b) := by
  obtain ⟨on, a', b', ha, hb, hrest⟩ := (isEnabled_alike hstores h .bridge).exists_eq
  unfold bridgePeer?
  rw [ha, hb]
  cases on with
  | false => exact ⟨rfl, hrest⟩
  | true =>
      obtain ⟨hpeer, hrest⟩ := hstores.read .peer hrest
      exact ⟨congrArg (Option.filter (0 < ·)) hpeer, hrest⟩

theorem routeToOutput_alike : Agree stores (routeToOutput a) (routeToOutput b) := by
  obtain ⟨value, a', b', ha, hb, hrest⟩ := (hstores.read .output h).exists_eq
  unfold routeToOutput
  rw [ha, hb]
  cases value with
  | none => exact ⟨rfl, hrest⟩
  | some interface =>
      by_cases hset : 0 < interface
      · simp only [if_pos hset]
        exact ⟨rfl, hstores.bump .outputRedirects hrest⟩
      · simp only [if_neg hset]
        exact ⟨rfl, hrest⟩

end Store

/-! ## Visits -/

section Visits

variable (hstores : StoresAlike stores) {stages : Stages τ} {stages' : Stages τ'}
  (hfirst : StagesAlike worlds stages.first stages'.first)
  (hsecond : StagesAlike worlds stages.second stages'.second)
include hstores

theorem finishAtOutput_alike {a : Walk δ τ} {b : Walk δ' τ'} (h : a.Alike stores worlds b) :
    Progress.Alike stores worlds a.finishAtOutput b.finishAtOutput := by
  obtain ⟨action, store, store', ha, hb, hrest⟩ :=
    (routeToOutput_alike hstores h.store).exists_eq
  unfold Walk.finishAtOutput
  rw [ha, hb]
  exact .finished action ⟨h.metadata, hrest, h.world⟩

include hfirst in
theorem visitFirst_alike {a : Walk δ τ} {b : Walk δ' τ'} (h : a.Alike stores worlds b) :
    Progress.Alike stores worlds (a.visitFirst stages) (b.visitFirst stages') := by
  obtain ⟨metadata, a, world⟩ := a
  obtain ⟨_, b, world'⟩ := b
  obtain ⟨rfl, hstore, hworld⟩ := h
  unfold Walk.visitFirst
  by_cases hvisits : metadata.stage1Visits < maxVisits
  · simp only [if_pos hvisits]
    have hbumped := hstores.bump .stage1 hstore
    obtain ⟨hdisposition, hmetadata, hworld⟩ :=
      hfirst { metadata with stage1Visits := metadata.stage1Visits + 1 } hworld
    rw [hdisposition, hmetadata]
    split
    · exact .finished .drop ⟨rfl, hbumped, hworld⟩
    split
    · obtain ⟨on, a', b', ha, hb, hrest⟩ :=
        (isEnabled_alike hstores hbumped .stage2).exists_eq
      rw [ha, hb]
      cases on with
      | false => exact .finished .pass ⟨rfl, hrest, hworld⟩
      | true => exact .goesOn ⟨rfl, hrest, hworld⟩
    · exact finishAtOutput_alike hstores ⟨rfl, hbumped, hworld⟩
  · simp only [if_neg hvisits]
    exact .goesOn ⟨rfl, hstore, hworld⟩

include hsecond in
theorem visitSecond_alike {a : Walk δ τ} {b : Walk δ' τ'} (h : a.Alike stores worlds b) :
    Progress.Alike stores worlds (a.visitSecond stages) (b.visitSecond stages') := by
  obtain ⟨metadata, a, world⟩ := a
  obtain ⟨_, b, world'⟩ := b
  obtain ⟨rfl, hstore, hworld⟩ := h
  unfold Walk.visitSecond
  by_cases hvisits : metadata.stage2Visits < maxVisits
  · simp only [if_pos hvisits]
    have hbumped := hstores.bump .stage2 hstore
    obtain ⟨hdisposition, hmetadata, hworld⟩ :=
      hsecond { metadata with stage2Visits := metadata.stage2Visits + 1 } hworld
    rw [hdisposition, hmetadata]
    split
    · exact .finished .drop ⟨rfl, hbumped, hworld⟩
    split
    · exact .goesOn ⟨rfl, hbumped, hworld⟩
    · exact finishAtOutput_alike hstores ⟨rfl, hbumped, hworld⟩
  · simp only [if_neg hvisits]
    exact .finished .pass ⟨rfl, hstore, hworld⟩

include hfirst hsecond

theorem run_alike (hops : Nat) {a : Walk δ τ} {b : Walk δ' τ'} (h : a.Alike stores worlds b) :
    Agree (Walk.Alike stores worlds) (Walk.run stages hops a) (Walk.run stages' hops b) := by
  induction hops generalizing a b with
  | zero => exact ⟨rfl, h⟩
  | succ hops ih =>
      have hprogress := visitFirst_alike hstores hfirst h
      unfold Walk.run
      generalize a.visitFirst stages = pa at hprogress ⊢
      generalize b.visitFirst stages' = pb at hprogress ⊢
      cases hprogress with
      | finished action h => exact ⟨rfl, h⟩
      | @goesOn a b h =>
          have hprogress := visitSecond_alike hstores hsecond h
          dsimp only
          generalize a.visitSecond stages = pa at hprogress ⊢
          generalize b.visitSecond stages' = pb at hprogress ⊢
          cases hprogress with
          | finished action h => exact ⟨rfl, h⟩
          | goesOn h => exact ih h

/-- **Runs that are alike treat a packet alike.** -/
theorem dispatch_alike (slot : Option Metadata) {store : δ} {store' : δ'} {world : τ} {world' : τ'}
    (hstore : stores store store') (hworld : worlds world world') :
    Outcome.Alike stores worlds (dispatch stages slot store world)
      (dispatch stages' slot store' world') := by
  obtain ⟨peer?, a, b, ha, hb, hrest⟩ :=
    (bridgePeer?_alike hstores (hstores.bump .admitted hstore)).exists_eq
  unfold dispatch
  simp only [ha, hb]
  cases peer? with
  | some peer => exact ⟨rfl, rfl, rfl, hstores.bump .bridged hrest, hworld⟩
  | none =>
      cases slot with
      | none => exact ⟨rfl, rfl, rfl, hrest, hworld⟩
      | some metadata =>
          obtain ⟨on, a, b, ha, hb, hrest⟩ := (isEnabled_alike hstores hrest .stage1).exists_eq
          simp only [ha, hb]
          cases on with
          | false => exact ⟨rfl, rfl, rfl, hrest, hworld⟩
          | true =>
              have hstart : Walk.Alike stores worlds ⟨.fresh, a, world⟩ ⟨.fresh, b, world'⟩ :=
                ⟨rfl, hrest, hworld⟩
              obtain ⟨haction, hwalk⟩ := run_alike hstores hfirst hsecond maxHops hstart
              exact ⟨haction, congrArg some hwalk.metadata, rfl, hwalk.store, hwalk.world⟩

end Visits

end Alike

end VideoGate
