import VideoGate.Proofs.Dispatch.Simulation
import VideoGate.Video.Filter

/-!
# The video filter over related stores

What the filter does with a frame depends on what its store answers and on nothing else of it:
over stores that answer alike (`VideoStoresAlike`) the filter gives the same verdicts, and leaves
stores that answer alike again (`VideoFilter.process_alike`).
-/

namespace VideoGate

open VideoStore

variable {σ σ' : Type} [VideoStore σ] [VideoStore σ']

/-- Related stores answer alike, and every operation keeps them related. -/
structure VideoStoresAlike (stores : σ → σ' → Prop) : Prop where
  count : ∀ stat {a b}, stores a b → stores (count stat a) (count stat b)
  cameraMode : ∀ camera {a b}, stores a b → cameraMode camera a = cameraMode camera b
  setCameraMode : ∀ camera mode {a b}, stores a b →
    stores (setCameraMode camera mode a) (setCameraMode camera mode b)
  globalMode : ∀ {a b}, stores a b → globalMode a = globalMode b
  pFrameInProgress : ∀ {a b}, stores a b → pFrameInProgress a = pFrameInProgress b
  setPFrameInProgress : ∀ inProgress {a b}, stores a b →
    stores (setPFrameInProgress inProgress a) (setPFrameInProgress inProgress b)
  recordPosition : ∀ position {a b}, stores a b →
    stores (recordPosition position a) (recordPosition position b)

namespace VideoFilter

variable {stores : σ → σ' → Prop} (hstores : VideoStoresAlike stores) {a : σ} {b : σ'}
include hstores

theorem countAll_alike (stats : List VideoStat) (h : stores a b) :
    stores (countAll stats a) (countAll stats b) := by
  induction stats generalizing a b with
  | nil => exact h
  | cons stat stats ih => exact ih (hstores.count stat h)

theorem writeModes_alike (position : Position) (h : stores a b) :
    stores (writeModes position a) (writeModes position b) := by
  unfold writeModes
  induction Camera.modesAt position generalizing a b with
  | nil => exact h
  | cons entry entries ih => exact ih (hstores.setCameraMode entry.1 entry.2 h)

theorem applyPosition_alike (position : Position) (h : stores a b) :
    Agree stores (applyPosition position a) (applyPosition position b) := by
  have hrecorded := hstores.recordPosition position h
  unfold applyPosition
  cases position.inRange with
  | false => exact ⟨rfl, hrecorded⟩
  | true => exact ⟨rfl, hstores.count _ (writeModes_alike hstores position hrecorded)⟩

theorem forward_alike (h : stores a b) : Agree stores (forward a) (forward b) :=
  ⟨rfl, hstores.count .forwarded h⟩

theorem dropSlice_alike (h : stores a b) : Agree stores (dropSlice a) (dropSlice b) :=
  ⟨rfl, countAll_alike hstores _ h⟩

theorem activeMode_alike (camera : UInt32) (h : stores a b) :
    Agree stores (activeMode camera a) (activeMode camera b) := by
  unfold activeMode
  rw [hstores.cameraMode camera h]
  cases cameraMode camera b with
  | some raw => exact ⟨rfl, h⟩
  | none =>
      have hcounted := hstores.count .lookupFailed h
      dsimp only
      rw [hstores.globalMode hcounted]
      exact ⟨rfl, hcounted⟩

theorem decideFragment_alike (header : Wire.FragmentHeader) (h : stores a b) :
    Agree stores (decideFragment header a) (decideFragment header b) := by
  -- The flag is read before anything is written, so both runs take the same branches.
  have hstart : stores (if header.isStart then count .fragmentStarts a else a)
      (if header.isStart then count .fragmentStarts b else b) := by
    split
    · exact hstores.count .fragmentStarts h
    · exact h
  unfold decideFragment
  simp only [hstores.pFrameInProgress h]
  generalize (if header.isStart then count .fragmentStarts a else a) = a' at hstart ⊢
  generalize (if header.isStart then count .fragmentStarts b else b) = b' at hstart ⊢
  have hopened : ∀ opens : Bool, stores (if opens then setPFrameInProgress true a' else a')
      (if opens then setPFrameInProgress true b' else b') := by
    intro opens
    split
    · exact hstores.setPFrameInProgress true hstart
    · exact hstart
  have hopened := hopened (header.isStart && Wire.isPSlice header.innerType)
  split
  · refine dropSlice_alike hstores ?_
    split
    · exact hstores.setPFrameInProgress false hopened
    · exact hopened
  · exact forward_alike hstores hopened

theorem decidePayload_alike (payload : VideoPayload) (h : stores a b) :
    Agree stores (decidePayload payload a) (decidePayload payload b) := by
  cases payload with
  | truncated => exact forward_alike hstores h
  | single nalType =>
      unfold decidePayload
      dsimp only
      split
      · exact dropSlice_alike hstores h
      · exact forward_alike hstores h
  | fragment header => exact decideFragment_alike hstores header h

theorem decideVideo_alike (camera : UInt32) (payload : VideoPayload) (h : stores a b) :
    Agree stores (decideVideo camera payload a) (decideVideo camera payload b) := by
  obtain ⟨mode, a', b', ha, hb, hrest⟩ := (activeMode_alike hstores camera h).exists_eq
  simp only [decideVideo_eq]
  rw [ha, hb]
  cases mode with
  | off => exact forward_alike hstores (hstores.count .modeOff hrest)
  | dropP => exact decidePayload_alike hstores payload (hstores.count .modeDropP hrest)
  | forwardP => exact decidePayload_alike hstores payload (hstores.count .modeForwardP hrest)

theorem decideTraffic_alike (traffic : Traffic) (h : stores a b) :
    Agree stores (decideTraffic traffic a) (decideTraffic traffic b) := by
  have hcounted := countAll_alike hstores
    (.stageEntries :: .totalPackets :: countedOnTheWay traffic) h
  cases traffic with
  | notIpv4 | notUdp | malformedIpv4 | otherHost | otherPort | noCamera =>
      exact forward_alike hstores hcounted
  | truncatedUdp | truncatedRtp | otherVersion => exact ⟨rfl, hcounted⟩
  | position record =>
      cases record with
      | none => exact ⟨rfl, hcounted⟩
      | some position => exact ⟨rfl, (applyPosition_alike hstores position hcounted).rest⟩
  | video camera payload => exact decideVideo_alike hstores camera payload hcounted

/-- **Over related stores the filter gives the same verdict**, also through two views that show
traffic of the same class. -/
theorem process_alike {π π' : Type} [FrameView π] [FrameView π'] {view : π} {view' : π'}
    (hview : Traffic.classify view = Traffic.classify view') (h : stores a b) :
    Agree stores (process view a) (process view' b) := by
  simp only [process_eq]
  rw [hview]
  exact decideTraffic_alike hstores (Traffic.classify view') h

end VideoFilter

end VideoGate
