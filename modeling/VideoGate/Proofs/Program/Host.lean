import VideoGate.Proofs.Video.Simulation
import VideoGate.Program.Dispatcher
import VideoGate.Table.Dispatch
import VideoGate.Table.Video

/-!
# The pipeline on a host

On a host the same dispatcher runs over tables in memory, with the stages as plain functions and
the frame as a list of bytes.  `HostMaps.run` is one packet, and `hostTrace` a sequence of them.

The tables tell only whether a P frame is in progress.  `VideoMemory` also keeps the word that
says so; a run over it is a run over the tables (`hostTrace_forget`).
-/

namespace VideoGate

/-! ## The word of the P frame -/

/-- The tables of the video filter, with the word that stands for their flag. -/
@[ext]
structure VideoMemory where
  tables : VideoTables
  /-- Any value but zero says that a P frame is in progress. -/
  pFrameWord : UInt32
  flag_eq : tables.pFrame = (pFrameWord != 0)

instance : VideoStore VideoMemory where
  count stat memory := { memory with tables := memory.tables.count stat }
  cameraMode camera memory := memory.tables.cameraRaw? camera
  setCameraMode camera mode memory :=
    { memory with tables := memory.tables.setCameraRaw camera mode.toRaw }
  globalMode memory := memory.tables.globalRaw?
  pFrameInProgress memory := memory.pFrameWord != 0
  setPFrameInProgress inProgress memory :=
    { tables := { memory.tables with pFrame := inProgress }
      pFrameWord := if inProgress then 1 else 0
      flag_eq := by cases inProgress <;> rfl }
  recordPosition position memory := { memory with tables := { memory.tables with position } }

theorem VideoMemory.tables_alike :
    VideoStoresAlike fun (memory : VideoMemory) (tables : VideoTables) =>
      memory.tables = tables := by
  constructor
  · rintro stat memory _ rfl
    rfl
  · rintro camera memory _ rfl
    rfl
  · rintro camera mode memory _ rfl
    rfl
  · rintro memory _ rfl
    rfl
  · rintro memory _ rfl
    exact memory.flag_eq.symm
  · rintro inProgress memory _ rfl
    rfl
  · rintro position memory _ rfl
    rfl

/-! ## Stages -/

/-- The stages of a binding as plain functions, over any view of the frame and any store. -/
def Binding.stagesOver {π σ : Type} [FrameView π] [VideoStore σ] (binding : Binding) (view : π) :
    Stages σ where
  first := if binding.first then .passThrough else .default
  second := if binding.second then .video view else .default

section Stages

variable {π π' σ σ' : Type} [FrameView π] [FrameView π'] [VideoStore σ] [VideoStore σ']
  {videoStores : σ → σ' → Prop} (binding : Binding) {view : π} {view' : π'}

theorem first_alike :
    StagesAlike videoStores (binding.stagesOver view).first (binding.stagesOver view').first := by
  intro metadata world world' hworld
  unfold Binding.stagesOver
  cases binding.first <;> exact ⟨rfl, rfl, hworld⟩

theorem second_alike (hvideo : VideoStoresAlike videoStores)
    (hview : Traffic.classify view = Traffic.classify view') :
    StagesAlike videoStores (binding.stagesOver view).second
      (binding.stagesOver view').second := by
  intro metadata world world' hworld
  unfold Binding.stagesOver
  cases binding.second with
  | false => exact ⟨rfl, rfl, hworld⟩
  | true =>
      obtain ⟨hverdict, hrest⟩ := VideoFilter.process_alike hvideo hview hworld
      exact ⟨hverdict, rfl, hrest⟩

/-- A binding runs alike over stores that answer alike. -/
theorem dispatch_stagesOver_alike {δ δ' : Type} [DispatchStore δ] [DispatchStore δ']
    {stores : δ → δ' → Prop} (hstores : StoresAlike stores)
    (hvideo : VideoStoresAlike videoStores)
    (hview : Traffic.classify view = Traffic.classify view') (slot : Option Metadata) {store : δ}
    {store' : δ'} {world : σ} {world' : σ'} (hstore : stores store store')
    (hworld : videoStores world world') :
    Outcome.Alike stores videoStores (dispatch (binding.stagesOver view) slot store world)
      (dispatch (binding.stagesOver view') slot store' world') :=
  dispatch_alike hstores (first_alike binding) (second_alike binding hvideo hview) slot hstore
    hworld

end Stages

/-! ## Packets -/

/-- Everything that a host run keeps between packets. -/
@[ext]
structure HostMaps (σ : Type) where
  dispatcher : DispatchTables
  video : σ
  metadata : Metadata

namespace HostMaps

def run {σ : Type} [VideoStore σ] (binding : Binding) (frame : Frame) (maps : HostMaps σ) :
    Action × HostMaps σ :=
  let outcome :=
    dispatch (binding.stagesOver frame) (some maps.metadata) maps.dispatcher maps.video
  (outcome.action,
    { dispatcher := outcome.store
      video := outcome.world
      metadata := outcome.slot.getD maps.metadata })

def forget (maps : HostMaps VideoMemory) : HostMaps VideoTables :=
  { dispatcher := maps.dispatcher, video := maps.video.tables, metadata := maps.metadata }

theorem run_forget (binding : Binding) (frame : Frame) (maps : HostMaps VideoMemory) :
    run binding frame maps.forget = (run binding frame maps).map id forget := by
  have halike : Outcome.Alike Eq (fun (memory : VideoMemory) tables => memory.tables = tables)
      (dispatch (binding.stagesOver frame) (some maps.metadata) maps.dispatcher maps.video)
      (dispatch (binding.stagesOver frame) (some maps.metadata) maps.dispatcher
        maps.video.tables) :=
    dispatch_stagesOver_alike binding storesAlike_eq VideoMemory.tables_alike rfl
      (some maps.metadata) rfl rfl
  obtain ⟨haction, hslot, -, hstore, hworld⟩ := halike
  unfold run forget
  refine Prod.ext haction.symm ?_
  dsimp only [Prod.map_snd]
  rw [hslot, hstore, ← hworld]

end HostMaps

/-- The actions for a sequence of frames, with what is kept after each. -/
def hostTrace {σ : Type} [VideoStore σ] (binding : Binding) :
    List Frame → HostMaps σ → List (Action × HostMaps σ)
  | [], _ => []
  | frame :: frames, maps =>
    maps.run binding frame :: hostTrace binding frames (maps.run binding frame).2

/-- The word of the P frame can be left out of a run. -/
theorem hostTrace_forget (binding : Binding) (frames : List Frame) (maps : HostMaps VideoMemory) :
    hostTrace binding frames maps.forget =
      (hostTrace binding frames maps).map (Prod.map id HostMaps.forget) := by
  induction frames generalizing maps with
  | nil => rfl
  | cons frame frames ih =>
      unfold hostTrace
      rw [HostMaps.run_forget, List.map_cons, ← ih]
      rfl

end VideoGate
