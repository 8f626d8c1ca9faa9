import Mathlib.Data.List.Forall2
import VideoGate.Proofs.Frame.Window
import VideoGate.Proofs.Program.Host
import VideoGate.Proofs.Video.Piece

/-!
# The programs refine the host

`HostMaps.ofMaps` reads the arrays of the programs as tables in memory.  A packet that runs
through the programs does to the arrays what the host run does to these tables, and gets the same
action (`runProgram_refines`); so do all packets of a sequence (`program_refines_host`).  It takes
that look-ups succeed, that no address within reach of a frame wraps, and that the helper that
sends packets out says so.
-/

namespace VideoGate

/-! ## Arrays as tables -/

namespace DispatchTables

/-- The tables that hold what the arrays hold, every setting readable. -/
def ofArrays (arrays : DispatchArrays) : DispatchTables where
  counters := arrays.counters
  stage1 := arrays.control[0]
  stage2 := arrays.control[1]
  peer := arrays.interfaces[0]
  bridge := arrays.interfaces[1]
  output := arrays.interfaces[2]
  unreadable := []

/-- The look-ups in the arrays succeed, and the tables hold what they hold. -/
def Reflects (arrays : DispatchArrays) (tables : DispatchTables) : Prop :=
  arrays.unreachable = [] ∧ tables = ofArrays arrays

theorem reflects_alike : StoresAlike Reflects := by
  constructor
  · rintro counter arrays _ ⟨hfound, rfl⟩
    show Reflects (arrays.bump counter) ((ofArrays arrays).bump counter)
    unfold DispatchArrays.bump
    rw [hfound, if_neg List.not_mem_nil]
    exact ⟨rfl, rfl⟩
  · rintro setting arrays _ ⟨hfound, rfl⟩
    refine ⟨?_, hfound, rfl⟩
    show arrays.setting? setting = (ofArrays arrays).get? setting
    unfold DispatchArrays.setting?
    rw [hfound, if_neg List.not_mem_nil]
    cases setting <;> rfl

end DispatchTables

/-- The tables that hold what the arrays hold, every camera present. -/
def VideoTables.ofArrays (arrays : VideoArrays) : VideoTables where
  stats := arrays.stats
  cameras := arrays.cameraModes.map fun raw => { raw, present := true }
  globalRaw := arrays.globalMode
  globalReadable := true
  pFrame := arrays.pFrame != 0
  position := arrays.position

namespace VideoMemory

def ofArrays (arrays : VideoArrays) : VideoMemory where
  tables := .ofArrays arrays
  pFrameWord := arrays.pFrame
  flag_eq := rfl

/-- The look-ups in the arrays succeed, and the memory holds what they hold. -/
def Reflects (arrays : VideoArrays) (memory : VideoMemory) : Prop :=
  arrays.unreachable = [] ∧ memory = ofArrays arrays

theorem cameraRaw?_ofArrays (arrays : VideoArrays) (camera : UInt32) :
    (VideoTables.ofArrays arrays).cameraRaw? camera = arrays.cameraModes[camera.toNat]? := by
  unfold VideoTables.cameraRaw? VideoTables.ofArrays
  rw [Vector.getElem?_map]
  cases arrays.cameraModes[camera.toNat]? <;> rfl

theorem setCameraRaw_ofArrays (arrays : VideoArrays) (camera raw : UInt32) :
    (VideoTables.ofArrays arrays).setCameraRaw camera raw =
      .ofArrays { arrays with
        cameraModes := arrays.cameraModes.setIfInBounds camera.toNat raw } := by
  unfold VideoTables.setCameraRaw VideoTables.ofArrays
  rw [Vector.map_setIfInBounds]

theorem reflects_alike : VideoStoresAlike Reflects := by
  constructor
  · rintro stat arrays _ ⟨hfound, rfl⟩
    show Reflects (arrays.count stat) _
    unfold VideoArrays.count
    rw [hfound, if_neg List.not_mem_nil]
    exact ⟨rfl, rfl⟩
  · rintro camera arrays _ ⟨hfound, rfl⟩
    show (if .cameraModes ∈ arrays.unreachable then none else _) =
      (VideoTables.ofArrays arrays).cameraRaw? camera
    rw [hfound, if_neg List.not_mem_nil, cameraRaw?_ofArrays]
  · rintro camera mode arrays _ ⟨hfound, rfl⟩
    show Reflects (if .cameraModes ∈ arrays.unreachable then _ else _) _
    rw [hfound, if_neg List.not_mem_nil]
    exact ⟨rfl, VideoMemory.ext (setCameraRaw_ofArrays ..) rfl⟩
  · rintro arrays _ ⟨hfound, rfl⟩
    show (if .globalMode ∈ arrays.unreachable then none else _) = some arrays.globalMode
    rw [hfound, if_neg List.not_mem_nil]
  · rintro arrays _ ⟨hfound, rfl⟩
    show (if .pFrame ∈ arrays.unreachable then false else _) = (arrays.pFrame != 0)
    rw [hfound, if_neg List.not_mem_nil]
  · rintro inProgress arrays _ ⟨hfound, rfl⟩
    show Reflects (if .pFrame ∈ arrays.unreachable then _ else _) _
    rw [hfound, if_neg List.not_mem_nil]
    cases inProgress <;> exact ⟨rfl, rfl⟩
  · rintro position arrays _ ⟨hfound, rfl⟩
    show Reflects (if .position ∈ arrays.unreachable then _ else _) _
    rw [hfound, if_neg List.not_mem_nil]
    exact ⟨rfl, rfl⟩

end VideoMemory

/-! ## Slots as stages -/

namespace SlotProgram

/-- What a stage answers comes through the return code unchanged. -/
theorem toStage_ofStage (stage : Stage VideoArrays) (frame : MemoryWindow) :
    (ofStage stage).toStage frame = stage := by
  funext metadata arrays
  show (Disposition.ofCode (stage metadata arrays).1.toCode, (stage metadata arrays).2) = _
  rw [Disposition.ofCode_toCode]

theorem toStage_videoFilter (frame : MemoryWindow) :
    videoFilter.toStage frame = Stage.video frame := by
  funext metadata arrays
  have hverdict := Disposition.ofCode_toCode (VideoFilter.process frame arrays).1
  exact congrArg (·, metadata, (VideoFilter.process frame arrays).2) hverdict

end SlotProgram

theorem Binding.stages_eq_stagesOver (binding : Binding) (frame : MemoryWindow) :
    binding.stages frame = binding.stagesOver frame := by
  obtain ⟨first, second⟩ := binding
  have hfirst : (firstProgram ⟨first, second⟩).toStage frame =
      if first then .passThrough else .default := by
    cases first with
    | false => exact SlotProgram.toStage_ofStage .default frame
    | true => exact SlotProgram.toStage_ofStage .passThrough frame
  have hsecond : (secondProgram ⟨first, second⟩).toStage frame =
      if second then .video frame else .default := by
    cases second with
    | false => exact SlotProgram.toStage_ofStage .default frame
    | true => exact SlotProgram.toStage_videoFilter frame
  unfold stages stagesOver
  rw [hfirst, hsecond]

/-! ## One packet -/

/-- What the helper that sends packets out answers when it takes the packet. -/
def redirectCode : UInt32 := 4

namespace Action

/-- The return code that stands for the action. -/
def code : Action → UInt32
  | pass => passCode.toUInt32
  | drop => dropCode.toUInt32
  | redirect _ => redirectCode

/-- The calls of the helper that the action takes. -/
def redirects : Action → List RedirectCall
  | pass | drop => []
  | redirect interface => [{ interface, flags := 0 }]

end Action

/-- All look-ups succeed. -/
structure ProgramMaps.AllFound (maps : ProgramMaps) : Prop where
  dispatch : maps.dispatch.unreachable = []
  video : maps.video.unreachable = []
  metadata : maps.metadataFound = true

namespace HostMaps

/-- What the programs keep, as tables in memory. -/
def ofMaps (maps : ProgramMaps) : HostMaps VideoMemory where
  dispatcher := .ofArrays maps.dispatch
  video := .ofArrays maps.video
  metadata := maps.metadata

/-- The words of the tables, laid out as in the arrays of the programs. -/
def words (maps : HostMaps VideoMemory) : MapName → List UInt64
  | .counters => maps.dispatcher.counters.toList
  | .control => [maps.dispatcher.stage1, maps.dispatcher.stage2].map (·.toUInt64)
  | .interfaces =>
    [maps.dispatcher.peer, maps.dispatcher.bridge, maps.dispatcher.output].map (·.toUInt64)
  | .metadata =>
    [maps.metadata.stage1Visits, maps.metadata.stage2Visits, maps.metadata.rawDecision,
      maps.metadata.flow].map (·.toUInt64)
  | .globalMode => [maps.video.tables.globalRaw.toUInt64]
  | .cameraModes => maps.video.tables.cameras.toList.map (·.raw.toUInt64)
  | .pFrame => [maps.video.pFrameWord.toUInt64]
  | .position =>
    [maps.video.tables.position.x, maps.video.tables.position.y].map (·.toUInt64)
  | .videoStats => maps.video.tables.stats.toList

theorem toList_control {α : Type} (v : Vector α controlSize) : [v[0], v[1]] = v.toList := by
  match v with
  | ⟨⟨[a, b]⟩, _⟩ => rfl

theorem toList_interfaces {α : Type} (v : Vector α interfacesSize) :
    [v[0], v[1], v[2]] = v.toList := by
  match v with
  | ⟨⟨[a, b, c]⟩, _⟩ => rfl

theorem words_ofMaps (maps : ProgramMaps) (map : MapName) :
    (ofMaps maps).words map = maps.words map := by
  cases map with
  | control => exact congrArg (List.map _) (toList_control maps.dispatch.control)
  | interfaces => exact congrArg (List.map _) (toList_interfaces maps.dispatch.interfaces)
  | cameraModes =>
      show ((maps.video.cameraModes.map _).toList).map _ = maps.video.cameraModes.toList.map _
      rw [Vector.toList_map, List.map_map]
      rfl
  | counters | metadata | globalMode | pFrame | position | videoStats => rfl

end HostMaps

/-- A packet through the programs and one on the host: the same action was taken, nothing was
reported, and everything kept is the same. -/
structure Matches (run : ProgramRun) (host : Action × HostMaps VideoMemory) : Prop where
  code : run.code = host.1.code
  redirects : run.redirects = host.1.redirects
  records : run.records = []
  words : ∀ map, run.maps.words map = host.2.words map

section Refinement

variable (binding : Binding) {redirect : RedirectCall → UInt32}
  (hredirect : ∀ interface, redirect { interface, flags := 0 } = redirectCode)
  {maps : ProgramMaps} (hfound : maps.AllFound)
include hredirect hfound

/-- The program is its dispatcher, with the action given as a code. -/
theorem runProgram_eq (window : MemoryWindow) :
    runProgram binding redirect window maps =
      let outcome := dispatch (binding.stagesOver window) (some maps.metadata) maps.dispatch
        maps.video
      { code := outcome.action.code
        redirects := outcome.action.redirects
        records := []
        maps :=
          { maps with
            dispatch := outcome.store
            video := outcome.world
            metadata := outcome.slot.getD maps.metadata } } := by
  unfold runProgram
  simp only [binding.stages_eq_stagesOver, hfound.metadata, if_true, Bool.not_true,
    Bool.and_false, Bool.false_eq_true, if_false]
  generalize dispatch (binding.stagesOver window) (some maps.metadata) maps.dispatch maps.video =
    outcome
  cases outcome.action with
  | pass => rfl
  | drop => rfl
  | redirect interface =>
      dsimp only [Action.code, Action.redirects]
      rw [hredirect]

/-- **A packet through the programs is a packet on the host.** -/
theorem runProgram_refines {window : MemoryWindow} {frame : Frame} (hframe : window.Covers frame) :
    let run := runProgram binding redirect window maps
    let host := HostMaps.run binding frame (.ofMaps maps)
    run.maps.AllFound ∧ host.2 = .ofMaps run.maps ∧ Matches run host := by
  intro run host
  obtain ⟨haction, hslot, -, ⟨hdispatch, hstore⟩, hvideo, hworld⟩ :=
    dispatch_stagesOver_alike binding DispatchTables.reflects_alike VideoMemory.reflects_alike
      (Traffic.classify_congr hframe.fetch_eq) (some maps.metadata) ⟨hfound.dispatch, rfl⟩
      ⟨hfound.video, rfl⟩
  have hrun : run = _ := runProgram_eq binding hredirect hfound window
  have hhost : host.2 = .ofMaps run.maps := by
    rw [hrun]
    exact HostMaps.ext hstore hworld (congrArg (·.getD maps.metadata) hslot.symm)
  refine ⟨?_, hhost, ?_⟩
  · rw [hrun]
    exact ⟨hdispatch, hvideo, hfound.metadata⟩
  · refine ⟨?_, ?_, ?_, fun map => ?_⟩
    · rw [hrun]
      exact congrArg Action.code haction
    · rw [hrun]
      exact congrArg Action.redirects haction
    · rw [hrun]
    · rw [hhost, HostMaps.words_ofMaps]

end Refinement

/-! ## Sequences of packets -/

/-- What the programs do with a sequence of frames, one run after another. -/
def programTrace (binding : Binding) (redirect : RedirectCall → UInt32) :
    List MemoryWindow → ProgramMaps → List ProgramRun
  | [], _ => []
  | window :: windows, maps =>
    let run := runProgram binding redirect window maps
    run :: programTrace binding redirect windows run.maps

/-- **The programs refine the host**: packet by packet they take the same actions and leave the
same words behind. -/
theorem program_refines_host (binding : Binding) {redirect : RedirectCall → UInt32}
    (hredirect : ∀ interface, redirect { interface, flags := 0 } = redirectCode)
    {maps : ProgramMaps} (hfound : maps.AllFound) {packets : List (MemoryWindow × Frame)}
    (hpackets : ∀ packet ∈ packets, packet.1.Covers packet.2) :
    let host := hostTrace binding (packets.map Prod.snd) (HostMaps.ofMaps maps)
    List.Forall₂ Matches (programTrace binding redirect (packets.map Prod.fst) maps) host ∧
      hostTrace binding (packets.map Prod.snd) (HostMaps.ofMaps maps).forget =
        host.map (Prod.map id HostMaps.forget) := by
  intro host
  refine ⟨?_, hostTrace_forget binding _ _⟩
  -- What is kept between packets is the invariant: the tables hold what the arrays hold.
  induction packets generalizing maps with
  | nil => exact .nil
  | cons packet packets ih =>
      obtain ⟨hframe, hpackets⟩ := List.forall_mem_cons.mp hpackets
      obtain ⟨hfound, hhost, hmatches⟩ := runProgram_refines binding hredirect hfound hframe
      refine .cons hmatches ?_
      rw [hhost]
      exact ih hfound hpackets

/-- Both slots bound and a P frame in progress at the start: of two frames of camera 0, the
fragment is dropped and the intra slice goes out. -/
theorem program_refines_host_two_frames :
    let binding : Binding := { first := true, second := true }
    let maps : ProgramMaps :=
      { ProgramMaps.empty with
        dispatch := { DispatchArrays.empty with control := #v[1, 1], interfaces := #v[0, 0, 7] }
        video :=
          { VideoArrays.empty with cameraModes := Vector.replicate _ 1, pFrame := 5 } }
    let frames := [(SampleFrame.video 0 (.fragment false true 1)).bytes,
      (SampleFrame.video 0 (.nalUnit 19)).bytes]
    let packets := frames.map fun frame => (MemoryWindow.ofFrame 4096 frame, frame)
    let host := hostTrace binding (packets.map Prod.snd) (HostMaps.ofMaps maps)
    maps.AllFound ∧ (∀ packet ∈ packets, packet.1.Covers packet.2) ∧
      host.map Prod.fst = [.drop, .redirect 7] ∧
      List.Forall₂ Matches
        (programTrace binding (fun _ => redirectCode) (packets.map Prod.fst) maps) host := by
  intro binding maps frames packets host
  have hfound : maps.AllFound := ⟨rfl, rfl, rfl⟩
  have hlengths : ∀ frame ∈ frames, frame.length < 100 := by decide +kernel
  have hpackets : ∀ packet ∈ packets, packet.1.Covers packet.2 := by
    refine List.forall_mem_map.mpr fun frame hframe => ?_
    have hlength := hlengths frame hframe
    refine MemoryWindow.ofFrame_covers ?_ (by decide)
    show 4096 + frame.length < 18446744073709551616
    omega
  exact ⟨hfound, hpackets, by decide +kernel,
    (program_refines_host binding (fun _ => rfl) hfound hpackets).1⟩

end VideoGate
