import VideoGate.Proofs.System.PinnedWords
import VideoGate.Proofs.Video.Tracking
import VideoGate.Robot.Sink
import VideoGate.Robot.Route

/-!
# The two ways of a position

The robot publishes a position as a datagram, which the filter takes in, or writes it into the maps
itself.  Both ways leave the same maps (`robot_paths_agree`): every position of a route is in range,
so the filter accepts it, and then it writes the modes that the robot would have written.
-/

namespace VideoGate

open VideoStore VideoFilter

/-! ## The packet -/

/-- A packet to the position port whose payload begins with the bytes of a position. -/
structure Frame.Carries (frame : Frame) (position : Position) : Prop extends frame.IsPosition where
  payload : (Wire.WireHeader.encode position).toList <+: frame.drop (22 + frame.networkLength)

theorem Traffic.classify_of_carries {frame : Frame} {position : Position}
    (h : frame.Carries position) : classify frame = .position (some position) := by
  have hbound := frame.networkLength_le
  have hsize : 22 + frame.networkLength + Wire.WireHeader.size Position < UInt64.size := by
    show 22 + frame.networkLength + 8 < 2 ^ 64
    omega
  refine (classify_eq_position_iff frame).mpr ⟨h.toIsPosition, ?_⟩
  exact Frame.read?_of_isPrefix h.payload h.udp hsize

/-- **The filter accepts a position in range**, and its tables are those of the direct way. -/
theorem process_of_carries {frame : Frame} {position : Position} (h : frame.Carries position)
    (hrange : position.inRange = true) (tables : VideoTables) :
    (process frame tables).1 = .pass ∧
      (process frame tables).2.stat .positionsApplied =
        Counter.increment (tables.stat .positionsApplied) ∧
      (process frame tables).2.cameras = (tables.withPosition position).cameras ∧
      (process frame tables).2.position = (tables.withPosition position).position := by
  obtain ⟨counted, -, hcameras, hstat, hstep⟩ :=
    process_of_classify_position tables (Traffic.classify_of_carries h)
  rw [hstep, VideoTables.applyPosition_of_inRange hrange]
  dsimp only
  refine ⟨rfl, ?_, ?_, rfl⟩
  · rw [VideoTables.stat_count_self, VideoTables.stat_withPosition, hstat]
  · unfold VideoTables.withPosition
    rw [← hcameras]
    rfl

/-! ## The maps -/

/-- The words of the entries and the position of some tables are in open maps. -/
structure VideoTables.PinnedAt (tables : VideoTables) (maps : PositionMaps) (files : Files) :
    Prop where
  cameras : files.WordsAt maps.cameras.place (tables.cameras.toList.map CameraEntry.raw)
  camerasSize : maps.cameras.size = Camera.capacity
  position : files.WordsAt maps.position.place [tables.position.x, tables.position.y]
  positionSize : maps.position.size = 2
  apart : maps.cameras.place ≠ maps.position.place

theorem Camera.lt_capacity_of_mem_modesAt (position : Position) :
    ∀ entry ∈ modesAt position, entry.1.toNat < capacity := by
  intro entry hentry
  obtain ⟨id, hid, rfl⟩ := List.mem_map.mp hentry
  have hid := List.mem_range.mp hid
  have hword : (UInt32.ofNat id).toNat = id :=
    UInt32.toNat_ofNat_of_lt' (Nat.lt_trans hid (by decide))
  dsimp only
  rw [hword]
  exact Nat.lt_trans hid (by decide)

theorem raw_setIfInBounds {size : Nat} (cameras : Vector CameraEntry size) (camera : Nat)
    (entry : CameraEntry) :
    (cameras.setIfInBounds camera entry).toList.map CameraEntry.raw =
      (cameras.toList.map CameraEntry.raw).set camera entry.raw := by
  simp [Vector.toList_setIfInBounds, List.map_set]

theorem VideoTables.PinnedAt.congr {a b : VideoTables} {maps : PositionMaps} {files : Files}
    (h : a.PinnedAt maps files) (hcameras : b.cameras = a.cameras)
    (hposition : b.position = a.position) : b.PinnedAt maps files where
  cameras := hcameras ▸ h.cameras
  camerasSize := h.camerasSize
  position := hposition ▸ h.position
  positionSize := h.positionSize
  apart := h.apart

namespace PositionMaps

variable {maps : PositionMaps}

/-- Modes are written one after the other, each to the slot of its camera. -/
theorem perform_writeCameras (world : World) {modes : List (UInt32 × FilterMode)}
    {cameras : Vector CameraEntry Camera.capacity}
    (h : world.files.WordsAt maps.cameras.place (cameras.toList.map CameraEntry.raw))
    (hsize : maps.cameras.size = Camera.capacity)
    (hmodes : ∀ entry ∈ modes, entry.1.toNat < Camera.capacity) :
    ∃ files, (forM modes fun entry => maps.writeCamera entry.1 entry.2).perform world =
        (.ok (), { world with files }) ∧
      files.WordsAt maps.cameras.place
        ((VideoTables.writeEntries modes cameras).toList.map CameraEntry.raw) ∧
      Files.Rewritten {maps.cameras.place} world.files files := by
  induction modes generalizing world cameras with
  | nil => exact ⟨world.files, rfl, h, .refl _ _⟩
  | cons entry modes ih =>
      obtain ⟨hcamera, hmodes⟩ := List.forall_mem_cons.mp hmodes
      have hlength : (cameras.toList.map CameraEntry.raw).length = Camera.capacity := by
        rw [List.length_map, Vector.length_toList]
      obtain ⟨between, hfirst, hwords, hrewritten⟩ :=
        Operation.perform_writeWord h (hsize.trans hlength.symm) (hlength ▸ hcamera)
          entry.2.toRaw (.cannotWriteCamera entry.1)
      have hfirst : (maps.writeCamera entry.1 entry.2).perform world =
          (.ok (), { world with files := between }) := hfirst
      rw [← raw_setIfInBounds cameras entry.1.toNat ⟨entry.2.toRaw, true⟩] at hwords
      obtain ⟨files, hrest, hwritten, hrewritten'⟩ :=
        ih { world with files := between } hwords hmodes
      refine ⟨files, ?_, hwritten, hrewritten.trans hrewritten'⟩
      rw [List.forM_cons, Operation.perform_bind_of_ok hfirst]
      exact hrest

/-- **The direct way** writes what the filter writes for a position in range. -/
theorem perform_write {tables : VideoTables} {world : World} (h : tables.PinnedAt maps world.files)
    (position : Position) :
    ∃ files, (maps.write position).perform world = (.ok (), { world with files }) ∧
      (tables.withPosition position).PinnedAt maps files := by
  obtain ⟨moved, hmodes, hcameras, hmoved⟩ := perform_writeCameras world h.cameras
    h.camerasSize (Camera.lt_capacity_of_mem_modesAt position)
  -- The modes are written elsewhere, and so are the coordinates.
  have hbefore : ({ world with files := moved } : World).files.WordsAt maps.position.place
      [tables.position.x, tables.position.y] := h.position.of_rewritten hmoved h.apart.symm
  obtain ⟨between, hx, hwordsX, hrewrittenX⟩ :=
    Operation.perform_writeWord hbefore h.positionSize Nat.two_pos position.x .cannotWriteX
  have hbetween : ({ world with files := between } : World).files.WordsAt maps.position.place
      [position.x, tables.position.y] := hwordsX
  obtain ⟨files, hy, hwordsY, hrewrittenY⟩ :=
    Operation.perform_writeWord hbetween h.positionSize Nat.one_lt_two position.y .cannotWriteY
  have hkept := hcameras.of_rewritten (hrewrittenX.trans hrewrittenY) h.apart
  refine ⟨files, ?_, hkept, h.camerasSize, hwordsY, h.positionSize, h.apart⟩
  show (forM (Camera.modesAt position) (fun entry => maps.writeCamera entry.1 entry.2) >>=
    _).perform world = _
  rw [Operation.perform_bind_of_ok hmodes, Operation.perform_bind_of_ok hx]
  exact hy

end PositionMaps

/-! ## Both ways -/

theorem Route.inRange_of_mem_positions {route : Route} {positions : List Position}
    (hround : route.updates.map route.positions = .ok positions) :
    ∀ position ∈ positions, position.inRange = true := by
  intro position hposition
  cases hupdates : route.updates with
  | error failure =>
      rw [hupdates] at hround
      cases hround
  | ok updates =>
      rw [hupdates] at hround
      obtain rfl := Except.ok.inj hround
      obtain ⟨index, -, rfl⟩ := List.mem_map.mp hposition
      exact route.inRange_positionAt updates _

/-- **The two ways of a position agree**: whatever numbers a route comes to, the filter accepts each
of its positions, and its maps are then those that the robot writes itself. -/
theorem robot_paths_agree {route : Route} {positions : List Position}
    (hround : route.updates.map route.positions = .ok positions) {position : Position}
    (hposition : position ∈ positions) {frame : Frame} (hframe : frame.Carries position)
    (tables : VideoTables) :
    let after := (process frame tables).2
    (process frame tables).1 = .pass ∧
      after.stat .positionsApplied = Counter.increment (tables.stat .positionsApplied) ∧
      after.cameras = (tables.withPosition position).cameras ∧
      after.position = (tables.withPosition position).position ∧
      ∀ (maps : PositionMaps) (world : World), tables.PinnedAt maps world.files →
        ∃ files, (maps.write position).perform world = (.ok (), { world with files }) ∧
          after.PinnedAt maps files := by
  intro after
  have hrange := Route.inRange_of_mem_positions hround position hposition
  obtain ⟨hverdict, hstat, hcameras, hkept⟩ := process_of_carries hframe hrange tables
  refine ⟨hverdict, hstat, hcameras, hkept, ?_⟩
  intro maps world hpinned
  obtain ⟨files, hwrite, hwritten⟩ := PositionMaps.perform_write hpinned position
  exact ⟨files, hwrite, hwritten.congr hcameras hkept⟩

/-- A packet with a position behind a word of IP options, and one byte more. -/
def Frame.ofPosition (position : Position) : Frame :=
  [0, 0, 0, 0, 0, 0, 0, 0, 0, 0, 0, 0, 0x08, 0x00] ++
    [0x46, 0, 0, 0, 0, 0, 0, 0, 64, 17, 0, 0, 10, 0, 0, 1, 10, 1, 1, 2, 0, 0, 0, 0] ++
    [0, 0, 0x15, 0xb3, 0, 0, 0, 0] ++ (Wire.WireHeader.encode position).toList ++ [0xff]

theorem Frame.carries_ofPosition (position : Position) :
    (ofPosition position).Carries position := by
  have hlength : (ofPosition position).length = 55 := by
    have hsize : Wire.WireHeader.size Position = 8 := rfl
    simp [ofPosition, hsize]
  have hnetwork : (ofPosition position).networkLength = 24 := by
    have hbyte : (ofPosition position).byte 14 = 70 := rfl
    rw [networkLength, hbyte]
  refine ⟨⟨⟨?_, ?_, rfl, ?_, ?_⟩, ?_⟩, ?_⟩
  · rw [hlength]
    decide
  · have hhigh : (ofPosition position).byte 12 = 8 := rfl
    have hlow : (ofPosition position).byte 13 = 0 := rfl
    rw [word, hhigh, hlow]
  · rw [hnetwork]
    decide
  · rw [hlength, hnetwork]
    decide
  · have hhigh : (ofPosition position).byte 40 = 21 := rfl
    have hlow : (ofPosition position).byte 41 = 179 := rfl
    rw [port, hnetwork, word, hhigh, hlow]
  · rw [hnetwork]
    exact ⟨[0xff], rfl⟩

/-- Files with the maps of some tables and nothing else. -/
def VideoTables.pinned (tables : VideoTables) : Files where
  cwd := []
  entries :=
    [(["cameras"], .map { content := .words (tables.cameras.toList.map CameraEntry.raw) }),
      (["position"], .map { content := .words [tables.position.x, tables.position.y] })]

theorem VideoTables.pinnedAt_pinned (tables : VideoTables) :
    tables.PinnedAt ⟨⟨["cameras"], Camera.capacity⟩, ⟨["position"], 2⟩⟩ tables.pinned where
  cameras := rfl
  camerasSize := rfl
  position := rfl
  positionSize := rfl
  apart := by decide

/-- A round of one position; which one it is does not matter. -/
theorem robot_paths_agree_one_position :
    let route : Route := { centerX := 500, centerY := 500, radius := 400, seconds := 1, rate := 1 }
    let position := route.positionAt 1 0
    let tables := VideoTables.empty.removeCamera 7
    let after := (process (Frame.ofPosition position) tables).2
    route.updates.map route.positions = .ok [position] ∧
      (Frame.ofPosition position).Carries position ∧
      after.cameras = (tables.withPosition position).cameras ∧
      ∃ files, (PositionMaps.write ⟨⟨["cameras"], Camera.capacity⟩, ⟨["position"], 2⟩⟩
          position).perform { files := tables.pinned } = (.ok (), { files }) ∧
        after.PinnedAt ⟨⟨["cameras"], Camera.capacity⟩, ⟨["position"], 2⟩⟩ files := by
  intro route position tables after
  have hround : route.updates.map route.positions = .ok [position] := rfl
  have hcarries := Frame.carries_ofPosition position
  obtain ⟨-, -, hcameras, -, hwrite⟩ :=
    robot_paths_agree hround (List.mem_singleton_self position) hcarries tables
  exact ⟨hround, hcarries, hcameras, hwrite _ { files := tables.pinned } tables.pinnedAt_pinned⟩

end VideoGate
