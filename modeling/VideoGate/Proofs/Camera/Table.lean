import VideoGate.Proofs.Video.Step

/-!
# The table of camera modes

A position in range is seen by two cameras, one for each axis, and their ids are quotients by the
width of a strip (`Camera.sees_iff`).  Writing the modes of a position sets the entries of the
watching cameras, present or not, and leaves every other entry (`getElem?_writeEntries`).
-/

namespace VideoGate

open VideoStore

theorem Position.inRange_iff (position : Position) :
    position.inRange = true ↔ position.x.toNat < 1000 ∧ position.y.toNat < 1000 := by
  unfold inRange
  rw [Bool.and_eq_true, decide_eq_true_iff, decide_eq_true_iff, UInt32.lt_iff_toNat_lt,
    UInt32.lt_iff_toNat_lt]
  rfl

/-! ## Strips -/

namespace Camera

theorem stripContains_iff {strip axis : UInt32} (h : strip.toNat < 50) :
    stripContains strip axis = true ↔ strip.toNat = axis.toNat / 20 := by
  have hlow : (strip * stripWidth).toNat = strip.toNat * 20 := by
    rw [UInt32.toNat_mul, show stripWidth.toNat = 20 from rfl]
    omega
  have hhigh : (strip * stripWidth + stripWidth).toNat = strip.toNat * 20 + 20 := by
    rw [UInt32.toNat_add, hlow, show stripWidth.toNat = 20 from rfl]
    omega
  unfold stripContains
  rw [Bool.and_eq_true, decide_eq_true_iff, decide_eq_true_iff, UInt32.le_iff_toNat_le,
    UInt32.lt_iff_toNat_lt, hlow, hhigh]
  omega

/-- **Two cameras see a position**: the one of its strip of the y axis, and the one of its strip
of the x axis. -/
theorem sees_iff (camera : UInt32) {position : Position} (h : position.inRange = true) :
    sees camera position = true ↔
      camera.toNat = position.y.toNat / 20 ∨ camera.toNat = 50 + position.x.toNat / 20 := by
  obtain ⟨hx, hy⟩ := position.inRange_iff.mp h
  have hhorizontal : camera < horizontal ↔ camera.toNat < 50 := UInt32.lt_iff_toNat_lt
  have hwatching : camera < UInt32.ofNat watching ↔ camera.toNat < 100 := UInt32.lt_iff_toNat_lt
  unfold sees
  by_cases hlow : camera.toNat < 50
  · rw [if_pos (hhorizontal.mpr hlow), stripContains_iff hlow]
    omega
  rw [if_neg (mt hhorizontal.mp hlow)]
  by_cases hhigh : camera.toNat < 100
  · have hle : horizontal ≤ camera := UInt32.le_iff_toNat_le.mpr (Nat.le_of_not_lt hlow)
    have hstrip : (camera - horizontal).toNat = camera.toNat - 50 :=
      UInt32.toNat_sub_of_le _ _ hle
    rw [if_pos (hwatching.mpr hhigh), stripContains_iff (by omega), hstrip]
    omega
  · rw [if_neg (mt hwatching.mp hhigh)]
    exact iff_of_false (by decide) (by omega)

end Camera

/-! ## Entries -/

namespace VideoTables

/-- The entries of the first cameras, written one after another. -/
theorem getElem?_writeFirst {count : Nat} (hcount : count ≤ Camera.capacity)
    (modes : UInt32 → FilterMode) (cameras : Vector CameraEntry Camera.capacity) (camera : Nat) :
    (writeEntries ((List.range count).map fun id => (UInt32.ofNat id, modes (UInt32.ofNat id)))
        cameras)[camera]? =
      if camera < count then
        some { raw := (modes (UInt32.ofNat camera)).toRaw, present := true }
      else cameras[camera]? := by
  induction count with
  | zero => rfl
  | succ count ih =>
      have hbound : count < Camera.capacity := hcount
      have hid : (UInt32.ofNat count).toNat = count :=
        UInt32.toNat_ofNat_of_lt' (Nat.lt_trans hbound (by decide))
      unfold writeEntries at ih ⊢
      rw [List.range_succ, List.map_append, List.foldl_append]
      simp only [List.map_cons, List.map_nil, List.foldl_cons, List.foldl_nil, hid]
      rw [Vector.getElem?_setIfInBounds, ih (Nat.le_of_lt hcount)]
      by_cases hcamera : count = camera
      · subst hcamera
        rw [if_pos rfl, if_pos hbound, if_pos (Nat.lt_succ_self count)]
      · have hbelow : camera < count ↔ camera < count + 1 := by omega
        simp only [hcamera, if_false, hbelow]

/-- **The entries that a position writes** are those of the watching cameras; others stay. -/
theorem getElem?_writeEntries (position : Position)
    (cameras : Vector CameraEntry Camera.capacity) (camera : Nat) :
    (writeEntries (Camera.modesAt position) cameras)[camera]? =
      if camera < 100 then
        some { raw := (Camera.modeAt (UInt32.ofNat camera) position).toRaw, present := true }
      else cameras[camera]? :=
  getElem?_writeFirst (by decide) (Camera.modeAt · position) cameras camera

theorem cameraRaw?_writeModes (position : Position) (tables : VideoTables) (camera : UInt32) :
    (writeModes position tables).cameraRaw? camera =
      if camera.toNat < 100 then some (Camera.modeAt camera position).toRaw
      else tables.cameraRaw? camera := by
  rw [writeModes_eq]
  unfold cameraRaw?
  dsimp only
  rw [getElem?_writeEntries, UInt32.ofNat_toNat]
  split <;> rfl

end VideoTables

end VideoGate
