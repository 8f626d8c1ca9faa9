import Mathlib.Data.Finset.Card
import Mathlib.Data.Finset.Range
import VideoGate.Proofs.Camera.Table

/-!
# Taking in a position

A position is taken in as a whole or not at all.  Out of range it is recorded, and that is all; in
range it rewrites every watching camera, and whatever the tables held of these before is gone
(`applyPosition_all_or_nothing`).  The other cameras are never written.
-/

namespace VideoGate

open VideoStore

namespace VideoTables

/-- The watching cameras whose entry says that nothing is filtered. -/
def unfiltered (tables : VideoTables) : Finset Nat :=
  (Finset.range 100).filter fun camera =>
    tables.cameras[camera]? = some { raw := 0, present := true }

/-- From one table to the other a position in range was taken in. -/
structure Moved (position : Position) (before after : VideoTables) : Prop where
  watching : ∀ camera < 100, after.cameras[camera]? = some { raw := 0, present := true } ∨
    after.cameras[camera]? = some { raw := 1, present := true }
  unfiltered : after.unfiltered = {position.y.toNat / 20, 50 + position.x.toNat / 20}
  two : after.unfiltered.card = 2
  others : ∀ camera, 100 ≤ camera → after.cameras[camera]? = before.cameras[camera]?
  position_eq : after.position = position
  applied : after.stat .positionsApplied = Counter.increment (before.stat .positionsApplied)
  stats : ∀ stat, stat ≠ .positionsApplied → after.stat stat = before.stat stat
  pFrame : after.pFrame = before.pFrame
  globalRaw : after.globalRaw = before.globalRaw
  globalReadable : after.globalReadable = before.globalReadable

/-! ## Entries -/

theorem entry_withPosition (tables : VideoTables) {position : Position}
    (h : position.inRange = true) {camera : Nat} (hcamera : camera < 100) :
    (tables.withPosition position).cameras[camera]? =
      some { raw := if camera = position.y.toNat / 20 ∨ camera = 50 + position.x.toNat / 20
          then 0 else 1, present := true } := by
  have hid : (UInt32.ofNat camera).toNat = camera :=
    UInt32.toNat_ofNat_of_lt' (Nat.lt_trans hcamera (by decide))
  have hsees := Camera.sees_iff (UInt32.ofNat camera) h
  rw [hid] at hsees
  refine (getElem?_writeEntries position tables.cameras camera).trans ?_
  rw [if_pos hcamera]
  unfold Camera.modeAt
  by_cases hseen : Camera.sees (UInt32.ofNat camera) position = true
  · rw [if_pos hseen, if_pos (hsees.mp hseen)]
    rfl
  · rw [if_neg hseen, if_neg (mt hsees.mpr hseen)]
    rfl

theorem unfiltered_withPosition (tables : VideoTables) {position : Position}
    (h : position.inRange = true) :
    (tables.withPosition position).unfiltered =
      {position.y.toNat / 20, 50 + position.x.toNat / 20} := by
  obtain ⟨hx, hy⟩ := position.inRange_iff.mp h
  ext camera
  simp only [unfiltered, Finset.mem_filter, Finset.mem_range, Finset.mem_insert,
    Finset.mem_singleton]
  constructor
  · rintro ⟨hcamera, hentry⟩
    rw [entry_withPosition tables h hcamera] at hentry
    by_contra hother
    rw [if_neg hother] at hentry
    cases hentry
  · intro hseen
    have hcamera : camera < 100 := by omega
    rw [entry_withPosition tables h hcamera, if_pos hseen]
    exact ⟨hcamera, rfl⟩

/-- No position writes a camera that watches nothing. -/
theorem entry_applyPosition_of_le (position : Position) (tables : VideoTables) {camera : Nat}
    (h : 100 ≤ camera) :
    (applyPosition position tables).2.cameras[camera]? = tables.cameras[camera]? := by
  cases hrange : position.inRange with
  | false => rw [applyPosition_of_not_inRange hrange]
  | true =>
      rw [applyPosition_of_inRange hrange]
      exact (getElem?_writeEntries position tables.cameras camera).trans
        (if_neg (Nat.not_lt_of_le h))

/-- Entries that a position writes do not depend on what was there. -/
theorem writeEntries_absorbs (position : Position)
    {cameras others : Vector CameraEntry Camera.capacity}
    (h : ∀ camera, 100 ≤ camera → cameras[camera]? = others[camera]?) :
    writeEntries (Camera.modesAt position) cameras =
      writeEntries (Camera.modesAt position) others := by
  refine Vector.ext fun camera hcamera => Option.some.inj ?_
  rw [← Vector.getElem?_eq_getElem hcamera, ← Vector.getElem?_eq_getElem hcamera,
    getElem?_writeEntries, getElem?_writeEntries]
  by_cases hwatching : camera < 100
  · rw [if_pos hwatching, if_pos hwatching]
  · rw [if_neg hwatching, if_neg hwatching]
    exact h camera (Nat.le_of_not_lt hwatching)

theorem moved_applyPosition (tables : VideoTables) {position : Position}
    (h : position.inRange = true) : Moved position tables (applyPosition position tables).2 := by
  obtain ⟨hx, hy⟩ := position.inRange_iff.mp h
  have hkept := uncounted_applyPosition position tables
  have hcameras : (applyPosition position tables).2.cameras =
      (tables.withPosition position).cameras := by
    rw [applyPosition_of_inRange h]
    rfl
  have hunfiltered : (applyPosition position tables).2.unfiltered =
      {position.y.toNat / 20, 50 + position.x.toNat / 20} := by
    unfold unfiltered
    rw [hcameras]
    exact tables.unfiltered_withPosition h
  constructor
  case watching =>
    intro camera hcamera
    have hentry := tables.entry_withPosition h hcamera
    rw [hcameras]
    split at hentry
    · exact .inl hentry
    · exact .inr hentry
  case unfiltered => exact hunfiltered
  case two =>
    rw [hunfiltered]
    apply Finset.card_pair
    omega
  case others =>
    intro camera hcamera
    exact entry_applyPosition_of_le position tables hcamera
  case position_eq => exact congrArg (·.position) hkept
  case applied => rw [applyPosition_of_inRange h, stat_count_self, stat_withPosition]
  case stats =>
    intro stat hstat
    rw [applyPosition_of_inRange h, stat_count_of_ne _ hstat, stat_withPosition]
  case pFrame => exact congrArg (·.pFrame) hkept
  case globalRaw => exact congrArg (·.globalRaw) hkept
  case globalReadable => exact congrArg (·.globalReadable) hkept

end VideoTables

open VideoTables

/-- **A position is taken in as a whole or not at all**, whatever the tables hold, and one that is
taken in leaves no trace of those before it in the cameras. -/
theorem applyPosition_all_or_nothing (tables : VideoTables) (position : Position) :
    (1000 ≤ position.x.toNat ∨ 1000 ≤ position.y.toNat →
        applyPosition position tables = (false, { tables with position })) ∧
      (position.x.toNat < 1000 ∧ position.y.toNat < 1000 →
        (applyPosition position tables).1 = true ∧
          Moved position tables (applyPosition position tables).2 ∧
          ∀ earlier : Position,
            let after := (applyPosition position (applyPosition earlier tables).2).2
            after.cameras = (applyPosition position tables).2.cameras ∧
              after.position = (applyPosition position tables).2.position) := by
  constructor
  · intro houtside
    apply applyPosition_of_not_inRange
    rw [← Bool.not_eq_true, position.inRange_iff]
    omega
  · intro hinside
    have hrange := position.inRange_iff.mpr hinside
    refine ⟨?_, moved_applyPosition tables hrange, ?_⟩
    · rw [applyPosition_of_inRange hrange]
    · intro earlier
      have hothers : ∀ camera, 100 ≤ camera →
          (applyPosition earlier tables).2.cameras[camera]? = tables.cameras[camera]? := by
        intro camera hcamera
        exact entry_applyPosition_of_le earlier tables hcamera
      dsimp only
      rw [applyPosition_of_inRange hrange, applyPosition_of_inRange hrange]
      exact ⟨writeEntries_absorbs position hothers, rfl⟩

/-- A camera with a word that is no mode and one that was removed are rewritten like the others. -/
theorem applyPosition_all_or_nothing_garbled :
    let tables := (VideoTables.empty.setCameraRaw 50 77).removeCamera 99
    let outside : Position := { x := 1000, y := 999 }
    let inside : Position := { x := 999, y := 0 }
    applyPosition outside tables = (false, { tables with position := outside }) ∧
      (applyPosition inside tables).1 = true ∧
      Moved inside tables (applyPosition inside tables).2 ∧
      (applyPosition inside (applyPosition { x := 0, y := 500 } tables).2).2.cameras =
        (applyPosition inside tables).2.cameras := by
  intro tables outside inside
  obtain ⟨hrefused, -⟩ := applyPosition_all_or_nothing tables outside
  obtain ⟨-, htaken⟩ := applyPosition_all_or_nothing tables inside
  obtain ⟨happlied, hmoved, habsorbed⟩ := htaken (by decide)
  exact ⟨hrefused (by decide), happlied, hmoved, (habsorbed _).1⟩

end VideoGate
