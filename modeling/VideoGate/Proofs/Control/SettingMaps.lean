import Mathlib.Data.List.Nodup
import VideoGate.Control.Config
import VideoGate.Control.Status

/-!
# The maps behind the settings

An operator configures the gate by writing single words into three maps, and the status is decoded
from the words of these maps.  A write stores one word at its place and leaves every other place
(`word?_store`), so writes to different places do not see each other: whatever their order is, each
place ends up with the word that is written to it (`word?_storeAll_of_mem`).
-/

namespace VideoGate

/-! ## Places -/

/-- The place of a word: a map, and an index there. -/
abbrev WordPlace := MapName × Nat

def Setting.place (setting : Setting) : WordPlace := (setting.map, setting.index)

def SlotWrite.place (write : SlotWrite) : WordPlace := (write.map, write.index)

/-- The place of the global mode. -/
def globalPlace : WordPlace := (.globalMode, 0)

theorem Setting.place_injective {a b : Setting} (h : a.place = b.place) : a = b := by
  revert h
  cases a <;> cases b <;> decide

theorem Setting.place_ne_globalPlace (setting : Setting) : setting.place ≠ globalPlace := by
  cases setting <;> decide

/-! ## Maps -/

/-- The maps that an operator configures. -/
@[ext]
structure SettingMaps where
  control : Vector UInt32 controlSize
  interfaces : Vector UInt32 interfacesSize
  globalMode : Vector UInt32 1
deriving DecidableEq

namespace SettingMaps

def words (maps : SettingMaps) : MapName → List UInt32
  | .control => maps.control.toList
  | .interfaces => maps.interfaces.toList
  | .globalMode => maps.globalMode.toList
  | _ => []

/-- The word at a place, if there is such a place. -/
def word? (maps : SettingMaps) (place : WordPlace) : Option UInt32 :=
  (maps.words place.1)[place.2]?

/-- Makes a write; one to a place that is not there changes nothing. -/
def store (maps : SettingMaps) (write : SlotWrite) : SettingMaps :=
  match write.map with
  | .control => { maps with control := maps.control.setIfInBounds write.index write.value }
  | .interfaces =>
    { maps with interfaces := maps.interfaces.setIfInBounds write.index write.value }
  | .globalMode =>
    { maps with globalMode := maps.globalMode.setIfInBounds write.index write.value }
  | _ => maps

def storeAll (maps : SettingMaps) (writes : List SlotWrite) : SettingMaps :=
  writes.foldl store maps

/-- The word of a setting. -/
def raw (maps : SettingMaps) (setting : Setting) : UInt32 := (maps.word? setting.place).getD 0

/-- The word of the global mode. -/
def rawGlobal (maps : SettingMaps) : UInt32 := (maps.word? globalPlace).getD 0

/-- The status that the operator is shown. -/
def status (maps : SettingMaps) : Status :=
  Status.ofSlots (maps.words .control) (maps.words .interfaces) maps.rawGlobal

variable {maps other : SettingMaps} {writes : List SlotWrite} {write : SlotWrite}
  {place : WordPlace}

theorem isSome_word?_place (maps : SettingMaps) (setting : Setting) :
    (maps.word? setting.place).isSome = true := by
  cases setting <;>
    simp [word?, Setting.place, Setting.map, Setting.index, words, interfacesSize]

theorem word?_place (maps : SettingMaps) (setting : Setting) :
    maps.word? setting.place = some (maps.raw setting) := by
  obtain ⟨word, hword⟩ := Option.isSome_iff_exists.mp (maps.isSome_word?_place setting)
  rw [raw, hword, Option.getD_some]

theorem word?_globalPlace (maps : SettingMaps) :
    maps.word? globalPlace = some maps.rawGlobal := by
  have hsome : (maps.word? globalPlace).isSome = true := by
    simp [word?, globalPlace, words]
  obtain ⟨word, hword⟩ := Option.isSome_iff_exists.mp hsome
  rw [rawGlobal, hword, Option.getD_some]

/-- The status in terms of the words. -/
theorem status_eq (maps : SettingMaps) :
    maps.status =
      { stage1Enabled := maps.raw .stage1 == Setting.enabled
        stage2Enabled := maps.raw .stage2 == Setting.enabled
        peer := maps.raw .peer
        bridgeEnabled := maps.raw .bridge == Setting.enabled
        output := maps.raw .output
        globalMode := FilterMode.rawLabel maps.rawGlobal } := rfl

/-- Maps with the same words are the same. -/
theorem ext_word? (h : ∀ place, maps.word? place = other.word? place) : maps = other := by
  have hwords : ∀ map, maps.words map = other.words map := fun map =>
    List.ext_getElem? fun index => h (map, index)
  ext1
  · exact Vector.toList_inj.mp (hwords .control)
  · exact Vector.toList_inj.mp (hwords .interfaces)
  · exact Vector.toList_inj.mp (hwords .globalMode)

/-! ## Writes -/

theorem words_store (maps : SettingMaps) (write : SlotWrite) (map : MapName) :
    (maps.store write).words map =
      if map = write.map then (maps.words map).set write.index write.value
      else maps.words map := by
  obtain ⟨target, index, value⟩ := write
  cases target <;> cases map <;> simp [store, words]

/-- **A write is seen at its place** and nowhere else. -/
theorem word?_store (maps : SettingMaps) (write : SlotWrite) (place : WordPlace) :
    (maps.store write).word? place =
      if place = write.place then (maps.word? place).map fun _ => write.value
      else maps.word? place := by
  obtain ⟨map, index⟩ := place
  unfold word?
  rw [words_store]
  by_cases hmap : map = write.map
  · simp only [hmap, if_true, List.getElem?_set', SlotWrite.place, Prod.mk.injEq, true_and,
      eq_comm (a := index)]
    rfl
  · simp [hmap, SlotWrite.place]

theorem word?_store_of_ne (h : place ≠ write.place) :
    (maps.store write).word? place = maps.word? place := by
  rw [word?_store, if_neg h]

theorem raw_store (maps : SettingMaps) (write : SlotWrite) (setting : Setting) :
    (maps.store write).raw setting =
      if setting.place = write.place then write.value else maps.raw setting := by
  unfold raw
  rw [word?_store, maps.word?_place]
  split <;> rfl

theorem word?_storeAll_of_not_mem (h : place ∉ writes.map SlotWrite.place) :
    (maps.storeAll writes).word? place = maps.word? place := by
  induction writes generalizing maps with
  | nil => rfl
  | cons write writes ih =>
      rw [List.map_cons, List.mem_cons, not_or] at h
      exact (ih h.2).trans (word?_store_of_ne h.1)

/-- Of writes to different places each is seen afterwards. -/
theorem word?_storeAll_of_mem (hapart : (writes.map SlotWrite.place).Nodup)
    (hwrite : write ∈ writes) :
    (maps.storeAll writes).word? write.place =
      (maps.word? write.place).map fun _ => write.value := by
  induction writes generalizing maps with
  | nil => nomatch hwrite
  | cons first writes ih =>
      rw [List.map_cons, List.nodup_cons] at hapart
      obtain ⟨hfirst, hapart⟩ := hapart
      rcases List.mem_cons.mp hwrite with rfl | hlater
      · refine (word?_storeAll_of_not_mem hfirst).trans ?_
        rw [word?_store, if_pos rfl]
      · have hplace : write.place ≠ first.place := fun h =>
          hfirst (h ▸ List.mem_map_of_mem hlater)
        refine (ih hapart hlater).trans ?_
        rw [word?_store_of_ne hplace]

/-- **The order of writes to different places does not matter.** -/
theorem storeAll_perm {reordered : List SlotWrite} (maps : SettingMaps)
    (hapart : (writes.map SlotWrite.place).Nodup) (hperm : reordered.Perm writes) :
    maps.storeAll reordered = maps.storeAll writes := by
  have hplaces := hperm.map SlotWrite.place
  apply ext_word?
  intro place
  by_cases hplace : place ∈ writes.map SlotWrite.place
  · obtain ⟨write, hwrite, rfl⟩ := List.mem_map.mp hplace
    rw [word?_storeAll_of_mem hapart hwrite,
      word?_storeAll_of_mem (hplaces.nodup_iff.mpr hapart) (hperm.mem_iff.mpr hwrite)]
  · rw [word?_storeAll_of_not_mem hplace,
      word?_storeAll_of_not_mem (mt hplaces.mem_iff.mp hplace)]

/-- **Making the same writes again changes nothing.** -/
theorem storeAll_storeAll (maps : SettingMaps) (hapart : (writes.map SlotWrite.place).Nodup) :
    (maps.storeAll writes).storeAll writes = maps.storeAll writes := by
  apply ext_word?
  intro place
  by_cases hplace : place ∈ writes.map SlotWrite.place
  · obtain ⟨write, hwrite, rfl⟩ := List.mem_map.mp hplace
    rw [word?_storeAll_of_mem hapart hwrite, word?_storeAll_of_mem hapart hwrite, Option.map_map]
    rfl
  · rw [word?_storeAll_of_not_mem hplace]

end SettingMaps

end VideoGate
