import VideoGate.Proofs.Control.RoundTrip
import VideoGate.Proofs.System.PinnedWords

/-!
# Applying a configuration to pinned maps

The maps of the settings are pinned in a registry.  Applying a configuration opens them one after
the other and makes its writes (`perform_apply`), and the status is read back from them
(`perform_ofRegistry`).  `writes_round_trip` puts this together with what the writes make of the
status: neither their order nor making them again matters.
-/

namespace VideoGate

/-- The maps are pinned in a registry with these words, each at a place of its own. -/
structure SettingMaps.PinnedIn (maps : SettingMaps) (registry : Registry)
    (placeOf : MapName → Place) (files : Files) : Prop where
  located : ∀ map ∈ Config.maps, files.locate (registry.path map.pin) = .ok (placeOf map)
  apart : ∀ map ∈ Config.maps, ∀ other ∈ Config.maps, placeOf map = placeOf other → map = other
  words : ∀ map ∈ Config.maps, files.WordsAt (placeOf map) (maps.words map)

variable {maps : SettingMaps} {registry : Registry} {placeOf : MapName → Place}

namespace SettingMaps.PinnedIn

variable {files after : Files}

/-- A word that is written into the file of a map is stored in the map. -/
theorem store {write : SlotWrite} (h : maps.PinnedIn registry placeOf files)
    (hmap : write.map ∈ Config.maps)
    (hwords : after.WordsAt (placeOf write.map)
      ((maps.words write.map).set write.index write.value))
    (hrewritten : Files.Rewritten {placeOf write.map} files after) :
    (maps.store write).PinnedIn registry placeOf after where
  located map hother := (hrewritten.locate_eq _).trans (h.located map hother)
  apart := h.apart
  words := by
    intro map hother
    rw [words_store]
    by_cases hsame : map = write.map
    · subst hsame
      rw [if_pos rfl]
      exact hwords
    · rw [if_neg hsame]
      refine (h.words map hother).of_rewritten hrewritten fun hplace => hsame ?_
      exact h.apart map hother write.map hmap hplace

end SettingMaps.PinnedIn

namespace Config

variable {world : World}

/-- Writes to an open map are made one after the other, and each is logged. -/
theorem perform_applyWrites {map : MapName} {writes : List SlotWrite}
    (h : maps.PinnedIn registry placeOf world.files) (hmap : map ∈ Config.maps)
    (hwrites : ∀ write ∈ writes, write.map = map ∧ write.index < (maps.words map).length) :
    ∃ after, (applyWrites ⟨placeOf map, (maps.words map).length⟩ writes).perform world =
        (.ok (), after) ∧
      (maps.storeAll writes).PinnedIn registry placeOf after.files := by
  -- What the maps hold changes with every write; how long they are does not, so the map stays open.
  induction writes generalizing maps world with
  | nil => exact ⟨world, rfl, h⟩
  | cons write writes ih =>
      obtain ⟨⟨rfl, hindex⟩, hwrites⟩ := List.forall_mem_cons.mp hwrites
      let opened : OpenMap := ⟨placeOf write.map, (maps.words write.map).length⟩
      have hopened : world.files.WordsAt opened.place (maps.words write.map) := h.words _ hmap
      obtain ⟨files, hwrite, hwords, hrewritten⟩ :=
        Operation.perform_writeWord hopened rfl hindex write.value
          (.cannotWriteSlot write.map write.index)
      have hstored := h.store hmap hwords hrewritten
      have hlength : ((maps.store write).words write.map).length =
          (maps.words write.map).length := by
        rw [SettingMaps.words_store, if_pos rfl, List.length_set]
      unfold applyWrites
      rw [Operation.perform_bind_of_ok hwrite,
        Operation.perform_bind_of_ok (Operation.perform_log ..), ← hlength]
      exact ih hstored (by rwa [hlength])

/-- **The writes to one map are made** in their order. -/
theorem perform_applyTo (config : Config) {map : MapName}
    (h : maps.PinnedIn registry placeOf world.files) (hmap : map ∈ Config.maps) :
    ∃ after, (config.applyTo registry map).perform world = (.ok (), after) ∧
      (maps.storeAll (config.writesTo map)).PinnedIn registry placeOf after.files := by
  have hwrites : ∀ write ∈ config.writesTo map,
      write.map = map ∧ write.index < (maps.words map).length := by
    intro write hwrite
    obtain ⟨hwrite, hname⟩ := List.mem_filter.mp hwrite
    obtain ⟨word, hword⟩ :=
      Option.isSome_iff_exists.mp (isSome_word?_of_mem_writes hwrite maps)
    obtain ⟨hindex, -⟩ := List.getElem?_eq_some_iff.mp hword
    obtain rfl := beq_iff_eq.mp hname
    exact ⟨rfl, hindex⟩
  unfold applyTo
  by_cases hnone : (config.writesTo map).isEmpty = true
  · have hnil := List.isEmpty_iff.mp hnone
    refine ⟨world, ?_, hnil ▸ h⟩
    simp only [hnone]
    rfl
  · obtain ⟨after, hrun, hafter⟩ := perform_applyWrites h hmap hwrites
    have hopen := Registry.perform_openWords (h.located map hmap) (h.words map hmap)
    simp only [hnone]
    show ∃ last, (registry.openWords map.pin >>= _).perform world = (.ok (), last) ∧ _
    rw [Operation.perform_bind_of_ok hopen, Operation.perform_bind_of_ok hrun]
    exact ⟨_, Operation.perform_log .., hafter⟩

theorem perform_applyAll (config : Config) {names : List MapName}
    (h : maps.PinnedIn registry placeOf world.files) (hnames : ∀ map ∈ names, map ∈ Config.maps) :
    ∃ after, (forM names (config.applyTo registry)).perform world = (.ok (), after) ∧
      (maps.storeAll (names.flatMap config.writesTo)).PinnedIn registry placeOf after.files := by
  induction names generalizing maps world with
  | nil => exact ⟨world, rfl, h⟩
  | cons map names ih =>
      obtain ⟨hmap, hnames⟩ := List.forall_mem_cons.mp hnames
      obtain ⟨between, hfirst, hbetween⟩ := perform_applyTo config h hmap
      rw [List.forM_cons, Operation.perform_bind_of_ok hfirst, List.flatMap_cons,
        SettingMaps.storeAll, List.foldl_append]
      exact ih hbetween hnames

/-- **Applying a configuration stores its writes** in the maps of the registry. -/
theorem perform_apply (config : Config) (h : maps.PinnedIn registry placeOf world.files) :
    ∃ after, (config.apply registry).perform world = (.ok (), after) ∧
      (maps.storeAll config.orderedWrites).PinnedIn registry placeOf after.files :=
  perform_applyAll config h fun _ hmap => hmap

end Config

/-- **The status is read back** from the maps of the registry, and nothing else is done. -/
theorem Status.perform_ofRegistry {world : World}
    (h : maps.PinnedIn registry placeOf world.files) :
    (Status.ofRegistry registry).perform world = (.ok maps.status, world) := by
  let opened (map : MapName) : OpenMap := ⟨placeOf map, (maps.words map).length⟩
  have hopen : ∀ map ∈ Config.maps,
      (registry.openWords map.pin).perform world = (.ok (opened map), world) := by
    intro map hmap
    exact Registry.perform_openWords (h.located map hmap) (h.words map hmap)
  have hwords : ∀ map ∈ Config.maps, world.files.WordsAt (opened map).place (maps.words map) :=
    h.words
  have hmode : (Operation.readWord (opened .globalMode) 0 (.cannotRead .globalMode)).perform
      world = (.ok maps.rawGlobal, world) :=
    Operation.perform_readWord (hwords .globalMode (by decide)) rfl maps.word?_globalPlace _
  unfold ofRegistry
  rw [Operation.perform_bind_of_ok (hopen .control (by decide)),
    Operation.perform_bind_of_ok (Operation.perform_readWords (hwords .control (by decide)) rfl),
    Operation.perform_bind_of_ok (hopen .interfaces (by decide)),
    Operation.perform_bind_of_ok (Operation.perform_readWords (hwords .interfaces (by decide)) rfl),
    Operation.perform_bind_of_ok (hopen .globalMode (by decide)),
    Operation.perform_bind_of_ok hmode]
  rfl

/-! ## There and back -/

/-- **A configuration makes the round trip**: the status shows what it gives and keeps the rest, by
writes to places that exist, each to another one; so they can be made in any order and again.  Both
hold of the writes as such and of those that are made to the maps of a registry. -/
theorem writes_round_trip (config : Config) (maps : SettingMaps) :
    let stored := maps.storeAll config.writes
    config.TakesEffect maps.status stored.status ∧
    (∀ write ∈ config.writes, (maps.word? write.place).isSome = true) ∧
    (config.writes.map SlotWrite.place).Nodup ∧
    (∀ reordered : List SlotWrite, reordered.Perm config.writes →
      maps.storeAll reordered = stored) ∧
    config.orderedWrites.Perm config.writes ∧
    stored.storeAll config.writes = stored ∧
    (config.writes = [] ↔ config.isEmpty = true) ∧
    ∀ (registry : Registry) (placeOf : MapName → Place) (world : World),
      maps.PinnedIn registry placeOf world.files →
      ∃ once twice,
        (config.apply registry).perform world = (.ok (), once) ∧
        stored.PinnedIn registry placeOf once.files ∧
        (Status.ofRegistry registry).perform once = (.ok stored.status, once) ∧
        (config.apply registry).perform once = (.ok (), twice) ∧
        stored.PinnedIn registry placeOf twice.files := by
  intro stored
  have hapart := config.nodup_places_writes
  have htwice : stored.storeAll config.writes = stored := maps.storeAll_storeAll hapart
  refine ⟨config.takesEffect_storeAll maps, fun _ hwrite =>
    Config.isSome_word?_of_mem_writes hwrite maps, hapart, fun _ hperm =>
    maps.storeAll_perm hapart hperm, ?_, htwice, config.writes_eq_nil_iff, ?_⟩
  · rw [config.orderedWrites_eq]
  · intro registry placeOf world hpinned
    obtain ⟨once, honce, hstored⟩ := config.perform_apply hpinned
    rw [config.orderedWrites_eq] at hstored
    obtain ⟨twice, hagain, hstoredAgain⟩ := config.perform_apply hstored
    rw [config.orderedWrites_eq, htwice] at hstoredAgain
    exact ⟨once, twice, honce, hstored, Status.perform_ofRegistry hstored, hagain, hstoredAgain⟩

/-- Words that are no switches and no mode. -/
def SettingMaps.garbled : SettingMaps where
  control := #v[5, 1]
  interfaces := #v[9, 0, 3]
  globalMode := #v[77]

/-- The files of a registry with these maps. -/
def SettingMaps.filesIn (maps : SettingMaps) (directory : String) : Files where
  cwd := []
  entries := ([directory], .directory) :: Config.maps.map fun map =>
    ([directory, map.pin], .map { content := .words (maps.words map) })

theorem SettingMaps.pinnedIn_filesIn_garbled :
    garbled.PinnedIn ⟨"/pins"⟩ (fun map => ["pins", map.pin]) (garbled.filesIn "pins") where
  located := by
    intro map hmap
    unfold Files.locate
    rw [String.contains_char_eq]
    revert map
    decide +kernel
  apart := by decide
  words := by
    unfold Files.WordsAt
    decide

/-- The bridge is switched on and the global mode set, whatever the words were. -/
theorem writes_round_trip_garbled :
    let config : Config := { bridge := some true, peer := some 7, globalMode := some .dropP }
    let maps := SettingMaps.garbled
    config.writes.reverse.Perm config.writes ∧
    maps.storeAll config.writes.reverse = maps.storeAll config.writes ∧
    maps.PinnedIn ⟨"/pins"⟩ (fun map => ["pins", map.pin]) (maps.filesIn "pins") ∧
    (∃ once, (config.apply ⟨"/pins"⟩).perform { files := maps.filesIn "pins" } =
        (.ok (), once) ∧
      (Status.ofRegistry ⟨"/pins"⟩).perform once = (.ok
        { stage1Enabled := false, stage2Enabled := true, peer := 7, bridgeEnabled := true,
          output := 3, globalMode := "drop-p" }, once)) := by
  intro config maps
  obtain ⟨-, -, -, hperm, -, -, -, hpinned⟩ := writes_round_trip config maps
  obtain ⟨once, -, honce, -, hstatus, -⟩ := hpinned ⟨"/pins"⟩ (fun map => ["pins", map.pin])
    { files := maps.filesIn "pins" } SettingMaps.pinnedIn_filesIn_garbled
  exact ⟨List.reverse_perm _, hperm _ (List.reverse_perm _), SettingMaps.pinnedIn_filesIn_garbled,
    once, honce, hstatus⟩

end VideoGate
