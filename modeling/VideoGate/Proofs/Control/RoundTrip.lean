import Mathlib.Data.List.Perm.Basic
import VideoGate.Control.Options
import VideoGate.Proofs.Control.SettingMaps

/-!
# What a configuration does to the status

A configuration comes down to writes of words, and the status is decoded from the words.  The two
fit together: afterwards the status shows every setting that the configuration gives, and all others
as before (`takesEffect_storeAll`).  No place is written twice (`nodup_places_writes`), and grouping
the writes by map leaves their order (`orderedWrites_eq`).
-/

namespace VideoGate

namespace FilterMode

/-- The name of a mode is read back as the mode. -/
theorem parse_label (mode : FilterMode) : parse mode.label = .ok mode := by
  cases mode <;> cbv

theorem rawLabel_toRaw (mode : FilterMode) : rawLabel mode.toRaw = mode.label := by
  unfold rawLabel
  rw [ofRaw?_toRaw]

end FilterMode

theorem Setting.ofSwitch_beq_enabled (on : Bool) : (ofSwitch on == enabled) = on := by
  cases on <;> decide

namespace Config

/-- The word that a configuration gives to a setting. -/
def raw? (config : Config) : Setting → Option UInt32
  | .stage1 => config.stage1.map Setting.ofSwitch
  | .stage2 => config.stage2.map Setting.ofSwitch
  | .peer => config.peer
  | .bridge => config.bridge.map Setting.ofSwitch
  | .output => config.output

/-- The status shows the settings that the configuration gives, and the others as before. -/
structure TakesEffect (config : Config) (before after : Status) : Prop where
  stage1 : after.stage1Enabled = config.stage1.getD before.stage1Enabled
  stage2 : after.stage2Enabled = config.stage2.getD before.stage2Enabled
  peer : after.peer = config.peer.getD before.peer
  bridge : after.bridgeEnabled = config.bridge.getD before.bridgeEnabled
  output : after.output = config.output.getD before.output
  modeGiven : ∀ mode ∈ config.globalMode, FilterMode.parse after.globalMode = .ok mode
  modeKept : config.globalMode = none → after.globalMode = before.globalMode

/-! ## The writes -/

theorem mem_settingWrite_iff {setting : Setting} {value : Option UInt32} {write : SlotWrite} :
    write ∈ settingWrite setting value ↔
      ∃ word ∈ value, write = { map := setting.map, index := setting.index, value := word } := by
  cases value <;> simp [settingWrite]

theorem mem_modeWrite_iff {mode : Option FilterMode} {write : SlotWrite} :
    write ∈ modeWrite mode ↔
      ∃ given ∈ mode, write = { map := .globalMode, index := 0, value := given.toRaw } := by
  cases mode <;> simp [modeWrite]

theorem writes_eq (config : Config) :
    config.writes =
      (Setting.all.flatMap fun setting => settingWrite setting (config.raw? setting)) ++
        modeWrite config.globalMode := by
  simp [writes, Setting.all, raw?]

theorem mem_writes_iff {config : Config} {write : SlotWrite} :
    write ∈ config.writes ↔
      (∃ setting, ∃ word ∈ config.raw? setting,
        write = { map := setting.map, index := setting.index, value := word }) ∨
      ∃ mode ∈ config.globalMode,
        write = { map := .globalMode, index := 0, value := mode.toRaw } := by
  have hall : ∀ setting : Setting, setting ∈ Setting.all := by
    intro setting
    cases setting <;> decide
  rw [writes_eq, List.mem_append, List.mem_flatMap, mem_modeWrite_iff]
  simp only [hall, true_and, mem_settingWrite_iff]

theorem places_settingWrite (setting : Setting) (value : Option UInt32) :
    ((settingWrite setting value).map SlotWrite.place).Sublist [setting.place] := by
  cases value with
  | none => exact List.nil_sublist _
  | some word => exact List.Sublist.refl _

theorem places_modeWrite (mode : Option FilterMode) :
    ((modeWrite mode).map SlotWrite.place).Sublist [globalPlace] := by
  cases mode with
  | none => exact List.nil_sublist _
  | some mode => exact List.Sublist.refl _

/-- **No place is written twice.** -/
theorem nodup_places_writes (config : Config) :
    (config.writes.map SlotWrite.place).Nodup := by
  have hplaces : (config.writes.map SlotWrite.place).Sublist
      ([Setting.stage1.place] ++ [Setting.stage2.place] ++ [Setting.peer.place] ++
        [Setting.bridge.place] ++ [Setting.output.place] ++ [globalPlace]) := by
    unfold writes
    simp only [List.map_append]
    apply List.Sublist.append _ (places_modeWrite _)
    apply List.Sublist.append _ (places_settingWrite _ _)
    apply List.Sublist.append _ (places_settingWrite _ _)
    apply List.Sublist.append _ (places_settingWrite _ _)
    exact (places_settingWrite _ _).append (places_settingWrite _ _)
  exact hplaces.nodup (by decide)

theorem isSome_word?_of_mem_writes {config : Config} {write : SlotWrite}
    (h : write ∈ config.writes) (maps : SettingMaps) :
    (maps.word? write.place).isSome = true := by
  rcases mem_writes_iff.mp h with ⟨setting, word, -, rfl⟩ | ⟨mode, -, rfl⟩
  · exact maps.isSome_word?_place setting
  · exact Option.isSome_iff_exists.mpr ⟨_, maps.word?_globalPlace⟩

theorem settingWrite_eq_nil_iff {setting : Setting} {value : Option UInt32} :
    settingWrite setting value = [] ↔ value = none := by
  cases value <;> simp [settingWrite]

theorem modeWrite_eq_nil_iff {mode : Option FilterMode} : modeWrite mode = [] ↔ mode = none := by
  cases mode <;> simp [modeWrite]

/-- Only the configuration that gives nothing writes nothing. -/
theorem writes_eq_nil_iff (config : Config) : config.writes = [] ↔ config.isEmpty = true := by
  have hempty : config.isEmpty = true ↔ config = {} := beq_iff_eq
  rw [hempty]
  obtain ⟨stage1, stage2, peer, bridge, output, globalMode⟩ := config
  simp only [writes, List.append_eq_nil_iff, settingWrite_eq_nil_iff, modeWrite_eq_nil_iff,
    Option.map_eq_none_iff, Config.mk.injEq, and_assoc]

/-! ## The grouping by map -/

theorem filter_settingWrite (setting : Setting) (value : Option UInt32) (map : MapName) :
    (settingWrite setting value).filter (·.map == map) =
      if setting.map = map then settingWrite setting value else [] := by
  cases value with
  | none => simp [settingWrite]
  | some word => by_cases h : setting.map = map <;> simp [settingWrite, h]

theorem filter_modeWrite (mode : Option FilterMode) (map : MapName) :
    (modeWrite mode).filter (·.map == map) =
      if .globalMode = map then modeWrite mode else [] := by
  cases mode with
  | none => simp [modeWrite]
  | some mode => by_cases h : MapName.globalMode = map <;> simp [modeWrite, h]

/-- The writes are listed map by map already, so grouping them by map leaves their order. -/
theorem orderedWrites_eq (config : Config) : config.orderedWrites = config.writes := by
  simp [orderedWrites, maps, writesTo, writes, filter_settingWrite, filter_modeWrite, Setting.map]

/-! ## The status afterwards -/

variable (config : Config) (maps : SettingMaps)

theorem raw_storeAll_writes (setting : Setting) :
    (maps.storeAll config.writes).raw setting =
      (config.raw? setting).getD (maps.raw setting) := by
  cases hgiven : config.raw? setting with
  | none =>
      have hkept : setting.place ∉ config.writes.map SlotWrite.place := by
        intro hplace
        obtain ⟨write, hwrite, hplace⟩ := List.mem_map.mp hplace
        rcases mem_writes_iff.mp hwrite with ⟨other, word, hword, rfl⟩ | ⟨mode, -, rfl⟩
        · cases Setting.place_injective hplace
          cases hgiven.symm.trans hword
        · exact setting.place_ne_globalPlace hplace.symm
      rw [SettingMaps.raw, SettingMaps.word?_storeAll_of_not_mem hkept]
      rfl
  | some word =>
      have hwrite : ⟨setting.map, setting.index, word⟩ ∈ config.writes :=
        mem_writes_iff.mpr (.inl ⟨setting, word, hgiven, rfl⟩)
      have hseen : (maps.storeAll config.writes).word? setting.place =
          (maps.word? setting.place).map fun _ => word :=
        SettingMaps.word?_storeAll_of_mem config.nodup_places_writes hwrite
      rw [SettingMaps.raw, hseen, maps.word?_place]
      rfl

theorem rawGlobal_storeAll_writes :
    (maps.storeAll config.writes).rawGlobal =
      (config.globalMode.map FilterMode.toRaw).getD maps.rawGlobal := by
  cases hgiven : config.globalMode with
  | none =>
      have hkept : globalPlace ∉ config.writes.map SlotWrite.place := by
        intro hplace
        obtain ⟨write, hwrite, hplace⟩ := List.mem_map.mp hplace
        rcases mem_writes_iff.mp hwrite with ⟨setting, word, -, rfl⟩ | ⟨mode, hmode, rfl⟩
        · exact setting.place_ne_globalPlace hplace
        · cases hgiven.symm.trans hmode
      rw [SettingMaps.rawGlobal, SettingMaps.word?_storeAll_of_not_mem hkept]
      rfl
  | some mode =>
      have hwrite : ⟨.globalMode, 0, mode.toRaw⟩ ∈ config.writes :=
        mem_writes_iff.mpr (.inr ⟨mode, hgiven, rfl⟩)
      have hseen : (maps.storeAll config.writes).word? globalPlace =
          (maps.word? globalPlace).map fun _ => mode.toRaw :=
        SettingMaps.word?_storeAll_of_mem config.nodup_places_writes hwrite
      rw [SettingMaps.rawGlobal, hseen, maps.word?_globalPlace]
      rfl

/-- **A configuration takes effect** on the status, whatever was in the maps. -/
theorem takesEffect_storeAll :
    config.TakesEffect maps.status (maps.storeAll config.writes).status := by
  have hraw := raw_storeAll_writes config maps
  have hglobal := rawGlobal_storeAll_writes config maps
  rw [SettingMaps.status_eq, SettingMaps.status_eq]
  simp only [hraw, hglobal, raw?]
  constructor
  case stage1 => cases config.stage1 <;> simp [Setting.ofSwitch_beq_enabled]
  case stage2 => cases config.stage2 <;> simp [Setting.ofSwitch_beq_enabled]
  case peer => rfl
  case bridge => cases config.bridge <;> simp [Setting.ofSwitch_beq_enabled]
  case output => rfl
  case modeGiven =>
    intro mode hmode
    rw [Option.mem_def.mp hmode]
    simp only [Option.map_some, Option.getD_some]
    rw [FilterMode.rawLabel_toRaw, FilterMode.parse_label]
  case modeKept =>
    intro hmode
    rw [hmode]
    rfl

end Config

end VideoGate
