import VideoGate.Program.Load
import VideoGate.Proofs.System.PinnedWords

/-!
# Binding an extension

A loader stops at the first step that fails, up to the link of the extension.  The maps come after
that, and whatever the kernel does with them they do not keep the extension from being bound: what
cannot be pinned is left out of the answer (`bindExtension_of_bindObject`), and the loader fails as
it does without any maps (`bindExtension_fails_iff`).
-/

namespace VideoGate

variable {kernel : Kernel} (registry : Registry)

/-- A map is pinned or not, but never a reason to fail. -/
theorem pinNewMap_returns (name : String) (map : kernel.Map) (world : World) :
    ∃ isPinned after, (pinNewMap kernel registry name map).perform world = (.ok isPinned, after) ∧
      (isPinned = true → shouldPin name = true ∧ kernel.isPinnable map = true ∧
        world.files.doesExist (registry.path name) = false) := by
  have hcontains : (registry.contains name).perform world =
      (.ok (world.files.doesExist (registry.path name)), world) := rfl
  unfold pinNewMap
  rw [Operation.perform_bind_of_ok hcontains]
  by_cases hleft : (!shouldPin name || world.files.doesExist (registry.path name)) = true
  · rw [if_pos hleft]
    exact ⟨false, world, rfl, nofun⟩
  obtain ⟨hname, hnew⟩ : shouldPin name = true ∧
      world.files.doesExist (registry.path name) = false := by simpa using hleft
  rw [if_neg hleft]
  by_cases hmap : kernel.isPinnable map = true
  case neg =>
    rw [if_neg hmap]
    exact ⟨false, _, rfl, nofun⟩
  case pos =>
    rw [if_pos hmap]
    have hattempt : (Operation.attempt (kernel.pinMap map (registry.path name))).perform world =
        (.ok ((kernel.pinMap map (registry.path name)).perform world).1,
          ((kernel.pinMap map (registry.path name)).perform world).2) := rfl
    rw [Operation.perform_bind_of_ok hattempt]
    cases ((kernel.pinMap map (registry.path name)).perform world).1 with
    | ok _ => exact ⟨true, _, rfl, fun _ => ⟨hname, hmap, hnew⟩⟩
    | error failure => exact ⟨false, _, rfl, nofun⟩

/-- Of some maps those are pinned that belong in the registry, unless it has them already or they
cannot be pinned. -/
theorem pinNewMaps_returns (maps : List (String × kernel.Map)) (world : World) :
    ∃ names after, (pinNewMaps kernel registry maps).perform world = (.ok names, after) ∧
      names.Sublist (maps.map Prod.fst) ∧ ∀ name ∈ names, shouldPin name = true := by
  induction maps generalizing world with
  | nil => exact ⟨[], world, rfl, .slnil, nofun⟩
  | cons entry maps ih =>
      obtain ⟨name, map⟩ := entry
      obtain ⟨isPinned, between, hone, hpinned⟩ :=
        pinNewMap_returns registry name map world
      obtain ⟨names, after, hothers, hsublist, hnames⟩ := ih between
      refine ⟨if isPinned then name :: names else names, after, ?_, ?_⟩
      · unfold pinNewMaps
        rw [Operation.perform_bind_of_ok hone, Operation.perform_bind_of_ok hothers]
        rfl
      · cases isPinned with
        | false => exact ⟨hsublist.cons name, hnames⟩
        | true => exact ⟨hsublist.cons_cons name,
            List.forall_mem_cons.mpr ⟨(hpinned rfl).1, hnames⟩⟩

variable {registry} {request : ExtensionRequest} {world between : World}

/-- **An extension whose program is bound is bound**, whatever becomes of its maps. -/
theorem bindExtension_of_bindObject {loaded : kernel.Object} {program : String}
    (h : (bindObject kernel registry request).perform world = (.ok (loaded, program), between)) :
    ∃ maps after, (bindExtension kernel registry request).perform world =
        (.ok { program, pin := request.pin, linkPin := Registry.linkPath request.pin, maps },
          after) ∧
      maps.Sublist ((kernel.maps loaded).map Prod.fst) ∧
      ∀ name ∈ maps, shouldPin name = true := by
  obtain ⟨maps, after, hmaps, hpinned⟩ :=
    pinNewMaps_returns registry (kernel.maps loaded) between
  refine ⟨maps, after, ?_, hpinned⟩
  unfold bindExtension
  rw [Operation.perform_bind_of_ok h, Operation.perform_bind_of_ok hmaps]
  rfl

theorem bindExtension_fails_iff {failure : Failure} {after : World} :
    (bindExtension kernel registry request).perform world = (.error failure, after) ↔
      (bindObject kernel registry request).perform world = (.error failure, after) := by
  cases hbind : (bindObject kernel registry request).perform world with
  | mk outcome between =>
      cases outcome with
      | error reason =>
          have hextension : (bindExtension kernel registry request).perform world =
              (.error reason, between) := by
            unfold bindExtension
            rw [Operation.perform_bind, hbind]
          rw [hextension]
          constructor
          · intro h
            cases h
            rfl
          · intro h
            cases h
            rfl
      | ok result =>
          obtain ⟨maps, after, hextension, -⟩ := bindExtension_of_bindObject hbind
          rw [hextension]
          exact ⟨nofun, nofun⟩

end VideoGate
