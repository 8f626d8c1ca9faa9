import VideoGate.Proofs.System.Entries
import VideoGate.Proofs.Text.ByteOrder

/-!
# Clearing a registry

A registry is cleared pin by pin, in the order in which its directory lists them, which may be any.
A subdirectory cannot be removed, so clearing stops at the first one, and what stood before it is
gone (`Registry.clear_empties_or_stops`).  Nothing else is ever taken away.
-/

namespace VideoGate.Registry

variable {registry : Registry} {world : World} {files : Files} {place : Place}
  {names before rest : List String} {name : String} {gone : List Place}

/-- A registry is a directory whose entries are subdirectories and files that can be removed. -/
structure StandsAt (registry : Registry) (files : Files) (place : Place) : Prop where
  leads : files.find registry.root = .ok (place, .directory)
  /-- Nothing stands twice at one place. -/
  nodup : (files.entries.map Prod.fst).Nodup
  named : ∀ name ∈ files.names place, Files.IsName name
  removable : ∀ name ∈ files.names place, ¬ files.isDirectory (place ++ [name]) →
    (registry.path name).utf8ByteSize ≤ Files.pathLimit ∧ ¬ files.isFixed (place ++ [name])

/-- The place of an entry. -/
theorem StandsAt.locate (h : registry.StandsAt files place) (hname : name ∈ files.names place)
    (hgone : ∀ place ∈ gone, ¬ files.isDirectory place)
    (hlength : (registry.path name).utf8ByteSize ≤ Files.pathLimit) :
    (files.without gone).locate (registry.path name) = .ok (place ++ [name]) := by
  have hplace : place ∉ gone := fun hmem =>
    hgone place hmem (Files.isDirectory_iff.mpr (Files.find_eq_ok_iff.mp h.leads).2)
  exact Files.locate_join (Files.find_without hgone h.leads hplace) (h.named name hname) hlength

/-- A pin is removed, whatever else has been removed before. -/
theorem StandsAt.remove_pin (h : registry.StandsAt files place) (hname : name ∈ files.names place)
    (hpin : ¬ files.isDirectory (place ++ [name]))
    (hgone : ∀ place ∈ gone, ¬ files.isDirectory place) (hplace : place ++ [name] ∉ gone) :
    (files.without gone).remove (registry.path name) =
      .ok (files.without (gone ++ [place ++ [name]])) := by
  obtain ⟨hlength, hfixed⟩ := h.removable name hname hpin
  obtain ⟨node, hnode⟩ := Files.exists_node?_of_mem_names hname
  refine Files.remove_eq_ok_iff.mpr ⟨place ++ [name], node, ?_, ?_, hfixed,
    (Files.drop_without ..).symm⟩
  · rw [Files.find_eq_ok_iff, Files.node?_without_of_not_mem hplace]
    exact ⟨h.locate hname hgone hlength, hnode⟩
  · rintro rfl
    exact hpin (Files.isDirectory_iff.mpr hnode)

/-- A subdirectory is not removed. -/
theorem StandsAt.remove_subdirectory (h : registry.StandsAt files place)
    (hname : name ∈ files.names place) (hsub : files.isDirectory (place ++ [name]))
    (hgone : ∀ place ∈ gone, ¬ files.isDirectory place) :
    ∃ fault, (files.without gone).remove (registry.path name) = .error fault := by
  cases hremove : (files.without gone).remove (registry.path name) with
  | error fault => exact ⟨fault, rfl⟩
  | ok after =>
      obtain ⟨found, node, hfind, hnode, -⟩ := Files.remove_eq_ok_iff.mp hremove
      obtain ⟨hlocate, hthere⟩ := Files.find_eq_ok_iff.mp hfind
      have hlength := (Files.locate_eq_ok_iff.mp hlocate).2.2.1
      obtain rfl := Except.ok.inj (hlocate.symm.trans (h.locate hname hgone hlength))
      have hkept : place ++ [name] ∉ gone := fun hmem => hgone _ hmem hsub
      rw [Files.node?_without_of_not_mem hkept, Files.isDirectory_iff.mp hsub] at hthere
      exact absurd (Option.some.inj hthere).symm hnode

/-! ## One entry after the other -/

theorem perform_removeAll_cons_of_ok {files after : Files} (world : World)
    (h : files.remove (registry.path name) = .ok after) (names : List String) :
    (registry.removeAll (name :: names)).perform { world with files } =
      (registry.removeAll names).perform { world with files := after } := by
  rw [removeAll, Operation.perform_bind_of_ok (Operation.perform_files _), h]
  rfl

theorem perform_removeAll_cons_of_error {files : Files} (world : World) {fault : FileFault}
    (h : files.remove (registry.path name) = .error fault) (names : List String) :
    (registry.removeAll (name :: names)).perform { world with files } =
      (.error (.cannotUnpin (registry.path name)), { world with files }) := by
  rw [removeAll, Operation.perform_bind_of_ok (Operation.perform_files _), h]
  rfl

/-- Pins are removed, whatever comes behind them. -/
theorem StandsAt.perform_removeAll_append (h : registry.StandsAt world.files place)
    (hnames : ∀ name ∈ names, name ∈ world.files.names place)
    (hpins : ∀ name ∈ names, ¬ world.files.isDirectory (place ++ [name])) (hnodup : names.Nodup)
    (hgone : ∀ place ∈ gone, ¬ world.files.isDirectory place)
    (hfresh : ∀ name ∈ names, place ++ [name] ∉ gone) (rest : List String) :
    (registry.removeAll (names ++ rest)).perform
        { world with files := world.files.without gone } =
      (registry.removeAll rest).perform
        { world with files := world.files.without (gone ++ place.children names) } := by
  induction names generalizing gone with
  | nil =>
      rw [Place.children, List.map_nil, List.append_nil]
      rfl
  | cons name names ih =>
      -- What is gone so far is named, so that all is said of the files as they were at the start.
      rw [List.forall_mem_cons] at hnames hpins hfresh
      obtain ⟨hfirst, hnodup⟩ := List.nodup_cons.mp hnodup
      have hremove := h.remove_pin hnames.1 hpins.1 hgone hfresh.1
      rw [List.cons_append, perform_removeAll_cons_of_ok world hremove, Place.children,
        List.map_cons, List.append_cons gone _ (names.map _)]
      refine ih hnames.2 hpins.2 hnodup ?_ ?_
      · rw [List.forall_mem_append]
        exact ⟨hgone, by simpa using hpins.1⟩
      · intro other hother hmem
        rcases List.mem_append.mp hmem with hmem | hmem
        · exact hfresh.2 other hother hmem
        · rw [List.mem_singleton, List.append_right_inj, List.singleton_inj] at hmem
          exact hfirst (hmem ▸ hother)

/-- Pins at the head of the listing are removed. -/
theorem StandsAt.perform_removeAll_listed (h : registry.StandsAt world.files place)
    (hlisted : world.files.names place = names ++ rest)
    (hpins : ∀ name ∈ names, ¬ world.files.isDirectory (place ++ [name])) :
    (registry.removeAll (world.files.names place)).perform world =
      (registry.removeAll rest).perform
        { world with files := world.files.without (place.children names) } := by
  have hnodup : (world.files.names place).Nodup := Files.nodup_names h.nodup
  have hnone : ∀ place ∈ ([] : List Place), ¬ world.files.isDirectory place := nofun
  rw [hlisted] at hnodup ⊢
  have hnames : ∀ name ∈ names, name ∈ world.files.names place := fun name hname => by
    rw [hlisted]
    exact List.mem_append_left _ hname
  have hremoved := h.perform_removeAll_append hnames hpins (List.nodup_append.mp hnodup).1 hnone
    (fun _ _ => List.not_mem_nil) rest
  rwa [Files.without_nil, List.nil_append] at hremoved

/-! ## The whole registry -/

/-- Names in ascending order. -/
def sorted (names : List String) : List String := names.mergeSort fun a b => decide (a ≤ b)

theorem sorted_perm (names : List String) : (sorted names).Perm names := List.mergeSort_perm ..

/-- Names that are all different are in the order of their bytes. -/
theorem pairwise_sorted (h : names.Nodup) :
    (sorted names).Pairwise fun low high => Text.bytes low < Text.bytes high := by
  have hsorted : (sorted names).Pairwise fun a b => decide (a ≤ b) = true := by
    refine List.pairwise_mergeSort (fun a b c => ?_) (fun a b => ?_) names
    · simpa using le_trans
    · simpa using le_total a b
  refine (hsorted.and ((sorted_perm names).nodup_iff.mpr h)).imp fun hpair => ?_
  exact Text.bytes_lt_bytes_iff.mpr (lt_of_le_of_ne (of_decide_eq_true hpair.1) hpair.2)

theorem perform_clear_of_missing (h : world.files.doesExist registry.root = false) :
    registry.clear.perform world = (.ok [], world) := by
  unfold clear
  rw [Operation.perform_bind_of_ok (Operation.perform_files world), h]
  rfl

theorem StandsAt.perform_clear (h : registry.StandsAt world.files place) :
    registry.clear.perform world =
      match (registry.removeAll (world.files.names place)).perform world with
      | (.ok _, after) => (.ok (sorted (world.files.names place)), after)
      | (.error failure, after) => (.error failure, after) := by
  have hexists : world.files.doesExist registry.root = true := by
    unfold Files.doesExist
    rw [h.leads]
  unfold clear
  rw [Operation.perform_bind_of_ok (Operation.perform_files world), if_pos hexists,
    Files.list_eq h.leads]
  dsimp only
  rw [Operation.perform_bind]
  rcases (registry.removeAll (world.files.names place)).perform world with ⟨_ | _, after⟩ <;> rfl

/-- Without subdirectories every entry is removed. -/
theorem StandsAt.perform_clear_of_pins (h : registry.StandsAt world.files place)
    (hpins : ∀ name ∈ world.files.names place, ¬ world.files.isDirectory (place ++ [name])) :
    registry.clear.perform world =
      (.ok (sorted (world.files.names place)),
        { world with
          files := world.files.without (place.children (world.files.names place)) }) := by
  rw [h.perform_clear, h.perform_removeAll_listed (List.append_nil _).symm hpins]
  rfl

theorem StandsAt.perform_clear_of_empty (h : registry.StandsAt world.files place)
    (hnone : world.files.names place = []) : registry.clear.perform world = (.ok [], world) := by
  have hpins : ∀ name ∈ world.files.names place, ¬ world.files.isDirectory (place ++ [name]) := by
    rw [hnone]
    nofun
  rw [h.perform_clear_of_pins hpins, hnone, sorted, List.mergeSort_nil, Place.children,
    List.map_nil, Files.without_nil]

/-- At the first subdirectory clearing stops. -/
theorem StandsAt.perform_clear_of_subdirectory (h : registry.StandsAt world.files place)
    (hlisted : world.files.names place = before ++ name :: rest)
    (hpins : ∀ name ∈ before, ¬ world.files.isDirectory (place ++ [name]))
    (hsub : world.files.isDirectory (place ++ [name])) :
    registry.clear.perform world =
      (.error (.cannotUnpin (registry.path name)),
        { world with files := world.files.without (place.children before) }) := by
  have hname : name ∈ world.files.names place := by
    rw [hlisted]
    exact List.mem_append_right _ List.mem_cons_self
  have hgone : ∀ gone ∈ place.children before, ¬ world.files.isDirectory gone := by
    simpa [Place.children] using hpins
  obtain ⟨fault, hremove⟩ := h.remove_subdirectory hname hsub hgone
  rw [h.perform_clear, h.perform_removeAll_listed hlisted hpins,
    perform_removeAll_cons_of_error world hremove]

/-- What is left is a registry still, and an empty one. -/
theorem StandsAt.without_children (h : registry.StandsAt files place)
    (hpins : ∀ name ∈ files.names place, ¬ files.isDirectory (place ++ [name])) :
    registry.StandsAt (files.without (place.children (files.names place))) place := by
  have hgone : ∀ gone ∈ place.children (files.names place), ¬ files.isDirectory gone := by
    simpa [Place.children] using hpins
  have hplace : place ∉ place.children (files.names place) := fun hmem =>
    hgone place hmem (Files.isDirectory_iff.mpr (Files.find_eq_ok_iff.mp h.leads).2)
  have hnone := files.names_without_children place
  exact {
    leads := Files.find_without hgone h.leads hplace
    nodup := h.nodup.sublist (List.filter_sublist.map _)
    named := fun name hname => by
      rw [hnone] at hname
      exact absurd hname List.not_mem_nil
    removable := fun name hname => by
      rw [hnone] at hname
      exact absurd hname List.not_mem_nil }

/-- **Clearing a registry** succeeds if and only if it has no subdirectories, or does not exist.
Then every entry is gone and nothing else, their names are answered in the order of their bytes, and
there is nothing to clear a second time.  Otherwise clearing stops at the first subdirectory: the
files that were listed before it are gone, and nothing else. -/
theorem clear_empties_or_stops (registry : Registry) (world : World) :
    (world.files.doesExist registry.root = false → registry.clear.perform world = (.ok [], world)) ∧
    ∀ place, registry.StandsAt world.files place →
      let names := world.files.names place
      ∀ outcome after, registry.clear.perform world = (outcome, after) →
        ((∃ removed, outcome = .ok removed) ↔
          ∀ name ∈ names, ¬ world.files.isDirectory (place ++ [name])) ∧
        (∀ removed, outcome = .ok removed →
          removed.Perm names ∧
          (removed.Pairwise fun low high => Text.bytes low < Text.bytes high) ∧
          after = { world with files := world.files.without (place.children names) } ∧
          after.files.isDirectory place ∧ after.files.names place = [] ∧
          registry.clear.perform after = (.ok [], after)) ∧
        (∀ failure, outcome = .error failure → ∃ before name rest,
          names = before ++ name :: rest ∧
          (∀ pin ∈ before, ¬ world.files.isDirectory (place ++ [pin])) ∧
          world.files.isDirectory (place ++ [name]) ∧
          failure = .cannotUnpin (registry.path name) ∧
          after = { world with files := world.files.without (place.children before) }) := by
  refine ⟨perform_clear_of_missing, fun place h => ?_⟩
  intro names outcome after hclear
  by_cases hpins : ∀ name ∈ names, ¬ world.files.isDirectory (place ++ [name])
  case pos =>
    rw [h.perform_clear_of_pins hpins] at hclear
    obtain ⟨rfl, rfl⟩ := Prod.mk.inj hclear
    refine ⟨iff_of_true ⟨_, rfl⟩ hpins, ?_, nofun⟩
    intro removed hremoved
    obtain rfl := Except.ok.inj hremoved
    have hleft := h.without_children hpins
    have hnone := world.files.names_without_children place
    refine ⟨sorted_perm names, pairwise_sorted (Files.nodup_names h.nodup), rfl,
      Files.isDirectory_iff.mpr (Files.find_eq_ok_iff.mp hleft.leads).2, hnone, ?_⟩
    exact StandsAt.perform_clear_of_empty hleft hnone
  case neg =>
    obtain ⟨name, hname⟩ : ∃ name,
        names.find? (fun name => world.files.isDirectory (place ++ [name])) = some name := by
      rw [← Option.isSome_iff_exists, List.find?_isSome]
      simpa using hpins
    obtain ⟨hsub, before, rest, hlisted, hbefore⟩ := List.find?_eq_some_iff_append.mp hname
    have hbefore : ∀ pin ∈ before, ¬ world.files.isDirectory (place ++ [pin]) := by
      simpa using hbefore
    rw [h.perform_clear_of_subdirectory hlisted hbefore hsub] at hclear
    obtain ⟨rfl, rfl⟩ := Prod.mk.inj hclear
    refine ⟨iff_of_false nofun hpins, nofun, ?_⟩
    intro failure hfailure
    obtain rfl := Except.error.inj hfailure
    exact ⟨before, name, rest, hlisted, hbefore, hsub, rfl, rfl⟩

/-- Two pins beside a file, and then a subdirectory between the pins. -/
theorem clear_empties_or_stops_both :
    let registry : Registry := ⟨"run/pins"⟩
    let place : Place := ["run", "pins"]
    let filled (names : List (String × Node)) : Files :=
      { cwd := []
        entries :=
          [(["run"], .directory), (place, .directory), (["run", "kept"], .file .empty)] ++
            names.map fun entry => (place ++ [entry.1], entry.2) }
    let pins : World := { files := filled [("b", .file .empty), ("a", .file .empty)] }
    let mixed : World :=
      { files := filled [("b", .file .empty), ("sub", .directory), ("a", .file .empty)] }
    registry.StandsAt pins.files place ∧ registry.StandsAt mixed.files place ∧
      (∃ removed, registry.clear.perform pins = (.ok removed, { pins with files := filled [] }) ∧
        removed.Perm ["b", "a"]) ∧
      registry.clear.perform mixed = (.error (.cannotUnpin "run/pins/sub"),
        { mixed with files := filled [("sub", .directory), ("a", .file .empty)] }) := by
  intro registry place filled pins mixed
  have hpins : registry.StandsAt pins.files place := {
    leads := Files.find_eq_ok_iff.mpr
      ⟨Files.locate_eq_ok_iff.mpr (by decide +kernel), by decide +kernel⟩
    nodup := by decide +kernel
    named := by decide +kernel
    removable := by decide +kernel }
  have hmixed : registry.StandsAt mixed.files place := {
    leads := Files.find_eq_ok_iff.mpr
      ⟨Files.locate_eq_ok_iff.mpr (by decide +kernel), by decide +kernel⟩
    nodup := by decide +kernel
    named := by decide +kernel
    removable := by decide +kernel }
  obtain ⟨-, hclear⟩ := clear_empties_or_stops registry pins
  obtain ⟨-, hclear'⟩ := clear_empties_or_stops registry mixed
  refine ⟨hpins, hmixed, ?_, ?_⟩
  · rcases hrun : registry.clear.perform pins with ⟨outcome, after⟩
    obtain ⟨hok, hremoved, -⟩ := hclear place hpins outcome after hrun
    obtain ⟨removed, rfl⟩ := hok.mpr (by decide +kernel)
    obtain ⟨hperm, -, rfl, -⟩ := hremoved removed rfl
    exact ⟨removed, congrArg (Prod.mk _) (by decide +kernel), hperm⟩
  · rcases hrun : registry.clear.perform mixed with ⟨outcome, after⟩
    obtain ⟨hok, -, hstopped⟩ := hclear' place hmixed outcome after hrun
    cases outcome with
    | ok removed => exact absurd (hok.mp ⟨removed, rfl⟩) (by decide +kernel)
    | error failure =>
        obtain ⟨before, name, rest, hlisted, hbefore, hsub, rfl, rfl⟩ := hstopped _ rfl
        have hlisted : ["b", "sub", "a"] = before ++ name :: rest := hlisted
        rcases before with _ | ⟨first, _ | ⟨second, before⟩⟩ <;>
          simp only [List.nil_append, List.cons_append, List.cons.injEq] at hlisted
        · rw [← hlisted.1] at hsub
          exact absurd hsub (by decide +kernel)
        · obtain ⟨rfl, rfl, -⟩ := hlisted
          decide +kernel
        · rw [← hlisted.2.1] at hbefore
          exact absurd (hbefore "sub" (by simp)) (by decide +kernel)

end VideoGate.Registry
