import Mathlib.Data.List.Nodup
import VideoGate.Proofs.System.PinnedWords

/-!
# The entries of a directory

A path to a directory, with the name of an entry behind it, leads to this entry
(`Files.locate_join`).  What is not a directory may be taken away, and every path to something else
leads there as before (`Files.find_without`): only directories are gone through.
-/

namespace VideoGate

/-! ## Paths with a name behind them -/

theorem Text.split_append_cons (separator : Char) (before after : List Char) :
    split separator (before ++ separator :: after) =
      split separator before ++ split separator after := by
  induction before with
  | nil => simp [split]
  | cons c before ih =>
      rw [List.cons_append, split, split, ih]
      split
      case isTrue => rfl
      case isFalse =>
        cases hsplit : split separator before with
        | nil => exact absurd hsplit (split_ne_nil separator before)
        | cons part parts => rfl

theorem Text.split_of_not_mem {separator : Char} {text : List Char} (h : separator ∉ text) :
    split separator text = [text] := by
  induction text with
  | nil => rfl
  | cons c text ih =>
      rw [List.mem_cons, not_or] at h
      rw [split, if_neg (Ne.symm h.1), ih h.2]

namespace Path

variable {base name : String}

theorem isAbsolute_append {rest : String} (h : base ≠ "") :
    isAbsolute (base ++ rest) = isAbsolute base := by
  unfold isAbsolute
  rw [String.toList_append]
  cases hbase : base.toList with
  | nil => exact absurd (String.toList_eq_nil_iff.mp hbase) h
  | cons c text => rfl

/-- A name stands behind what is above it: a slash at the end of the path above is not doubled. -/
theorem exists_join_eq (hbase : base ≠ "") (hname : '/' ∉ name.toList) :
    ∃ slash, join base name = base ++ slash ++ name ∧ (slash = "" ∨ slash = "/") ∧
      ∃ above, parts (join base name) = above ++ [name] ∧
        (parts base = above ∨ parts base = above ++ [""]) := by
  have habsolute : isAbsolute name = false := by
    unfold isAbsolute
    rw [beq_eq_false_iff_ne]
    exact fun hhead => hname (List.mem_of_head? hhead)
  have hempty : base.isEmpty = false := by simpa using hbase
  have hparts : ∀ text : List Char, ∀ path : String, path.toList = text ++ '/' :: name.toList →
      parts path = (Text.split '/' text).map String.ofList ++ [name] := by
    intro text path hpath
    unfold parts
    rw [hpath, Text.split_append_cons, Text.split_of_not_mem hname, List.map_append,
      List.map_singleton, String.ofList_toList]
  unfold join
  rw [habsolute, hempty]
  by_cases hslash : base.toList.getLast? = some '/'
  case pos =>
    obtain ⟨text, htext⟩ := List.getLast?_eq_some_iff.mp hslash
    refine ⟨"", by simp [hslash], .inl rfl, _, hparts text _ ?_, .inr ?_⟩
    · simp [htext]
    · unfold parts
      rw [htext, Text.split_append_cons, List.map_append]
      rfl
  case neg =>
    refine ⟨"/", by simp [hslash], .inr rfl, _, hparts base.toList _ ?_, .inl rfl⟩
    simp [hslash]

end Path

/-- The places of entries with these names. -/
def Place.children (place : Place) (names : List String) : List Place :=
  names.map fun name => place ++ [name]

@[simp]
theorem Place.mem_children_iff {place : Place} {name : String} {names : List String} :
    place ++ [name] ∈ place.children names ↔ name ∈ names := by
  simp [children]

namespace Files

variable {files : Files} {place other : Place} {name path root : String}

theorem isDirectory_iff : files.isDirectory place ↔ files.node? place = some .directory :=
  beq_iff_eq

/-! ## Going through a path -/

/-- A name that an entry of a directory can have. -/
structure IsName (name : String) : Prop where
  ne_empty : name ≠ ""
  ne_dot : name ≠ "."
  ne_dots : name ≠ ".."
  no_slash : '/' ∉ name.toList
  no_nul : '\x00' ∉ name.toList
  short : name.utf8ByteSize ≤ nameLimit

instance (name : String) : Decidable (IsName name) :=
  decidable_of_iff
    (name ≠ "" ∧ name ≠ "." ∧ name ≠ ".." ∧ '/' ∉ name.toList ∧ '\x00' ∉ name.toList ∧
      name.utf8ByteSize ≤ nameLimit)
    ⟨fun ⟨empty, dot, dots, slash, nul, short⟩ => ⟨empty, dot, dots, slash, nul, short⟩,
      fun ⟨empty, dot, dots, slash, nul, short⟩ => ⟨empty, dot, dots, slash, nul, short⟩⟩

theorem walk_append (files : Files) (parts more : List String) (place : Place) :
    files.walk (parts ++ more) place = files.walk parts place >>= files.walk more := by
  induction parts generalizing place with
  | nil => rfl
  | cons part parts ih =>
      rw [List.cons_append, walk, walk]
      split
      case h_1 => rfl
      case h_2 =>
        rw [ih, ih, ih]
        split_ifs <;> rfl
      case h_3 => rfl

theorem walk_empty_eq_ok_iff :
    files.walk [""] other = .ok place ↔ files.node? other = some .directory ∧ place = other := by
  rw [walk]
  split
  case h_1 hnone => simp [hnone]
  case h_2 hdirectory =>
    constructor
    · exact fun h => ⟨hdirectory, (Except.ok.inj h).symm⟩
    · rintro ⟨-, rfl⟩
      rfl
  case h_3 hother hnode =>
    rw [hnode]
    refine iff_of_false (fun h => ?_) fun h => hother (Option.some.inj h.1)
    cases h

theorem walk_name (h : files.node? place = some .directory) (hname : IsName name) :
    files.walk [name] place = .ok (place ++ [name]) := by
  have hshort : ¬ nameLimit < name.utf8ByteSize := Nat.not_lt.mpr hname.short
  simp [walk, h, hname.ne_empty, hname.ne_dot, hname.ne_dots, hshort]

theorem locate_eq_ok_iff :
    files.locate path = .ok place ↔
      path ≠ "" ∧ '\x00' ∉ path.toList ∧ path.utf8ByteSize ≤ pathLimit ∧
        files.walk (Path.parts path) (files.startOf path) = .ok place := by
  unfold locate
  by_cases hempty : path = ""
  · simp [hempty]
  by_cases hnul : '\x00' ∈ path.toList
  · simp [hempty, hnul]
  by_cases hlong : pathLimit < path.utf8ByteSize
  · simp [hempty, hnul, hlong, Nat.not_le.mpr hlong]
  · simp [hempty, hnul, hlong, Nat.not_lt.mp hlong]

/-- **A path to a directory leads to its entries.** -/
theorem locate_join (hroot : files.find root = .ok (place, .directory)) (hname : IsName name)
    (hlength : (Path.join root name).utf8ByteSize ≤ pathLimit) :
    files.locate (Path.join root name) = .ok (place ++ [name]) := by
  obtain ⟨hlocate, hnode⟩ := find_eq_ok_iff.mp hroot
  obtain ⟨hempty, hnul, -, hwalk⟩ := locate_eq_ok_iff.mp hlocate
  obtain ⟨slash, hjoin, hslash, above, hparts, habove⟩ := Path.exists_join_eq hempty hname.no_slash
  have hstart : files.startOf (Path.join root name) = files.startOf root := by
    unfold startOf
    rw [hjoin, String.append_assoc, Path.isAbsolute_append hempty]
  have hwalk : files.walk above (files.startOf root) = .ok place := by
    rcases habove with habove | habove
    · rwa [habove] at hwalk
    · rw [habove, walk_append] at hwalk
      cases hfound : files.walk above (files.startOf root) with
      | error fault =>
          rw [hfound] at hwalk
          cases hwalk
      | ok found =>
          rw [hfound] at hwalk
          rw [(walk_empty_eq_ok_iff.mp hwalk).2]
  refine locate_eq_ok_iff.mpr ⟨?_, ?_, hlength, ?_⟩
  · rw [hjoin]
    simp [hempty]
  · rw [hjoin]
    rcases hslash with rfl | rfl <;> simp [hnul, hname.no_nul]
  · rw [hparts, hstart, walk_append, hwalk]
    exact walk_name hnode hname

/-! ## The names in a directory -/

/-- The names of the entries of a directory, as it lists them. -/
def names (files : Files) (place : Place) : List String :=
  (files.entries.map Prod.fst).filterMap fun entry =>
    if entry.dropLast = place ∧ entry ≠ [] then entry.getLast? else none

theorem list_eq (h : files.find root = .ok (place, .directory)) :
    files.list root = .ok (files.names place) := by
  unfold list names
  rw [h, List.filterMap_map]
  rfl

theorem getLast?_eq_some_iff {entry : Place} :
    (if entry.dropLast = place ∧ entry ≠ [] then entry.getLast? else none) = some name ↔
      entry = place ++ [name] := by
  constructor
  · intro h
    split at h
    case isTrue hentry =>
      rw [← hentry.1]
      exact (List.dropLast_append_getLast? name h).symm
    case isFalse => cases h
  · rintro rfl
    simp

theorem mem_names_iff :
    name ∈ files.names place ↔ place ++ [name] ∈ files.entries.map Prod.fst := by
  unfold names
  rw [List.mem_filterMap]
  constructor
  · rintro ⟨entry, hentry, hname⟩
    rwa [← getLast?_eq_some_iff.mp hname]
  · exact fun hentry => ⟨_, hentry, getLast?_eq_some_iff.mpr rfl⟩

theorem nodup_names (h : (files.entries.map Prod.fst).Nodup) : (files.names place).Nodup := by
  refine h.filterMap fun entry entry' name hentry hentry' => ?_
  rw [getLast?_eq_some_iff.mp hentry, getLast?_eq_some_iff.mp hentry']

theorem exists_node?_of_mem_names (h : name ∈ files.names place) :
    ∃ node, files.node? (place ++ [name]) = some node := by
  have hsome : (files.entries.lookup (place ++ [name])).isSome = true := by
    obtain ⟨entry, hentry, hplace⟩ := List.mem_map.mp (mem_names_iff.mp h)
    exact List.lookup_isSome_iff.mpr ⟨entry, hentry, beq_iff_eq.mpr hplace.symm⟩
  obtain ⟨node, hnode⟩ := Option.isSome_iff_exists.mp hsome
  refine ⟨node, ?_⟩
  unfold node?
  simpa using hnode

/-! ## Taking things away -/

/-- The files without what is at some places. -/
def without (files : Files) (gone : List Place) : Files :=
  { files with entries := files.entries.filter fun entry => entry.1 ∉ gone }

variable {gone : List Place}

@[simp]
theorem without_nil (files : Files) : files.without [] = files := by
  unfold without
  simp

theorem drop_without (files : Files) (gone : List Place) (place : Place) :
    (files.without gone).drop place = files.without (gone ++ [place]) := by
  unfold without drop
  simp only [List.filter_filter]
  congr 1
  refine List.filter_congr fun entry _ => ?_
  simp [and_comm]

theorem lookup_filter (entries : List (Place × Node)) (gone : List Place) (place : Place) :
    (entries.filter fun entry => entry.1 ∉ gone).lookup place =
      if place ∈ gone then none else entries.lookup place := by
  induction entries with
  | nil => simp
  | cons entry entries ih =>
      obtain ⟨key, node⟩ := entry
      by_cases hgone : key ∈ gone
      · rw [List.filter_cons_of_neg (by simpa using hgone), ih, List.lookup_cons]
        by_cases hplace : place = key
        · simp [hplace, hgone]
        · simp [beq_false_of_ne hplace]
      · rw [List.filter_cons_of_pos (by simpa using hgone), List.lookup_cons, List.lookup_cons, ih]
        by_cases hplace : place = key
        · simp [hplace, hgone]
        · simp [beq_false_of_ne hplace]

theorem node?_without (files : Files) (gone : List Place) (place : Place) :
    (files.without gone).node? place =
      if place ≠ [] ∧ place ∈ gone then none else files.node? place := by
  unfold without node?
  rw [lookup_filter]
  cases place with
  | nil => rfl
  | cons => simp

theorem node?_without_of_not_mem (h : place ∉ gone) :
    (files.without gone).node? place = files.node? place := by
  rw [node?_without, if_neg fun hgone => h hgone.2]

/-- With all its entries gone a directory is empty. -/
theorem names_without_children (files : Files) (place : Place) :
    (files.without (place.children (files.names place))).names place = [] := by
  refine List.eq_nil_iff_forall_not_mem.mpr fun name hname => ?_
  obtain ⟨entry, hentry, hplace⟩ := List.mem_map.mp (mem_names_iff.mp hname)
  obtain ⟨hentry, hkept⟩ := List.mem_filter.mp hentry
  refine absurd ?_ (of_decide_eq_true hkept)
  rw [hplace, Place.mem_children_iff, mem_names_iff, ← hplace]
  exact List.mem_map_of_mem hentry

section

variable (h : ∀ place ∈ gone, ¬ files.isDirectory place)
include h

theorem walk_without {parts : List String} {start : Place}
    (hwalk : files.walk parts start = .ok place) :
    (files.without gone).walk parts start = .ok place := by
  induction parts generalizing start with
  | nil => exact hwalk
  | cons part parts ih =>
      rw [walk] at hwalk ⊢
      split at hwalk
      case h_1 => cases hwalk
      case h_3 => cases hwalk
      case h_2 hdirectory =>
        -- A path goes through directories only, and these are all still there.
        have hstart : start ∉ gone := fun hgone => h start hgone (isDirectory_iff.mpr hdirectory)
        rw [node?_without_of_not_mem hstart, hdirectory]
        have hfixed : (files.without gone).isFixed start = files.isFixed start := rfl
        dsimp only at hwalk ⊢
        rw [hfixed]
        split_ifs at hwalk ⊢ with _ _ hlong
        · exact ih hwalk
        · exact ih hwalk
        · exact ih hwalk

theorem locate_without (hlocate : files.locate path = .ok place) :
    (files.without gone).locate path = .ok place := by
  rw [locate_eq_ok_iff] at hlocate ⊢
  obtain ⟨hempty, hnul, hlong, hwalk⟩ := hlocate
  exact ⟨hempty, hnul, hlong, walk_without h hwalk⟩

/-- **Every path to something that is left leads there.** -/
theorem find_without {node : Node} (hfind : files.find path = .ok (place, node))
    (hplace : place ∉ gone) : (files.without gone).find path = .ok (place, node) := by
  rw [find_eq_ok_iff] at hfind ⊢
  rw [node?_without_of_not_mem hplace]
  exact ⟨locate_without h hfind.1, hfind.2⟩

end

theorem remove_eq_ok_iff {after : Files} :
    files.remove path = .ok after ↔
      ∃ place node, files.find path = .ok (place, node) ∧ node ≠ .directory ∧
        ¬ files.isFixed place ∧ after = files.drop place := by
  unfold remove
  cases hfind : files.find path with
  | error fault =>
      constructor
      · nofun
      · rintro ⟨_, _, hnone, -⟩
        cases hnone
  | ok found =>
      obtain ⟨place, node⟩ := found
      constructor
      · intro h
        refine ⟨place, node, rfl, ?_⟩
        cases node with
        | directory => cases h
        | file | device | map =>
            dsimp only [bind, Except.bind] at h
            split at h
            case isTrue => cases h
            case isFalse hfixed => exact ⟨nofun, hfixed, (Except.ok.inj h).symm⟩
      · rintro ⟨_, _, hfound, hnode, hfixed, rfl⟩
        obtain ⟨rfl, rfl⟩ := Prod.mk.inj (Except.ok.inj hfound)
        cases node with
        | directory => exact absurd rfl hnode
        | file | device | map => exact if_neg hfixed

end Files

end VideoGate
