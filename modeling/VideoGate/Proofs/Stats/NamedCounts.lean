import Mathlib.Data.List.Induction
import VideoGate.Stats.NamedCounts

/-!
# Looking up a count by its name

The counts of the filter are exported under their names.  No two counters share a name, so under
a name there is the count of its own counter, and there is nothing else
(`NamedCounts.find?_ofVideo`).  None gets lost on the way into its place
(`NamedCounts.entries_ofVideo_perm`).
-/

namespace VideoGate

theorem VideoStat.nodup_names : (all.map name).Nodup := by decide +kernel

namespace NamedCounts

/-- The count of a name, if there is one. -/
def find? (counts : NamedCounts) (name : String) : Option UInt64 := counts.entries.lookup name

theorem lookup_cons (name : String) (entry : String × UInt64) (entries : List (String × UInt64)) :
    (entry :: entries).lookup name =
      if name = entry.1 then some entry.2 else entries.lookup name := by
  rw [List.lookup_cons]
  by_cases hname : name = entry.1
  · rw [if_pos hname, beq_iff_eq.mpr hname]
  · rw [if_neg hname, beq_false_of_ne hname]

/-- Putting a count in its place changes what is found under its name, and nothing else. -/
theorem lookup_insertEntry (name other : String) (count : UInt64)
    (entries : List (String × UInt64)) :
    (insertEntry name count entries).lookup other =
      if other = name then some count else entries.lookup other := by
  induction entries with
  | nil => exact lookup_cons other (name, count) []
  | cons entry rest ih =>
      unfold insertEntry
      split
      · exact lookup_cons other (name, count) (entry :: rest)
      split
      case isTrue hentry =>
        rw [lookup_cons, lookup_cons, ← hentry]
        by_cases hother : other = name
        · rw [if_pos hother, if_pos hother]
        · simp only [if_neg hother]
      case isFalse hentry =>
        rw [lookup_cons, lookup_cons, ih]
        by_cases hother : other = name
        · subst hother
          rw [if_neg hentry, if_pos rfl, if_pos rfl]
        · simp only [if_neg hother]

theorem find?_insert (counts : NamedCounts) (name other : String) (count : UInt64) :
    (counts.insert name count).find? other =
      if other = name then some count else counts.find? other :=
  lookup_insertEntry name other count counts.entries

theorem ofList_concat (entries : List (String × UInt64)) (entry : String × UInt64) :
    ofList (entries ++ [entry]) = (ofList entries).insert entry.1 entry.2 :=
  List.foldl_append

/-- Under a name there is the count of the counter with this name. -/
theorem find?_ofList (counts : VideoCounts) (name : String) {stats : List VideoStat}
    (h : (stats.map VideoStat.name).Nodup) :
    (ofList (stats.map fun stat => (stat.name, counts.get stat))).find? name =
      (stats.find? (·.name == name)).map counts.get := by
  induction stats using List.reverseRecOn with
  | nil => rfl
  | append_singleton stats stat ih =>
      rw [List.map_append, List.nodup_append] at h
      obtain ⟨hbefore, -, hapart⟩ := h
      rw [List.map_append, List.map_singleton, ofList_concat, find?_insert, ih hbefore,
        List.find?_append, List.find?_singleton]
      by_cases hname : name = stat.name
      · have hnone : stats.find? (·.name == name) = none := by
          rw [List.find?_eq_none]
          intro other hother hsame
          have hother : other.name ∈ stats.map VideoStat.name := List.mem_map_of_mem hother
          exact hapart _ hother _ (List.mem_singleton.mpr rfl) ((beq_iff_eq.mp hsame).trans hname)
        rw [if_pos hname, hnone, Option.none_or, if_pos (beq_iff_eq.mpr hname.symm)]
        rfl
      · have hother : ¬ (stat.name == name) = true :=
          fun hsame => hname (beq_iff_eq.mp hsame).symm
        rw [if_neg hname, if_neg hother, Option.or_none]

/-- **The named counts of the filter.** -/
theorem find?_ofVideo (counts : VideoCounts) (name : String) :
    (ofVideo counts).find? name = (VideoStat.all.find? (·.name == name)).map counts.get :=
  find?_ofList counts name VideoStat.nodup_names

theorem get_ofVideo (counts : VideoCounts) (stat : VideoStat) :
    (ofVideo counts).get stat.name = counts.get stat := by
  have hfound : VideoStat.all.find? (·.name == stat.name) = some stat := by cases stat <;> rfl
  show ((ofVideo counts).find? stat.name).getD 0 = counts.get stat
  rw [find?_ofVideo, hfound, Option.map_some, Option.getD_some]

/-! ## No count gets lost -/

/-- A count under a new name comes to the ones that are there. -/
theorem insertEntry_perm {name : String} {entries : List (String × UInt64)}
    (h : name ∉ entries.map Prod.fst) (count : UInt64) :
    (insertEntry name count entries).Perm ((name, count) :: entries) := by
  induction entries with
  | nil => exact .refl _
  | cons entry rest ih =>
      rw [List.map_cons, List.mem_cons, not_or] at h
      obtain ⟨hentry, hrest⟩ := h
      rw [insertEntry, if_neg hentry]
      split
      · exact .refl _
      · exact ((ih hrest).cons entry).trans (.swap _ _ _)

/-- The counts of a list are kept, each under its name. -/
theorem ofList_perm {entries : List (String × UInt64)} (h : (entries.map Prod.fst).Nodup) :
    (ofList entries).entries.Perm entries := by
  induction entries using List.reverseRecOn with
  | nil => exact .refl _
  | append_singleton entries entry ih =>
      rw [List.map_append, List.nodup_append] at h
      obtain ⟨hbefore, -, hapart⟩ := h
      have hperm := ih hbefore
      have hfresh : entry.1 ∉ (ofList entries).entries.map Prod.fst := by
        intro hmem
        exact hapart _ ((hperm.map Prod.fst).mem_iff.mp hmem) _ List.mem_cons_self rfl
      rw [ofList_concat]
      refine (insertEntry_perm hfresh entry.2).trans ?_
      exact (hperm.cons entry).trans (List.perm_append_singleton entry entries).symm

/-- The entries of the filter's counts: each counter with its count. -/
theorem entries_ofVideo_perm (counts : VideoCounts) :
    (ofVideo counts).entries.Perm
      (VideoStat.all.map fun stat => (stat.name, counts.get stat)) := by
  refine ofList_perm ?_
  rw [List.map_map]
  exact VideoStat.nodup_names

end NamedCounts

end VideoGate
