import VideoGate.Stats.Counts

/-!
# Counts by name

Counts that have names are kept in the order of the names, each name once.  Names are ordered
by their characters, which is also the order of their UTF-8 bytes.
-/

namespace VideoGate

/-- Counts in strictly ascending order of their names. -/
structure NamedCounts where
  entries : List (String × UInt64)
  sorted : entries.Pairwise fun a b => a.1 < b.1

namespace NamedCounts

def empty : NamedCounts := ⟨[], .nil⟩

instance : Inhabited NamedCounts := ⟨empty⟩

instance : DecidableEq NamedCounts := fun a b =>
  if h : a.entries = b.entries then
    .isTrue (by cases a; cases b; simp_all)
  else
    .isFalse fun hab => h (hab ▸ rfl)

/-- Puts a count in its place; a count of the same name is replaced. -/
def insertEntry (name : String) (count : UInt64) :
    List (String × UInt64) → List (String × UInt64)
  | [] => [(name, count)]
  | entry :: rest =>
    if name < entry.1 then (name, count) :: entry :: rest
    else if name = entry.1 then (name, count) :: rest
    else entry :: insertEntry name count rest

theorem mem_insertEntry {name : String} {count : UInt64} {entries : List (String × UInt64)}
    {entry : String × UInt64} (h : entry ∈ insertEntry name count entries) :
    entry = (name, count) ∨ entry ∈ entries := by
  induction entries with
  | nil => simpa [insertEntry] using h
  | cons first rest ih =>
    simp only [insertEntry] at h
    split at h
    · simpa using h
    · split at h
      · rcases List.mem_cons.mp h with h | h
        · exact .inl h
        · exact .inr (List.mem_cons_of_mem _ h)
      · rcases List.mem_cons.mp h with h | h
        · exact .inr (h ▸ List.mem_cons_self)
        · exact (ih h).imp_right (List.mem_cons_of_mem _)

theorem pairwise_insertEntry (name : String) (count : UInt64)
    {entries : List (String × UInt64)} (h : entries.Pairwise fun a b => a.1 < b.1) :
    (insertEntry name count entries).Pairwise fun a b => a.1 < b.1 := by
  induction entries with
  | nil => simp [insertEntry]
  | cons first rest ih =>
    obtain ⟨hfirst, hrest⟩ := List.pairwise_cons.mp h
    simp only [insertEntry]
    split
    · rename_i hlt
      refine List.pairwise_cons.mpr ⟨?_, h⟩
      intro entry hentry
      rcases List.mem_cons.mp hentry with rfl | hentry
      · exact hlt
      · exact String.lt_trans hlt (hfirst entry hentry)
    · rename_i hnlt
      split
      · rename_i heq
        exact List.pairwise_cons.mpr ⟨fun entry hentry => heq ▸ hfirst entry hentry, hrest⟩
      · rename_i hne
        refine List.pairwise_cons.mpr ⟨?_, ih hrest⟩
        intro entry hentry
        rcases mem_insertEntry hentry with rfl | hentry
        · rcases Classical.em (first.1 < name) with hlt | hle
          · exact hlt
          · exact absurd (String.le_antisymm (String.not_lt.mp hle) (String.not_lt.mp hnlt)) hne
        · exact hfirst entry hentry

def insert (counts : NamedCounts) (name : String) (count : UInt64) : NamedCounts :=
  ⟨insertEntry name count counts.entries, pairwise_insertEntry name count counts.sorted⟩

/-- The counts of a list, of which the last one for a name is kept. -/
def ofList (entries : List (String × UInt64)) : NamedCounts :=
  entries.foldl (fun counts entry => counts.insert entry.1 entry.2) empty

def get (counts : NamedCounts) (name : String) : UInt64 :=
  (counts.entries.lookup name).getD 0

def ofVideo (counts : VideoCounts) : NamedCounts :=
  ofList (VideoStat.all.map fun stat => (stat.name, counts.get stat))

end NamedCounts

end VideoGate
