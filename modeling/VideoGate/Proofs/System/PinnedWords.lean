import Mathlib.Data.Set.Basic
import VideoGate.System.Registry

/-!
# Writing words of pinned maps

An operation that writes a word of a pinned array succeeds if the array has such a place, and does
nothing but that (`perform_writeWord`).  Since a map stays a map, every path leads to where it led
before (`Files.Rewritten.locate_eq`), so many words of many maps can be written one after the other.
-/

namespace VideoGate

/-! ## One operation after another -/

namespace Operation

variable {α β : Type}

theorem perform_bind (operation : Operation α) (next : α → Operation β) (world : World) :
    (operation >>= next).perform world =
      match operation.perform world with
      | (.ok value, world) => (next value).perform world
      | (.error failure, world) => (.error failure, world) := by
  unfold perform
  rw [ExceptT.run_bind, StateT.run_bind]
  cases StateT.run (ExceptT.run operation) world with
  | mk result after => cases result <;> rfl

theorem perform_bind_of_ok {operation : Operation α} {next : α → Operation β} {world after : World}
    {value : α} (h : operation.perform world = (.ok value, after)) :
    (operation >>= next).perform world = (next value).perform after := by
  rw [perform_bind, h]

theorem perform_log (level : Level) (origin : Origin) (text : String) (world : World) :
    (log level origin text).perform world =
      (.ok (), { world with told := .logged { level, origin, text } :: world.told }) := rfl

theorem perform_files (world : World) : files.perform world = (.ok world.files, world) := rfl

end Operation

/-! ## Files -/

namespace Files

theorem lookup_replaced (entries : List (Place × Node)) (place other : Place) (node : Node) :
    (entries.map fun entry => if entry.1 = place then (place, node) else entry).lookup other =
      if other = place then (entries.lookup place).map fun _ => node
      else entries.lookup other := by
  induction entries with
  | nil => simp
  | cons entry entries ih =>
      obtain ⟨key, there⟩ := entry
      rw [List.map_cons, List.lookup_cons, List.lookup_cons]
      by_cases hkey : key = place
      · subst hkey
        rw [if_pos rfl, List.lookup_cons, ih]
        by_cases hother : other = key
        · simp [hother]
        · simp [hother, beq_false_of_ne hother]
      · rw [if_neg hkey, List.lookup_cons, ih]
        by_cases hother : other = place
        · subst hother
          simp [beq_false_of_ne (Ne.symm hkey)]
        · simp [hother]

/-- What is put at a place is there, and nothing else has changed. -/
theorem node?_put (files : Files) {place : Place} (h : place ≠ []) (node : Node)
    (other : Place) :
    (files.put place node).node? other =
      if other = place then some node else files.node? other := by
  unfold put node?
  by_cases hthere : (files.entries.lookup place).isSome = true
  · rw [if_pos hthere]
    obtain ⟨old, hold⟩ := Option.isSome_iff_exists.mp hthere
    simp only [lookup_replaced, hold, Option.map_some]
    by_cases hother : other = place
    · simp [hother, h]
    · simp [hother]
  · rw [if_neg hthere]
    have hnone := Option.not_isSome_iff_eq_none.mp hthere
    simp only [List.lookup_append, List.lookup_cons, List.lookup_nil]
    by_cases hother : other = place
    · simp [hother, h, hnone]
    · simp [hother, beq_false_of_ne hother]

theorem find_eq_ok_iff {files : Files} {path : String} {place : Place} {node : Node} :
    files.find path = .ok (place, node) ↔
      files.locate path = .ok place ∧ files.node? place = some node := by
  unfold find
  cases hlocate : files.locate path with
  | error fault => simp [bind, Except.bind]
  | ok found =>
      simp only [bind, Except.bind, Except.ok.injEq]
      cases hnode : files.node? found with
      | none =>
          simp only [reduceCtorEq, false_iff, not_and]
          rintro rfl
          simp [hnode]
      | some there =>
          simp only [Except.ok.injEq, Prod.mk.injEq]
          constructor
          · rintro ⟨rfl, rfl⟩
            exact ⟨rfl, hnode⟩
          · rintro ⟨rfl, hthere⟩
            exact ⟨rfl, Option.some.inj (hnode.symm.trans hthere)⟩

/-- Nothing has changed but what some maps hold, which were maps before. -/
structure Rewritten (places : Set Place) (before after : Files) : Prop where
  cwd : after.cwd = before.cwd
  fixed : after.fixed = before.fixed
  node? : ∀ place, after.node? place = before.node? place ∨
    place ∈ places ∧ ∃ old new, before.node? place = some (.map old) ∧
      after.node? place = some (.map new)

namespace Rewritten

variable {places : Set Place} {before between after : Files}

theorem node?_of_not_mem {place : Place} (h : Rewritten places before after)
    (hplace : place ∉ places) : after.node? place = before.node? place :=
  (h.node? place).resolve_right fun hchanged => hplace hchanged.1

theorem refl (places : Set Place) (files : Files) : Rewritten places files files :=
  ⟨rfl, rfl, fun _ => .inl rfl⟩

theorem trans (h : Rewritten places before between) (h' : Rewritten places between after) :
    Rewritten places before after where
  cwd := h'.cwd.trans h.cwd
  fixed := h'.fixed.trans h.fixed
  node? place := by
    rcases h.node? place, h'.node? place with ⟨hsame | ⟨hplace, old, mid, hold, hmid⟩,
      hsame' | ⟨hplace', mid', new, hmid', hnew⟩⟩
    · exact .inl (hsame'.trans hsame)
    · exact .inr ⟨hplace', mid', new, hsame ▸ hmid', hnew⟩
    · exact .inr ⟨hplace, old, mid, hold, hsame'.trans hmid⟩
    · exact .inr ⟨hplace, old, new, hold, hnew⟩

theorem walk_eq (h : Rewritten places before after) (parts : List String) (place : Place) :
    after.walk parts place = before.walk parts place := by
  induction parts generalizing place with
  | nil => rfl
  | cons part parts ih =>
      have hfixed : after.isFixed place = before.isFixed place := by
        unfold isFixed
        rw [h.fixed]
      unfold walk
      rcases h.node? place with hsame | ⟨-, old, new, hold, hnew⟩
      · rw [hsame, hfixed, ih, ih, ih]
      · -- A path ends at a map, whatever the map holds.
        rw [hold, hnew]

/-- **Every path leads to the same place** as before. -/
theorem locate_eq (h : Rewritten places before after) (path : String) :
    after.locate path = before.locate path := by
  unfold locate startOf
  rw [h.cwd, h.walk_eq]

end Rewritten

/-- An array of words is at a place, and all its slots are in order. -/
def WordsAt (files : Files) (place : Place) (values : List UInt32) : Prop :=
  files.node? place = some (.map { content := .words values })

theorem WordsAt.put {files : Files} {place : Place} {values : List UInt32}
    (h : files.WordsAt place values) (values' : List UInt32) :
    let after := files.put place (.map { content := .words values' })
    after.WordsAt place values' ∧ Rewritten {place} files after := by
  intro after
  have hplace : place ≠ [] := by
    rintro rfl
    cases h
  have hnode : ∀ other, after.node? other =
      if other = place then some (.map { content := .words values' })
      else files.node? other := files.node?_put hplace _
  have hparts : after.cwd = files.cwd ∧ after.fixed = files.fixed := by
    show (Files.put ..).cwd = _ ∧ (Files.put ..).fixed = _
    unfold Files.put
    split <;> exact ⟨rfl, rfl⟩
  refine ⟨?_, hparts.1, hparts.2, ?_⟩
  · rw [WordsAt, hnode, if_pos rfl]
  · intro other
    by_cases hother : other = place
    · subst hother
      exact .inr ⟨rfl, _, _, h, (hnode other).trans (if_pos rfl)⟩
    · exact .inl ((hnode other).trans (if_neg hother))

theorem WordsAt.of_rewritten {files after : Files} {place : Place} {values : List UInt32}
    {places : Set Place} (h : files.WordsAt place values)
    (hrewritten : Rewritten places files after) (hplace : place ∉ places) :
    after.WordsAt place values :=
  (hrewritten.node?_of_not_mem hplace).trans h

end Files

/-! ## Opening, reading and writing -/

theorem Registry.perform_openWords {registry : Registry} {name : String} {world : World}
    {place : Place} {values : List UInt32}
    (hplace : world.files.locate (registry.path name) = .ok place)
    (h : world.files.WordsAt place values) :
    (registry.openWords name).perform world =
      (.ok { place, size := values.length }, world) := by
  have hfind : world.files.find (registry.path name) =
      .ok (place, .map { content := .words values }) :=
    Files.find_eq_ok_iff.mpr ⟨hplace, h⟩
  have hmap : (registry.findMap name).perform world = (.ok (place, .words values), world) := by
    unfold findMap
    rw [Operation.perform_bind_of_ok (Operation.perform_files world), hfind]
    rfl
  unfold openWords
  rw [Operation.perform_bind_of_ok hmap]
  rfl

namespace Operation

variable {map : OpenMap} {values : List UInt32} {world : World}
  (h : world.files.WordsAt map.place values) (hsize : map.size = values.length)
include h

theorem perform_current :
    (current map).perform world = (.ok (some { content := .words values }), world) := by
  have hnode : world.files.node? map.place = some (.map { content := .words values }) := h
  unfold current
  rw [perform_bind_of_ok (perform_files world), hnode]
  rfl

include hsize

theorem perform_wordSlots : (wordSlots map).perform world = (.ok (values.map some), world) := by
  have hslots : map.slots values 0 = values.map some := by
    simp [OpenMap.slots, hsize]
  unfold wordSlots
  rw [perform_bind_of_ok (perform_current h), ← hslots]
  rfl

theorem perform_readWords : (readWords map).perform world = (.ok values, world) := by
  unfold readWords
  rw [perform_bind_of_ok (perform_wordSlots h hsize), allSlots_map_some]
  rfl

theorem perform_readWord {index : Nat} {value : UInt32} (hindex : values[index]? = some value)
    (failure : Failure) : (readWord map index failure).perform world = (.ok value, world) := by
  unfold readWord
  rw [perform_bind_of_ok (perform_wordSlots h hsize), List.getElem?_map, hindex]
  rfl

/-- **A word is written** at a place that the array has, and nothing else is done. -/
theorem perform_writeWord {index : Nat} (hindex : index < values.length) (value : UInt32)
    (failure : Failure) :
    ∃ files, (writeWord map index value failure).perform world = (.ok (), { world with files }) ∧
      files.WordsAt map.place (values.set index value) ∧
      Files.Rewritten {map.place} world.files files := by
  obtain ⟨hwords, hrewritten⟩ := h.put (values.set index value)
  refine ⟨_, ?_, hwords, hrewritten⟩
  have hset : PinnedMap.setWord? { content := .words values } index value =
      some { content := .words (values.set index value) } := if_pos hindex
  unfold writeWord
  rw [if_neg (by omega)]
  show (current map >>= _).perform world = _
  rw [perform_bind_of_ok (perform_current h), Option.bind_some, hset]
  rfl

end Operation

end VideoGate
