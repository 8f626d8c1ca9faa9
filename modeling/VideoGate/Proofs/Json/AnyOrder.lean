import Mathlib.Data.List.Perm.Basic

/-!
# Members in any order

The members of an object are taken one after the other, and each changes what has been read so far.
If any two of them can be taken in either order, all of them can be taken in any order
(`foldlM_perm`), and those that change nothing can be left out (`foldlM_filter`).  What remains can
be put into the order of a list of keys, if each key comes once (`filter_perm_filterMap_entryOf?`).
-/

namespace VideoGate.Json

/-! ## Steps in any order -/

section

variable {δ β : Type} {step : δ → β → Option δ}

/-- Steps that can be taken in either order can be taken in any order. -/
theorem foldlM_perm
    (hcomm : ∀ draft a b, (step draft a).bind (step · b) = (step draft b).bind (step · a))
    {first second : List β} (h : first.Perm second) (draft : δ) :
    first.foldlM step draft = second.foldlM step draft := by
  induction h generalizing draft with
  | nil => rfl
  | cons a _ ih =>
      rw [List.foldlM_cons, List.foldlM_cons]
      exact Option.bind_congr fun next _ => ih next
  | swap a b rest =>
      simp only [List.foldlM_cons, Option.bind_eq_bind, ← Option.bind_assoc, hcomm draft a b]
  | trans _ _ ihfirst ihsecond => exact (ihfirst draft).trans (ihsecond draft)

/-- Steps that lead nowhere else can be left out. -/
theorem foldlM_filter {p : β → Bool} {steps : List β}
    (hskip : ∀ a ∈ steps, p a = false → ∀ draft, step draft a = some draft) (draft : δ) :
    (steps.filter p).foldlM step draft = steps.foldlM step draft := by
  induction steps generalizing draft with
  | nil => rfl
  | cons a steps ih =>
      obtain ⟨hfirst, hrest⟩ := List.forall_mem_cons.mp hskip
      cases ha : p a with
      | true =>
          rw [List.filter_cons_of_pos ha, List.foldlM_cons, List.foldlM_cons]
          exact Option.bind_congr fun next _ => ih hrest next
      | false =>
          rw [List.filter_cons_of_neg (by simp [ha]), List.foldlM_cons, hfirst ha draft]
          exact ih hrest draft

/-- A step that leads nowhere ends the whole row. -/
theorem foldlM_eq_none {steps : List β} {a : β} (ha : a ∈ steps)
    (hnone : ∀ draft, step draft a = none) (draft : δ) : steps.foldlM step draft = none := by
  induction steps generalizing draft with
  | nil => cases ha
  | cons first steps ih =>
      rw [List.foldlM_cons]
      rcases List.mem_cons.mp ha with rfl | ha
      · rw [hnone]
        rfl
      · cases step draft first with
        | none => rfl
        | some next => exact ih ha next

end

/-! ## Picking entries by their keys -/

section

variable {β κ : Type} [DecidableEq κ] {key? : β → Option κ} {entries : List β}

/-- The first entry with a key. -/
def entryOf? (key? : β → Option κ) (entries : List β) (key : κ) : Option β :=
  entries.find? fun entry => key? entry = some key

theorem key?_of_entryOf? {entry : β} {key : κ} (h : entryOf? key? entries key = some entry) :
    key? entry = some key := by
  have hfound := List.find?_some h
  exact of_decide_eq_true hfound

theorem entryOf?_cons_self {entry : β} {key : κ} (h : key? entry = some key) :
    entryOf? key? (entry :: entries) key = some entry :=
  List.find?_cons_of_pos (decide_eq_true h)

theorem entryOf?_cons_of_ne {entry : β} {key : κ} (h : key? entry ≠ some key) :
    entryOf? key? (entry :: entries) key = entryOf? key? entries key :=
  List.find?_cons_of_neg (by simpa using h)

/-- The entries with a key are those that are found under the keys, if each key comes once. -/
theorem filter_perm_filterMap_entryOf? {keys : List κ} (hkeys : keys.Nodup)
    (h : (entries.filterMap key?).Perm keys) :
    (entries.filter fun entry => (key? entry).isSome).Perm
      (keys.filterMap (entryOf? key? entries)) := by
  induction entries generalizing keys with
  | nil =>
      obtain rfl := List.nil_perm.mp h
      exact .refl _
  | cons entry entries ih =>
      cases hkey : key? entry with
      | none =>
          rw [List.filterMap_cons_none hkey] at h
          rw [List.filter_cons_of_neg (by simp [hkey])]
          have hfound : ∀ key ∈ keys,
              entryOf? key? (entry :: entries) key = entryOf? key? entries key :=
            fun key _ => entryOf?_cons_of_ne (by simp [hkey])
          rw [List.filterMap_congr hfound]
          exact ih hkeys h
      | some key =>
          -- The entry is found under its own key, and no other key finds it.
          rw [List.filterMap_cons_some hkey] at h
          rw [List.filter_cons_of_pos (by simp [hkey])]
          have hmem : key ∈ keys := h.mem_iff.mp List.mem_cons_self
          have hsplit : keys.Perm (key :: keys.erase key) := List.perm_cons_erase hmem
          have hfound : ∀ other ∈ keys.erase key,
              entryOf? key? (entry :: entries) other = entryOf? key? entries other := by
            intro other hother
            have hne : other ≠ key := (hkeys.mem_erase_iff.mp hother).1
            exact entryOf?_cons_of_ne fun hsame => hne (Option.some.inj (hsame.symm.trans hkey))
          have hrest := ih (hkeys.erase key) (h.trans hsplit).cons_inv
          refine .trans ?_ (hsplit.filterMap _).symm
          rw [List.filterMap_cons_some (entryOf?_cons_self hkey), List.filterMap_congr hfound]
          exact hrest.cons entry

end

end VideoGate.Json
