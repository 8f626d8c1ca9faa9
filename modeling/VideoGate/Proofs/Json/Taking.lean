import Mathlib.Data.List.DropRight
import VideoGate.Json.Record
import VideoGate.Proofs.Json.Number
import VideoGate.Proofs.Json.Quoted

/-!
# What a reader takes

A reader *takes* a text for a value if it reads just this text as the value, whatever blanks stand
in front of it and whatever comes behind it, unless a numeral runs into that.  Lists and objects
are taken one item or member after the other, with any blanks between the tokens
(`takes_list`, `RecordReader.takes_read`).
-/

namespace VideoGate.Json

open Numeral (isDigit render)

/-! ## Blanks -/

/-- Nothing but blanks. -/
def AllBlank (text : List Char) : Prop := ∀ c ∈ text, isBlank c = true

theorem allBlank_nil : AllBlank [] := nofun

theorem skipBlanks_append {blanks : List Char} (h : AllBlank blanks) (text : List Char) :
    skipBlanks (blanks ++ text) = skipBlanks text :=
  List.dropWhile_append_of_pos h

theorem skipBlanks_of_head {c : Char} (h : isBlank c = false) (text : List Char) :
    skipBlanks (c :: text) = c :: text :=
  List.dropWhile_cons_of_neg (by simp [h])

theorem skipBlanks_skipBlanks (text : List Char) : skipBlanks (skipBlanks text) = skipBlanks text :=
  List.dropWhile_idempotent ..

theorem isBlank_eq_false_of_isDigit {c : Char} (h : isDigit c = true) : isBlank c = false := by
  rw [isBlank, Bool.or_eq_false_iff, Bool.or_eq_false_iff, Bool.or_eq_false_iff]
  refine ⟨⟨⟨?_, ?_⟩, ?_⟩, ?_⟩ <;>
    exact beq_false_of_ne fun hc => absurd (hc ▸ h) (by decide)

theorem endsNumber_of_isBlank {c : Char} (h : isBlank c = true) (rest : List Char) :
    EndsNumber (c :: rest) := by
  simp only [isBlank, Bool.or_eq_true, beq_iff_eq] at h
  rcases h with ((rfl | rfl) | rfl) | rfl <;> exact ⟨rfl, by decide, rfl⟩

theorem endsNumber_append {blanks rest : List Char} (h : AllBlank blanks)
    (hrest : EndsNumber rest) : EndsNumber (blanks ++ rest) := by
  cases blanks with
  | nil => exact hrest
  | cons c blanks => exact endsNumber_of_isBlank (h c List.mem_cons_self) _

/-! ## Taking -/

section

variable {α : Type} {reader : Reader α} {text : List Char} {value : α}

/-- The reader reads just this text as the value. -/
def Takes (reader : Reader α) (text : List Char) (value : α) : Prop :=
  ∀ ⦃blanks rest : List Char⦄, AllBlank blanks → EndsNumber rest →
    reader (blanks ++ (text ++ rest)) = .ok (value, rest)

theorem Takes.read_append (h : Takes reader text value) {rest : List Char}
    (hrest : EndsNumber rest) : reader (text ++ rest) = .ok (value, rest) :=
  h allBlank_nil hrest

/-- Blanks in front of a text belong to what is taken. -/
theorem Takes.behind_blanks (h : Takes reader text value) {blanks : List Char}
    (hblanks : AllBlank blanks) : Takes reader (blanks ++ text) value := by
  intro before rest hbefore hrest
  rw [List.append_assoc, ← List.append_assoc]
  refine h (fun c hc => ?_) hrest
  exact (List.mem_append.mp hc).elim (hbefore c) (hblanks c)

theorem Takes.map {β : Type} (h : Takes reader text value) (f : α → β) :
    Takes (fun text => (reader text).map fun (value, rest) => (f value, rest)) text (f value) := by
  intro blanks rest hblanks hrest
  simp only [h hblanks hrest, Except.map]

/-- The reader does not look at blanks in front of a value. -/
def SkipsBlanks (reader : Reader α) : Prop := ∀ text, reader (skipBlanks text) = reader text

theorem SkipsBlanks.takes (hskips : SkipsBlanks reader)
    (h : ∀ rest, EndsNumber rest → reader (text ++ rest) = .ok (value, rest)) :
    Takes reader text value := by
  intro blanks rest hblanks hrest
  rw [← hskips, skipBlanks_append hblanks, hskips]
  exact h rest hrest

/-- A value that makes up the whole text. -/
theorem Takes.readText_eq (h : Takes reader text value) :
    readText reader (String.ofList text) = .ok value := by
  have hread : reader (text ++ []) = .ok (value, []) := h.read_append endsNumber_nil
  rw [List.append_nil] at hread
  rw [readText, String.toList_ofList, hread]
  rfl

end

/-! ## Scalars -/

theorem takes_readString (text : String) : Takes readString (quote text) text := by
  have hskips : SkipsBlanks readString := fun text => by
    simp only [readString, skipBlanks_skipBlanks]
  refine hskips.takes fun rest _ => ?_
  have hspelled := spells_escaped text.toList rest
  rw [quote_eq, List.cons_append, readString, skipBlanks_of_head (by decide)]
  simp only [if_pos, hspelled, Except.map, String.ofList_toList]

section Numbers

variable {n bound : Nat}

theorem skipsBlanks_readAnyNumber : SkipsBlanks readAnyNumber := fun text => by
  simp only [readAnyNumber, skipBlanks_skipBlanks]

theorem readAnyNumber_render (h : n < significandBound) {rest : List Char}
    (hrest : EndsNumber rest) : readAnyNumber (render n ++ rest) = .ok (.natural n, rest) := by
  obtain ⟨c, digits, hcons, hdigit⟩ := Numeral.render_eq_cons n
  have hminus : c ≠ '-' := fun hc => absurd (hc ▸ hdigit) (by decide)
  have hread : readNumber false (render n ++ rest) = .ok (.natural n, rest) :=
    readNumber_render h hrest
  rw [hcons, List.cons_append] at hread ⊢
  rw [readAnyNumber, skipBlanks_of_head (isBlank_eq_false_of_isDigit hdigit)]
  simp only [if_neg hminus, hdigit, if_true]
  exact hread

theorem takes_readNatural (h : n < bound) (hbound : bound ≤ significandBound) :
    Takes (readNatural bound) (render n) n := by
  have hskips : SkipsBlanks (readNatural bound) := fun text => by
    rw [readNatural, readNatural, skipsBlanks_readAnyNumber]
  refine hskips.takes fun rest hrest => ?_
  rw [readNatural, readAnyNumber_render (h.trans_le hbound) hrest]
  exact if_pos h

theorem takes_readWord32 (n : UInt32) : Takes readWord32 (render n.toNat) n := by
  have htakes := (takes_readNatural n.toNat_lt (by decide)).map UInt32.ofNat
  rwa [UInt32.ofNat_toNat] at htakes

theorem takes_readWord64 (n : UInt64) : Takes readWord64 (render n.toNat) n := by
  have htakes := (takes_readNatural n.toNat_lt (Nat.le_refl _)).map UInt64.ofNat
  rwa [UInt64.ofNat_toNat] at htakes

theorem readAnyNumber_readsAlike (text : List Char) : ReadsAlike readAnyNumber text := by
  intro rest left number hrest h
  -- The text is more than blanks, so what follows it does not decide where the number begins.
  unfold readAnyNumber skipBlanks at h ⊢
  rw [List.dropWhile_append]
  cases hskip : text.dropWhile isBlank with
  | nil => rw [hskip] at h; cases h
  | cons c text =>
      rw [hskip] at h
      simp only [List.isEmpty_cons, Bool.false_eq_true, if_false, List.cons_append] at h ⊢
      split at h
      · rename_i hminus
        rw [if_pos hminus]
        exact readNumber_readsAlike text hrest h
      rename_i hminus
      rw [if_neg hminus]
      split at h
      · rename_i hdigit
        rw [if_pos hdigit]
        exact readNumber_readsAlike (c :: text) hrest h
      · cases h

/-- A float that is read from a text is read from it wherever it stands. -/
theorem takes_readFloat {text : List Char} {x : Float} (h : readFloat text = .ok (x, [])) :
    Takes readFloat text x := by
  have hskips : SkipsBlanks readFloat := fun text => by
    rw [readFloat, readFloat, skipsBlanks_readAnyNumber]
  refine hskips.takes fun rest hrest => ?_
  unfold readFloat at h ⊢
  cases hread : readAnyNumber text with
  | error fault => rw [hread] at h; cases h
  | ok result =>
      obtain ⟨number, left⟩ := result
      rw [readAnyNumber_readsAlike text hrest hread]
      rw [hread] at h
      cases number <;> cases h <;> rfl

end Numbers

/-! ## Lists and members -/

/-- What stands in front of an item or a member: blanks, and a comma among them unless it is the
first. -/
def Separates : Bool → List Char → Prop
  | true, gap => AllBlank gap
  | false, gap => ∃ before after, AllBlank before ∧ AllBlank after ∧ gap = before ++ ',' :: after

theorem endsNumber_of_separates {gap : List Char} (h : Separates false gap) (rest : List Char) :
    EndsNumber (gap ++ rest) := by
  obtain ⟨before, after, hbefore, -, rfl⟩ := h
  rw [List.append_assoc]
  exact endsNumber_append hbefore ⟨rfl, by decide, rfl⟩

section Items

variable {α : Type} {item : Reader α} {first : Bool} {gap blanks text : List Char}

theorem nextItem_ended (h : AllBlank blanks) (rest : List Char) :
    nextItem first (blanks ++ ']' :: rest) = .ok (.ended rest) := by
  rw [nextItem, skipBlanks_append h, skipBlanks_of_head (by decide)]
  rfl

theorem nextItem_item {c : Char} (h : Separates first gap) (hblank : isBlank c = false)
    (hend : c ≠ ']') (text : List Char) :
    nextItem first (gap ++ c :: text) = .ok (.item (c :: text)) := by
  have hskip := skipBlanks_of_head hblank text
  cases first with
  | true =>
      rw [nextItem, skipBlanks_append h, hskip]
      simp
  | false =>
      obtain ⟨before, after, hbefore, hafter, rfl⟩ := h
      rw [List.append_assoc, List.cons_append, nextItem, skipBlanks_append hbefore,
        skipBlanks_of_head (by decide)]
      simp [skipBlanks_append hafter, hskip, hend]

/-- The items of a list are taken one after the other, and the bracket that closes it. -/
inductive ItemsTake (item : Reader α) : Bool → List Char → List α → Prop
  | close {first : Bool} {blanks : List Char} (h : AllBlank blanks) :
      ItemsTake item first (blanks ++ [']']) []
  | item {first : Bool} {gap text more : List Char} {c : Char} {head : α} {tail : List α}
      (hgap : Separates first gap) (hblank : isBlank c = false) (hend : c ≠ ']')
      (hhead : Takes item (c :: text) head) (htail : ItemsTake item false more tail) :
      ItemsTake item first (gap ++ (c :: text ++ more)) (head :: tail)

theorem ItemsTake.endsNumber {items : List α} (h : ItemsTake item false text items)
    (rest : List Char) : EndsNumber (text ++ rest) := by
  cases h with
  | close hblanks =>
      rw [List.append_assoc]
      exact endsNumber_append hblanks ⟨rfl, by decide, rfl⟩
  | item hgap =>
      rw [List.append_assoc]
      exact endsNumber_of_separates hgap _

theorem ItemsTake.readItems_eq {items : List α} (h : ItemsTake item first text items) {fuel : Nat}
    (hfuel : text.length ≤ fuel) (rest : List Char) :
    readItems item fuel first (text ++ rest) = .ok (items, rest) := by
  -- Every item takes a character at least, so the fuel lasts up to the closing bracket.
  induction h generalizing fuel with
  | close hblanks =>
      cases fuel with
      | zero => simp at hfuel
      | succ fuel =>
          rw [List.append_assoc, List.singleton_append, readItems, nextItem_ended hblanks]
  | item hgap hblank hend hhead htail ih =>
      cases fuel with
      | zero => simp at hfuel
      | succ fuel =>
          simp only [List.length_append, List.length_cons] at hfuel
          rw [List.append_assoc, List.append_assoc, List.cons_append, readItems,
            nextItem_item hgap hblank hend]
          simp only
          rw [← List.cons_append, hhead.read_append (htail.endsNumber rest)]
          simp only
          rw [ih (by omega)]

/-- **Taking a list.** -/
theorem takes_list {items : List α} (h : ItemsTake item true text items) :
    Takes (readList item) ('[' :: text) items := by
  have hskips : SkipsBlanks (readList item) := fun text => by
    simp only [readList, skipBlanks_skipBlanks]
  refine hskips.takes fun rest _ => ?_
  rw [List.cons_append, readList, skipBlanks_of_head (by decide)]
  exact h.readItems_eq (by rw [List.length_append]; omega) rest

end Items

section Members

variable {α : Type} {member : α → String → Reader α} {first : Bool} {soFar final : α}
  {gap blanks text : List Char}

theorem nextMember_ended (h : AllBlank blanks) (rest : List Char) :
    nextMember first (blanks ++ '}' :: rest) = .ok (.ended rest) := by
  rw [nextMember, skipBlanks_append h, skipBlanks_of_head (by decide)]
  rfl

theorem nextMember_key (h : Separates first gap) (text : List Char) :
    nextMember first (gap ++ '"' :: text) = .ok (.key text) := by
  have hskip : skipBlanks ('"' :: text) = '"' :: text := skipBlanks_of_head (by decide) text
  cases first with
  | true =>
      rw [nextMember, skipBlanks_append h, hskip]
      rfl
  | false =>
      obtain ⟨before, after, hbefore, hafter, rfl⟩ := h
      rw [List.append_assoc, List.cons_append, nextMember, skipBlanks_append hbefore,
        skipBlanks_of_head (by decide)]
      simp [skipBlanks_append hafter, hskip]

theorem skipColon_append (h : AllBlank blanks) (text : List Char) :
    skipColon (blanks ++ ':' :: text) = .ok text := by
  rw [skipColon, skipBlanks_append h, skipBlanks_of_head (by decide)]
  rfl

/-- The members of an object are taken one after the other, and the brace that closes it; this leads
from what has been read so far to what has been read at the end. -/
inductive MembersTake (member : α → String → Reader α) : Bool → α → List Char → α → Prop
  | close {first : Bool} {soFar : α} {blanks : List Char} (h : AllBlank blanks) :
      MembersTake member first soFar (blanks ++ ['}']) soFar
  | member {first : Bool} {soFar next final : α} {gap written value more : List Char}
      {key : String} (hgap : Separates first gap) (hkey : Spells written key.toList)
      (hvalue : Takes (member soFar key) value next)
      (hmore : MembersTake member false next more final) :
      MembersTake member first soFar (gap ++ '"' :: (written ++ (value ++ more))) final

theorem MembersTake.endsNumber (h : MembersTake member false soFar text final)
    (rest : List Char) : EndsNumber (text ++ rest) := by
  cases h with
  | close hblanks =>
      rw [List.append_assoc]
      exact endsNumber_append hblanks ⟨rfl, by decide, rfl⟩
  | member hgap =>
      rw [List.append_assoc]
      exact endsNumber_of_separates hgap _

theorem MembersTake.readMembers_eq (h : MembersTake member first soFar text final) {fuel : Nat}
    (hfuel : text.length ≤ fuel) (rest : List Char) :
    readMembers member fuel first soFar (text ++ rest) = .ok (final, rest) := by
  induction h generalizing fuel with
  | close hblanks =>
      cases fuel with
      | zero => simp at hfuel
      | succ fuel =>
          rw [List.append_assoc, List.singleton_append, readMembers, nextMember_ended hblanks]
  | member hgap hkey hvalue hmore ih =>
      cases fuel with
      | zero => simp at hfuel
      | succ fuel =>
          simp only [List.length_append, List.length_cons] at hfuel
          rw [List.append_assoc, List.cons_append, readMembers, nextMember_key hgap]
          simp only
          rw [List.append_assoc, hkey]
          simp only [String.ofList_toList]
          rw [List.append_assoc, hvalue.read_append (hmore.endsNumber rest)]
          simp only
          rw [ih (by omega)]

end Members

/-! ## Records -/

section

variable {α : Type} {reader member : Reader α} {text : List Char} {value : α}

/-- What stands behind a colon is taken with the colon. -/
theorem Takes.behind_colon (h : Takes reader text value)
    (hmember : ∀ {before after}, skipColon before = .ok after → member before = reader after) :
    Takes member (':' :: text) value := by
  intro blanks rest hblanks hrest
  rw [List.cons_append, hmember (skipColon_append hblanks (text ++ rest))]
  exact h.read_append hrest

end

namespace RecordReader

variable {δ α : Type} {shape : RecordReader δ α} {draft next : δ} {text : List Char}

/-- A member is taken as the field of its name, if this has not been read before. -/
theorem takes_readMember {field : FieldReader δ} {key : String}
    (hfield : shape.fields.find? (·.name == key) = some field)
    (hset : field.isSet draft = false) (h : Takes (field.read draft) text next) :
    Takes (shape.readMember draft key) (':' :: text) next := by
  refine h.behind_colon fun hcolon => ?_
  simp only [readMember, hfield, hset, hcolon, Bool.false_eq_true, if_false]

/-- **Taking a record.** -/
theorem takes_read {value : α} (h : MembersTake shape.readMember true shape.empty text draft)
    (hcomplete : shape.complete draft = .ok value) : Takes shape.read ('{' :: text) value := by
  have hskips : SkipsBlanks shape.read := fun text => by
    simp only [read, skipBlanks_skipBlanks]
  refine hskips.takes fun rest _ => ?_
  have hfuel : text.length ≤ (text ++ rest).length + 1 := by rw [List.length_append]; omega
  have hread := h.readMembers_eq hfuel rest
  rw [List.cons_append, read, skipBlanks_of_head (by decide)]
  simp only [if_pos, hread, hcomplete]

end RecordReader

end VideoGate.Json
