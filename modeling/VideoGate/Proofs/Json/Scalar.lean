import VideoGate.Proofs.Json.Literal
import VideoGate.Proofs.Json.Numeral

/-!
# Values, however they are written

What a reader makes of a value does not depend on the blanks in front of it or on what comes behind
it: it *answers* the text of the value, with what it reads from it or with a refusal.  A reader of
truth values, of texts or of words answers a value of its type with this value, and any other value
with a refusal.  A value that holds no other values is skipped whatever it is
(`ValueText.skipValue_eq`).
-/

namespace VideoGate.Json

open Numeral (isDigit render)

/-! ## The notation -/

/-- A value as it is written. -/
inductive ValueText where
  | null
  | bool (value : Bool)
  | number (written : NumberText)
  | string (pieces : List Piece)
  /-- A list or an object, with everything that stands behind its opening bracket. -/
  | nested (bracket : Bracket) (inside : List Char)

namespace ValueText

/-- The characters of a value. -/
def text : ValueText → List Char
  | null => ['n', 'u', 'l', 'l']
  | bool true => ['t', 'r', 'u', 'e']
  | bool false => ['f', 'a', 'l', 's', 'e']
  | number written => written.text
  | string pieces => '"' :: (Piece.spelling pieces ++ ['"'])
  | nested .list inside => '[' :: inside
  | nested .object inside => '{' :: inside

/-- Does the value hold no other values? -/
def isScalar : ValueText → Bool
  | nested _ _ => false
  | _ => true

/-- The truth value that is written. -/
def bool? : ValueText → Option Bool
  | bool value => some value
  | _ => none

/-- The word of 32 bits that is written. -/
def word32? : ValueText → Option UInt32
  | number written => (written.natural?.filter (· < UInt32.size)).map UInt32.ofNat
  | _ => none

/-- The text that is written. -/
def string? : ValueText → Option String
  | string pieces => (Piece.decode? pieces).map String.ofList
  | _ => none

end ValueText

/-! ## Answers -/

section

variable {α : Type} {reader : Reader α} {text : List Char} {answer : Option α}

/-- What the reader reads from just this text, if anything. -/
def Answers (reader : Reader α) (text : List Char) (answer : Option α) : Prop :=
  ∀ ⦃blanks rest : List Char⦄, AllBlank blanks → EndsNumber rest →
    (reader (blanks ++ (text ++ rest))).toOption = answer.map fun value => (value, rest)

theorem SkipsBlanks.answers (hskips : SkipsBlanks reader)
    (h : ∀ rest, EndsNumber rest →
      (reader (text ++ rest)).toOption = answer.map fun value => (value, rest)) :
    Answers reader text answer := by
  intro blanks rest hblanks hrest
  rw [← hskips, skipBlanks_append hblanks, hskips]
  exact h rest hrest

theorem toOption_map {β γ : Type} (reading : Except ReadError β) (f : β → γ) :
    (reading.map f).toOption = reading.toOption.map f := by
  cases reading <;> rfl

theorem Answers.map {β : Type} (h : Answers reader text answer) (f : α → β) :
    Answers (fun text => (reader text).map fun (value, rest) => (f value, rest)) text
      (answer.map f) := by
  intro blanks rest hblanks hrest
  simp only [toOption_map, h hblanks hrest, Option.map_map]
  rfl

end

/-! ## What a value begins with -/

namespace NumberText

theorem text_eq_cons (number : NumberText) :
    ∃ c rest, number.text = c :: rest ∧ (c = '-' ∨ isDigit c = true) := by
  cases hsign : number.negative with
  | true => exact ⟨'-', _, by rw [text, hsign]; rfl, .inl rfl⟩
  | false =>
      obtain ⟨c, digits, hcons, hdigit⟩ := Numeral.render_eq_cons number.whole
      refine ⟨c, digits ++ number.tail, ?_, .inr hdigit⟩
      rw [text, hsign, hcons]
      rfl

end NumberText

/-- The characters with which a value of each type begins. -/
def ValueText.Begins (c : Char) : ValueText → Prop
  | null => c = 'n'
  | bool true => c = 't'
  | bool false => c = 'f'
  | number _ => c = '-' ∨ isDigit c = true
  | string _ => c = '"'
  | nested .list _ => c = '['
  | nested .object _ => c = '{'

namespace ValueText

theorem text_eq_cons (value : ValueText) :
    ∃ c rest, value.text = c :: rest ∧ value.Begins c := by
  cases value with
  | null | string => exact ⟨_, _, rfl, rfl⟩
  | bool value => cases value <;> exact ⟨_, _, rfl, rfl⟩
  | number written => exact written.text_eq_cons
  | nested bracket => cases bracket <;> exact ⟨_, _, rfl, rfl⟩

theorem Begins.isBlank_eq {c : Char} {value : ValueText} (h : value.Begins c) :
    isBlank c = false := by
  cases value with
  | null | string => exact h ▸ rfl
  | bool value => cases value <;> exact h ▸ rfl
  | number => exact h.elim (fun h => h ▸ rfl) isBlank_eq_false_of_isDigit
  | nested bracket => cases bracket <;> exact h ▸ rfl

/-! ## The readers -/

/-- A reader that does not begin as the value does refuses it. -/
theorem answers_none {α : Type} {reader : Reader α} {value : ValueText}
    (hskips : SkipsBlanks reader)
    (h : ∀ c rest, value.Begins c → (reader (c :: rest)).toOption = none) :
    Answers reader value.text none := by
  obtain ⟨c, more, hcons, hbegins⟩ := value.text_eq_cons
  refine hskips.answers fun rest _ => ?_
  rw [hcons, List.cons_append]
  exact h c _ hbegins

theorem answers_readBool (value : ValueText) : Answers readBool value.text value.bool? := by
  have hskips : SkipsBlanks readBool := fun text => by simp only [readBool, skipBlanks_skipBlanks]
  have hother : ∀ {c : Char} {rest : List Char}, isBlank c = false → c ≠ 't' → c ≠ 'f' →
      (readBool (c :: rest)).toOption = none := by
    intro c rest hblank htrue hfalse
    rw [readBool, skipBlanks_of_head hblank]
    simp only [if_neg htrue, if_neg hfalse]
    rfl
  cases value with
  | bool value => cases value <;> exact hskips.answers fun rest _ => rfl
  | number =>
      refine answers_none hskips fun c rest hbegins => hother hbegins.isBlank_eq ?_ ?_
      · exact hbegins.elim (fun h => h ▸ by decide) (ne_of_isDigit · rfl)
      · exact hbegins.elim (fun h => h ▸ by decide) (ne_of_isDigit · rfl)
  | null | string =>
      exact answers_none hskips fun c rest hbegins =>
        hother hbegins.isBlank_eq (hbegins ▸ by decide) (hbegins ▸ by decide)
  | nested bracket =>
      cases bracket <;> exact answers_none hskips fun c rest hbegins =>
        hother hbegins.isBlank_eq (hbegins ▸ by decide) (hbegins ▸ by decide)

theorem answers_readString (value : ValueText) :
    Answers readString value.text value.string? := by
  have hskips : SkipsBlanks readString := fun text => by
    simp only [readString, skipBlanks_skipBlanks]
  have hother : ∀ {c : Char} {rest : List Char}, isBlank c = false → c ≠ '"' →
      (readString (c :: rest)).toOption = none := by
    intro c rest hblank hquote
    rw [readString, skipBlanks_of_head hblank]
    simp only [if_neg hquote]
    rfl
  cases value with
  | string pieces =>
      refine hskips.answers fun rest _ => ?_
      have hread := Piece.toOption_readQuoted pieces rest
      rw [text, List.cons_append, List.append_assoc, List.singleton_append, readString,
        skipBlanks_of_head (by decide)]
      simp only [if_pos, toOption_map, hread, string?, Option.map_map]
      rfl
  | number =>
      refine answers_none hskips fun c rest hbegins => hother hbegins.isBlank_eq ?_
      exact hbegins.elim (fun h => h ▸ by decide) (ne_of_isDigit · rfl)
  | null =>
      exact answers_none hskips fun c rest hbegins =>
        hother hbegins.isBlank_eq (hbegins ▸ by decide)
  | bool value =>
      cases value <;> exact answers_none hskips fun c rest hbegins =>
        hother hbegins.isBlank_eq (hbegins ▸ by decide)
  | nested bracket =>
      cases bracket <;> exact answers_none hskips fun c rest hbegins =>
        hother hbegins.isBlank_eq (hbegins ▸ by decide)

theorem answers_readWord32 (value : ValueText) :
    Answers readWord32 value.text value.word32? := by
  have hskips : SkipsBlanks (readNatural UInt32.size) := fun text => by
    rw [readNatural, readNatural, skipsBlanks_readAnyNumber]
  have hother : ∀ {c : Char} {rest : List Char}, isBlank c = false → c ≠ '-' →
      isDigit c = false → (readNatural UInt32.size (c :: rest)).toOption = none := by
    intro c rest hblank hminus hdigit
    rw [readNatural, readAnyNumber, skipBlanks_of_head hblank]
    simp only [if_neg hminus, hdigit, Bool.false_eq_true, if_false]
    rfl
  cases value with
  | number written =>
      refine Answers.map (hskips.answers fun rest hrest => ?_) UInt32.ofNat
      exact toOption_readNatural (by decide) written hrest
  | null | string =>
      refine Answers.map (answers_none hskips fun c rest hbegins => ?_) UInt32.ofNat
      exact hother hbegins.isBlank_eq (hbegins ▸ by decide) (hbegins ▸ by decide)
  | bool value =>
      cases value <;>
        refine Answers.map (answers_none hskips fun c rest hbegins => ?_) UInt32.ofNat <;>
        exact hother hbegins.isBlank_eq (hbegins ▸ by decide) (hbegins ▸ by decide)
  | nested bracket =>
      cases bracket <;>
        refine Answers.map (answers_none hskips fun c rest hbegins => ?_) UInt32.ofNat <;>
        exact hother hbegins.isBlank_eq (hbegins ▸ by decide) (hbegins ▸ by decide)

/-! ## Skipping -/

theorem skipValue_of_skipOne {text rest : List Char} (h : skipOne [] text = .ok (.done rest)) :
    skipValue text = .ok rest := by
  rw [skipValue, skipValues, h]

/-- A number is skipped from its first character on. -/
theorem skipOne_number (written : NumberText) {rest : List Char} (hrest : EndsNumber rest) :
    skipOne [] (written.text ++ rest) = .ok (.done rest) := by
  have hskip := skipNumber_render written hrest
  rw [NumberText.text, List.append_assoc, List.append_assoc, skipOne]
  cases written.negative with
  | true =>
      rw [if_pos rfl, List.singleton_append, skipBlanks_of_head (by decide)]
      simp [hskip, afterValue]
  | false =>
      obtain ⟨c, digits, hcons, hdigit⟩ := Numeral.render_eq_cons written.whole
      have hne : ∀ d, isDigit d = false → c ≠ d := fun d => ne_of_isDigit hdigit
      rw [hcons, List.cons_append] at hskip
      rw [if_neg Bool.false_ne_true, List.nil_append, hcons, List.cons_append,
        skipBlanks_of_head (isBlank_eq_false_of_isDigit hdigit)]
      simp only [if_neg (hne 'n' rfl), if_neg (hne 't' rfl), if_neg (hne 'f' rfl),
        if_neg (hne '-' rfl), hdigit, if_true, hskip, afterValue]

/-- **A value that holds no other values is skipped.** -/
theorem skipValue_eq {value : ValueText} (h : value.isScalar = true) {blanks rest : List Char}
    (hblanks : AllBlank blanks) (hrest : EndsNumber rest) :
    skipValue (blanks ++ (value.text ++ rest)) = .ok rest := by
  refine skipValue_of_skipOne ?_
  have hskips : skipOne [] (blanks ++ (value.text ++ rest)) = skipOne [] (value.text ++ rest) := by
    simp only [skipOne, skipBlanks_append hblanks]
  rw [hskips]
  cases value with
  | null => rfl
  | bool value => cases value <;> rfl
  | nested => cases h
  | number written => exact skipOne_number written hrest
  | string pieces =>
      have hskip := Piece.skipQuoted_spelling pieces rest
      rw [text, List.cons_append, List.append_assoc, List.singleton_append, skipOne,
        skipBlanks_of_head (by decide)]
      simp [hskip, afterValue, isDigit, Numeral.digitValue?]

end ValueText

end VideoGate.Json
