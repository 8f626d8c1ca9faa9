import VideoGate.Json.Number
import VideoGate.Proofs.Text.Numeral

/-!
# Numbers are read back

A numeral goes on for as long as it can, so what is read from a text depends on what follows it.
What is read up to the end of a text is also read in front of a text that does not go on like a
number (`readNumber_readsAlike`), and in front of such a text the digits of a number below 2^64 are
read as this number (`readNumber_render`).
-/

namespace VideoGate.Json

open Numeral (digitValue? isDigit digitChar render)

/-- No digits in front of the text run into it. -/
def EndsDigits : List Char → Prop
  | [] => True
  | c :: _ => digitValue? c = none

/-- No numeral in front of the text runs into it. -/
def EndsNumber : List Char → Prop
  | [] => True
  | c :: _ => digitValue? c = none ∧ c ≠ '.' ∧ isExponentMark c = false

theorem endsNumber_nil : EndsNumber [] := trivial

theorem EndsNumber.endsDigits {rest : List Char} (h : EndsNumber rest) : EndsDigits rest := by
  cases rest with
  | nil => trivial
  | cons c rest => exact h.1

theorem isDigit_eq_false {c : Char} (h : digitValue? c = none) : isDigit c = false := by
  rw [isDigit, h, Option.isSome_none]

/-! ## Natural numbers -/

section Whole

variable {negative : Bool} {n : Nat} {rest : List Char}

theorem finishWhole_of_ends (h : EndsNumber rest) :
    finishWhole negative n rest = .ok (wholeNumber negative n, rest) := by
  cases rest with
  | nil => rfl
  | cons c rest =>
      obtain ⟨-, hpoint, hmark⟩ := h
      simp [finishWhole, hpoint, hmark]

theorem readWhole_of_endsDigits (h : EndsDigits rest) :
    readWhole negative n rest = finishWhole negative n rest := by
  cases rest with
  | nil => rfl
  | cons c rest => rw [readWhole, show digitValue? c = none from h]

theorem readWhole_of_ends (h : EndsNumber rest) :
    readWhole negative n rest = .ok (wholeNumber negative n, rest) := by
  rw [readWhole_of_endsDigits h.endsDigits, finishWhole_of_ends h]

theorem readWhole_digitChar {digit : Nat} (h : digit < 10)
    (hbound : n * 10 + digit < significandBound) :
    readWhole negative n (digitChar digit :: rest) =
      readWhole negative (n * 10 + digit) rest := by
  rw [readWhole, Numeral.digitValue?_digitChar h]
  exact if_pos hbound

theorem readNumber_of_pos {c : Char} (h : digitValue? c = some n) (hpos : 0 < n)
    (rest : List Char) : readNumber negative (c :: rest) = readWhole negative n rest := by
  cases n with
  | zero => exact absurd hpos (Nat.lt_irrefl 0)
  | succ n => simp only [readNumber, h]

/-- Goes on behind a zero that begins a numeral.  There is no digit. -/
def readBehindZero (negative : Bool) (text : List Char) : Reading Number :=
  match text with
  | [] => finishWhole negative 0 []
  | c :: _ => if isDigit c then .error .malformed else finishWhole negative 0 text

theorem readBehindZero_of_ends (h : EndsNumber rest) :
    readBehindZero negative rest = finishWhole negative 0 rest := by
  cases rest with
  | nil => rfl
  | cons c rest => simp only [readBehindZero, isDigit_eq_false h.1, Bool.false_eq_true, if_false]

theorem readNumber_of_zero {c : Char} (h : digitValue? c = some 0) (rest : List Char) :
    readNumber negative (c :: rest) = readBehindZero negative rest := by
  cases rest <;> simp only [readNumber, readBehindZero, h]

/-- Behind the digits of a number the number has been read. -/
theorem readNumber_render_eq (hpos : 0 < n) (hbound : n < significandBound) (rest : List Char) :
    readNumber negative (render n ++ rest) = readWhole negative n rest := by
  -- The last digit is the first thing that follows the digits before it.
  induction n using Numeral.render.induct generalizing rest with
  | case1 n h =>
      rw [Numeral.render_of_lt h, List.singleton_append,
        readNumber_of_pos (Numeral.digitValue?_digitChar h) hpos]
  | case2 n h ih =>
      have hparts : n / 10 * 10 + n % 10 = n := by omega
      rw [Numeral.render_of_le (Nat.not_lt.mp h), List.append_assoc, List.singleton_append,
        ih (by omega) (by omega), readWhole_digitChar (by omega) (hparts.symm ▸ hbound), hparts]

/-- **The digits of a number are read as the number.** -/
theorem readNumber_render (hbound : n < significandBound) (h : EndsNumber rest) :
    readNumber negative (render n ++ rest) = .ok (wholeNumber negative n, rest) := by
  cases n with
  | zero =>
      rw [Numeral.render_of_lt (by decide), List.singleton_append,
        readNumber_of_zero (Numeral.digitValue?_digitChar (by decide)), readBehindZero_of_ends h,
        finishWhole_of_ends h]
  | succ n => rw [readNumber_render_eq n.succ_pos hbound, readWhole_of_ends h]

end Whole

/-! ## What follows a numeral -/

/-- What is read from a text is also read when something follows that no numeral runs into. -/
def ReadsAlike (read : List Char → Reading Number) (text : List Char) : Prop :=
  ∀ ⦃rest left : List Char⦄ ⦃number : Number⦄, EndsNumber rest →
    read text = .ok (number, left) → read (text ++ rest) = .ok (number, left ++ rest)

namespace ReadsAlike

variable {read other : List Char → Reading Number} {text : List Char} {c : Char}

theorem of_error (fault : ReadError) (h : read text = .error fault) : ReadsAlike read text := by
  intro rest left number _ hread
  rw [h] at hread
  cases hread

/-- At its end a text is read as by a reader that stops at the end of a numeral in the same way. -/
theorem nil (h : ∀ {rest}, EndsNumber rest → read rest = other rest)
    (hother : ReadsAlike other []) : ReadsAlike read [] := by
  intro rest left number hrest hread
  rw [h endsNumber_nil] at hread
  rw [List.nil_append, h hrest]
  exact hother hrest hread

theorem cons (h : ∀ text, read (c :: text) = other text) (hother : ReadsAlike other text) :
    ReadsAlike read (c :: text) := by
  intro rest left number hrest hread
  rw [h] at hread
  rw [List.cons_append, h]
  exact hother hrest hread

/-- A reader may look at the first character and read the text all the same. -/
theorem behind {text : List Char} (c : Char) (h : ReadsAlike read (c :: text)) :
    ReadsAlike (fun text => read (c :: text)) text :=
  h

theorem ite {p : Prop} [Decidable p] (hread : ReadsAlike read text)
    (hother : ReadsAlike other text) :
    ReadsAlike (fun text => if p then read text else other text) text := by
  by_cases hp : p
  · simpa only [if_pos hp] using hread
  · simpa only [if_neg hp] using hother

end ReadsAlike

section Append

variable {negative : Bool} {significand : Nat} {exponent : Int}

theorem finish_readsAlike (text : List Char) :
    ReadsAlike (finish negative significand exponent) text := by
  intro rest left number _ h
  unfold finish at h ⊢
  cases hparts : ofParts negative significand exponent with
  | error fault => rw [hparts] at h; cases h
  | ok x => rw [hparts] at h; cases h; rfl

theorem ok_readsAlike (number : Number) (text : List Char) :
    ReadsAlike (fun text => .ok (number, text)) text := by
  intro rest left number _ h
  cases h
  rfl

theorem dropWhile_isDigit_append {rest : List Char} (hrest : EndsDigits rest) (text : List Char) :
    (text ++ rest).dropWhile isDigit = text.dropWhile isDigit ++ rest := by
  have hkept : rest.dropWhile isDigit = rest := by
    cases rest with
    | nil => rfl
    | cons c rest => rw [List.dropWhile_cons_of_neg (by simp [isDigit_eq_false hrest])]
  rw [List.dropWhile_append]
  split
  · rename_i h
    rw [List.isEmpty_iff.mp h, hkept, List.nil_append]
  · rfl

theorem ReadsAlike.behind_digits {read : List Char → Reading Number}
    (h : ∀ text, ReadsAlike read text) (text : List Char) :
    ReadsAlike (fun text => read (text.dropWhile isDigit)) text := by
  intro rest left number hrest hread
  simp only at hread ⊢
  rw [dropWhile_isDigit_append hrest.endsDigits]
  exact h _ hrest hread

theorem finishOutOfBounds_readsAlike (isZero exponentNegative : Bool) (text : List Char) :
    ReadsAlike (finishOutOfBounds negative isZero exponentNegative) text :=
  .ite (.of_error _ rfl) (.behind_digits (ok_readsAlike _) text)

/-! ### The exponent -/

section Exponent

variable {start : Int} {exponentNegative : Bool}

theorem readExponentDigits_of_endsDigits {exponent : Nat} {rest : List Char}
    (h : EndsDigits rest) :
    readExponentDigits negative significand start exponentNegative exponent rest =
      finish negative significand (readExponentDigits.shifted start exponentNegative exponent)
        rest := by
  cases rest with
  | nil => rfl
  | cons c rest => rw [readExponentDigits, show digitValue? c = none from h]

theorem readExponentDigits_readsAlike (exponent : Nat) (text : List Char) :
    ReadsAlike (readExponentDigits negative significand start exponentNegative exponent) text := by
  induction text generalizing exponent with
  | nil =>
      exact .nil (fun h => readExponentDigits_of_endsDigits h.endsDigits) (finish_readsAlike [])
  | cons c text ih =>
      cases hdigit : digitValue? c with
      | none =>
          exact .cons (fun _ => readExponentDigits_of_endsDigits hdigit)
            (.behind c (finish_readsAlike (c :: text)))
      | some digit =>
          have hstep : ∀ text,
              readExponentDigits negative significand start exponentNegative exponent (c :: text) =
                if exponent * 10 + digit < exponentBound then
                  readExponentDigits negative significand start exponentNegative
                    (exponent * 10 + digit) text
                else finishOutOfBounds negative (significand == 0) exponentNegative text :=
            fun text => by rw [readExponentDigits, hdigit]
          exact .cons hstep ((ih _).ite (finishOutOfBounds_readsAlike _ _ text))

/-- Reads the digits of an exponent, whose sign has been read.  There is at least one. -/
def readUnsignedExponent (negative : Bool) (significand : Nat) (start : Int)
    (exponentNegative : Bool) (text : List Char) : Reading Number :=
  match text with
  | [] => .error .endOfText
  | c :: rest =>
    match digitValue? c with
    | none => .error .malformed
    | some digit => readExponentDigits negative significand start exponentNegative digit rest

theorem readExponent_of_unsigned {c : Char} (hplus : c ≠ '+') (hminus : c ≠ '-')
    (text : List Char) :
    readExponent negative significand start (c :: text) =
      readUnsignedExponent negative significand start false (c :: text) := by
  cases hdigit : digitValue? c <;>
    simp [readExponent, readUnsignedExponent, hplus, hminus, hdigit]

theorem readUnsignedExponent_readsAlike (text : List Char) :
    ReadsAlike (readUnsignedExponent negative significand start exponentNegative) text := by
  cases text with
  | nil => exact .of_error _ rfl
  | cons c text =>
      cases hdigit : digitValue? c with
      | none => exact .of_error .malformed (by rw [readUnsignedExponent, hdigit])
      | some digit =>
          have hstep : ∀ text,
              readUnsignedExponent negative significand start exponentNegative (c :: text) =
                readExponentDigits negative significand start exponentNegative digit text :=
            fun text => by rw [readUnsignedExponent, hdigit]
          exact .cons hstep (readExponentDigits_readsAlike digit text)

theorem readExponent_readsAlike (text : List Char) :
    ReadsAlike (readExponent negative significand start) text := by
  cases text with
  | nil => exact .of_error _ rfl
  | cons c text =>
      by_cases hplus : c = '+'
      · subst hplus
        exact .cons (fun _ => rfl) (readUnsignedExponent_readsAlike text)
      by_cases hminus : c = '-'
      · subst hminus
        exact .cons (fun _ => rfl) (readUnsignedExponent_readsAlike text)
      · exact .cons (readExponent_of_unsigned hplus hminus)
          (.behind c (readUnsignedExponent_readsAlike (c :: text)))

end Exponent

theorem finishOrExponent_of_ends {rest : List Char} (h : EndsNumber rest) :
    finishOrExponent negative significand exponent rest =
      finish negative significand exponent rest := by
  cases rest with
  | nil => rfl
  | cons c rest => simp [finishOrExponent, h.2.2]

theorem finishOrExponent_readsAlike (text : List Char) :
    ReadsAlike (finishOrExponent negative significand exponent) text := by
  cases text with
  | nil => exact .nil finishOrExponent_of_ends (finish_readsAlike [])
  | cons c text =>
      exact .cons (fun _ => rfl)
        ((readExponent_readsAlike text).ite (.behind c (finish_readsAlike (c :: text))))

/-! ### The fraction -/

theorem readFraction_of_endsDigits {places : Nat} (hplaces : places ≠ 0) {rest : List Char}
    (h : EndsDigits rest) :
    readFraction negative significand exponent places rest =
      finishOrExponent negative significand (exponent - places) rest := by
  cases rest with
  | nil => rw [readFraction, if_neg hplaces, finishOrExponent]
  | cons c rest =>
      simp only [readFraction, show digitValue? c = none from h, if_neg hplaces]

theorem readFraction_readsAlike (significand places : Nat) (text : List Char) :
    ReadsAlike (readFraction negative significand exponent places) text := by
  induction text generalizing significand places with
  | nil =>
      by_cases hplaces : places = 0
      · exact .of_error .endOfText (by rw [readFraction, if_pos hplaces])
      · exact .nil (fun h => readFraction_of_endsDigits hplaces h.endsDigits)
          (finishOrExponent_readsAlike [])
  | cons c text ih =>
      cases hdigit : digitValue? c with
      | none =>
          by_cases hplaces : places = 0
          · exact .of_error .malformed (by simp only [readFraction, hdigit, if_pos hplaces])
          · exact .cons (fun _ => readFraction_of_endsDigits hplaces hdigit)
              (.behind c (finishOrExponent_readsAlike (c :: text)))
      | some digit =>
          have hstep : ∀ text,
              readFraction negative significand exponent places (c :: text) =
                if significand * 10 + digit < significandBound then
                  readFraction negative (significand * 10 + digit) exponent (places + 1) text
                else
                  finishOrExponent negative significand (exponent - places)
                    (text.dropWhile isDigit) :=
            fun text => by rw [readFraction, hdigit]
          exact .cons hstep ((ih _ _).ite (.behind_digits finishOrExponent_readsAlike text))

/-! ### The whole part -/

theorem readLongWhole_of_ends {places : Nat} {rest : List Char} (h : EndsNumber rest) :
    readLongWhole negative significand places rest =
      finishOrExponent negative significand places rest := by
  cases rest with
  | nil => rfl
  | cons c rest => simp [readLongWhole, isDigit_eq_false h.1, h.2.1]

theorem readLongWhole_readsAlike (places : Nat) (text : List Char) :
    ReadsAlike (readLongWhole negative significand places) text := by
  induction text generalizing places with
  | nil => exact .nil readLongWhole_of_ends (finishOrExponent_readsAlike [])
  | cons c text ih =>
      exact .cons (fun _ => rfl) ((ih _).ite ((readFraction_readsAlike _ _ text).ite
        (.behind c (finishOrExponent_readsAlike (c :: text)))))

theorem finishWhole_readsAlike (text : List Char) :
    ReadsAlike (finishWhole negative significand) text := by
  cases text with
  | nil => exact .nil finishWhole_of_ends (ok_readsAlike _ [])
  | cons c text =>
      exact .cons (fun _ => rfl) ((readFraction_readsAlike _ _ text).ite
        ((readExponent_readsAlike text).ite (.behind c (ok_readsAlike _ (c :: text)))))

theorem readWhole_readsAlike (significand : Nat) (text : List Char) :
    ReadsAlike (readWhole negative significand) text := by
  induction text generalizing significand with
  | nil => exact .nil readWhole_of_ends (ok_readsAlike _ [])
  | cons c text ih =>
      cases hdigit : digitValue? c with
      | none =>
          exact .cons (fun _ => readWhole_of_endsDigits hdigit)
            (.behind c (finishWhole_readsAlike (c :: text)))
      | some digit =>
          have hstep : ∀ text,
              readWhole negative significand (c :: text) =
                if significand * 10 + digit < significandBound then
                  readWhole negative (significand * 10 + digit) text
                else readLongWhole negative significand 1 text :=
            fun text => by rw [readWhole, hdigit]
          exact .cons hstep ((ih _).ite (readLongWhole_readsAlike _ text))

/-- **A number in front of a text that does not go on like a number is read as it is alone.** -/
theorem readNumber_readsAlike (text : List Char) : ReadsAlike (readNumber negative) text := by
  cases text with
  | nil => exact .of_error _ rfl
  | cons c text =>
      cases hdigit : digitValue? c with
      | none => exact .of_error .malformed (by simp only [readNumber, hdigit])
      | some digit =>
          rcases Nat.eq_zero_or_pos digit with rfl | hpos
          · refine .cons (readNumber_of_zero hdigit) ?_
            cases text with
            | nil => exact .nil readBehindZero_of_ends (finishWhole_readsAlike [])
            | cons d text =>
                exact .cons (fun _ => rfl)
                  (.ite (.of_error _ rfl) (.behind d (finishWhole_readsAlike (d :: text))))
          · exact .cons (readNumber_of_pos hdigit hpos) (readWhole_readsAlike digit text)

end Append

end VideoGate.Json
