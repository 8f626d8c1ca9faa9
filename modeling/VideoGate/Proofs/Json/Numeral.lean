import VideoGate.Proofs.Json.Taking

/-!
# Numbers, however they are written

A `NumberText` is a number as the notation has it: a sign, a whole part without needless zeros, a
fraction and an exponent.  Every such number is skipped (`skipNumber_render`).  What is read as a
natural number is a numeral without sign, fraction and exponent, and with a value that fits
(`toOption_readNatural`); everything else is a number of another kind, or too large to be one.
-/

namespace VideoGate.Json

open Numeral (digitValue? isDigit digitChar render)

/-! ## The notation -/

/-- Digits, at least one. -/
structure Digits where
  first : Fin 10
  more : List (Fin 10)
deriving DecidableEq, Repr

/-- Digits as they are written. -/
def Digits.text (digits : Digits) : List Char :=
  (digits.first :: digits.more).map fun digit : Fin 10 => digitChar digit

/-- The sign of an exponent, which may be left out. -/
inductive ExponentSign where
  | none
  | plus
  | minus
deriving DecidableEq, Repr

/-- The sign as it is written. -/
def ExponentSign.text : ExponentSign → List Char
  | none => []
  | plus => ['+']
  | minus => ['-']

/-- An exponent with its mark. -/
structure Exponent where
  upper : Bool
  sign : ExponentSign
  digits : Digits
deriving DecidableEq, Repr

/-- An exponent as it is written. -/
def Exponent.text (exponent : Exponent) : List Char :=
  (if exponent.upper then 'E' else 'e') :: (exponent.sign.text ++ exponent.digits.text)

/-- A number. -/
structure NumberText where
  negative : Bool
  whole : Nat
  fraction : Option Digits
  exponent : Option Exponent
deriving DecidableEq, Repr

namespace NumberText

/-- A fraction, if there is one, as it is written. -/
def fractionText : Option Digits → List Char
  | none => []
  | some digits => '.' :: digits.text

/-- An exponent, if there is one, as it is written. -/
def exponentText : Option Exponent → List Char
  | none => []
  | some exponent => exponent.text

/-- What follows the whole part. -/
def tail (number : NumberText) : List Char :=
  fractionText number.fraction ++ exponentText number.exponent

/-- A number as it is written. -/
def text (number : NumberText) : List Char :=
  (if number.negative then ['-'] else []) ++ (render number.whole ++ number.tail)

/-- The natural number, unless there is a sign, a fraction or an exponent. -/
def natural? (number : NumberText) : Option Nat :=
  if number.negative = false ∧ number.fraction = none ∧ number.exponent = none then
    some number.whole
  else none

end NumberText

/-! ## Digits -/

namespace Digits

theorem isDigit_of_mem {digits : Digits} {c : Char} (h : c ∈ digits.text) : isDigit c = true := by
  obtain ⟨digit, -, rfl⟩ := List.mem_map.mp h
  exact Numeral.isDigit_digitChar digit.isLt

theorem text_eq_cons (digits : Digits) : ∃ c rest, digits.text = c :: rest ∧ isDigit c = true :=
  ⟨_, _, rfl, Numeral.isDigit_digitChar digits.first.isLt⟩

end Digits

theorem dropWhile_digits {digits rest : List Char} (h : ∀ c ∈ digits, isDigit c = true)
    (hrest : EndsDigits rest) : (digits ++ rest).dropWhile isDigit = rest := by
  rw [dropWhile_isDigit_append hrest, List.dropWhile_eq_nil_iff.mpr h, List.nil_append]

/-! ## Skipping -/

section

variable {rest : List Char}

theorem ne_of_isDigit {c d : Char} (h : isDigit c = true) (hd : isDigit d = false) : c ≠ d :=
  fun heq => absurd (heq ▸ h) (hd ▸ Bool.false_ne_true)

theorem skipExponent_of_digit {c : Char} (sign : ExponentSign) (h : isDigit c = true)
    (text : List Char) :
    skipExponent (sign.text ++ c :: text) = .ok (text.dropWhile isDigit) := by
  have hplus : c ≠ '+' := ne_of_isDigit h rfl
  have hminus : c ≠ '-' := ne_of_isDigit h rfl
  cases sign <;> simp [ExponentSign.text, skipExponent, h, hplus, hminus]

theorem skipExponent_text (exponent : Exponent) (hrest : EndsDigits rest) :
    skipExponent (exponent.sign.text ++ (exponent.digits.text ++ rest)) = .ok rest := by
  obtain ⟨c, more, hcons, hdigit⟩ := exponent.digits.text_eq_cons
  have hmore : ∀ d ∈ more, isDigit d = true := fun d hd =>
    exponent.digits.isDigit_of_mem (hcons ▸ List.mem_cons_of_mem c hd)
  rw [hcons, List.cons_append, skipExponent_of_digit _ hdigit, dropWhile_digits hmore hrest]

/-- No whole part and no fraction in front of the text runs into it. -/
def EndsFraction : List Char → Prop
  | [] => True
  | c :: _ => digitValue? c = none ∧ c ≠ '.'

theorem EndsFraction.endsDigits {text : List Char} (h : EndsFraction text) : EndsDigits text := by
  cases text with
  | nil => trivial
  | cons c text => exact h.1

theorem endsFraction_exponentText (exponent : Option Exponent) (hrest : EndsNumber rest) :
    EndsFraction (NumberText.exponentText exponent ++ rest) := by
  match exponent, rest with
  | none, [] => trivial
  | none, _ :: _ => exact ⟨hrest.1, hrest.2.1⟩
  | some { upper := true, .. }, _ => exact ⟨rfl, (by decide : 'E' ≠ '.')⟩
  | some { upper := false, .. }, _ => exact ⟨rfl, (by decide : 'e' ≠ '.')⟩

theorem skipFraction_exponent (exponent : Option Exponent) (hrest : EndsNumber rest) :
    skipFraction (NumberText.exponentText exponent ++ rest) = .ok rest := by
  match exponent with
  | none =>
      rw [NumberText.exponentText, List.nil_append]
      cases rest with
      | nil => rfl
      | cons c rest => simp [skipFraction, hrest.2.1, hrest.2.2]
  | some exponent =>
      have hskip := skipExponent_text exponent hrest.endsDigits
      cases hupper : exponent.upper <;>
        simp [NumberText.exponentText, Exponent.text, skipFraction, hupper, isExponentMark, hskip]

theorem skipFraction_point (digits : Digits) {after : List Char} (hafter : EndsFraction after) :
    skipFraction ('.' :: (digits.text ++ after)) = skipFraction after := by
  obtain ⟨c, more, hcons, hdigit⟩ := digits.text_eq_cons
  have hdrop := dropWhile_digits (fun c => digits.isDigit_of_mem) hafter.endsDigits
  rw [hcons, List.cons_append] at hdrop ⊢
  simp only [skipFraction, if_pos, hdigit, hdrop]
  cases after with
  | nil => rfl
  | cons d after => simp only [if_neg hafter.2]

/-- What follows the whole part of a number is skipped. -/
theorem skipFraction_tail (number : NumberText) (hrest : EndsNumber rest) :
    skipFraction (number.tail ++ rest) = .ok rest := by
  have hexponent := skipFraction_exponent number.exponent hrest
  rw [NumberText.tail, List.append_assoc]
  cases number.fraction with
  | none => exact hexponent
  | some digits =>
      have hafter := endsFraction_exponentText number.exponent hrest
      rw [NumberText.fractionText, List.cons_append, skipFraction_point digits hafter, hexponent]

theorem endsDigits_tail (number : NumberText) (hrest : EndsNumber rest) :
    EndsDigits (number.tail ++ rest) := by
  rw [NumberText.tail, List.append_assoc]
  cases number.fraction with
  | none => exact (endsFraction_exponentText number.exponent hrest).endsDigits
  | some digits => exact (rfl : digitValue? '.' = none)

theorem skipNumber_zero (hrest : EndsDigits rest) :
    skipNumber ('0' :: rest) = skipFraction rest := by
  cases rest with
  | nil => rfl
  | cons c rest =>
      have hdigit : digitValue? '0' = some 0 := rfl
      simp only [skipNumber, hdigit, isDigit_eq_false hrest, Bool.false_eq_true, if_false]

theorem skipNumber_of_pos {c : Char} {digit : Nat} (h : digitValue? c = some digit)
    (hpos : 0 < digit) : skipNumber (c :: rest) = skipFraction (rest.dropWhile isDigit) := by
  cases digit with
  | zero => exact absurd hpos (Nat.lt_irrefl 0)
  | succ digit => simp only [skipNumber, h]

/-- **Every number is skipped.** -/
theorem skipNumber_render (number : NumberText) (hrest : EndsNumber rest) :
    skipNumber (render number.whole ++ (number.tail ++ rest)) = .ok rest := by
  have htail := endsDigits_tail number hrest
  rcases Nat.eq_zero_or_pos number.whole with hzero | hpos
  · rw [hzero, Numeral.render_of_lt (by decide), List.singleton_append]
    exact (skipNumber_zero htail).trans (skipFraction_tail number hrest)
  · obtain ⟨c, digits, digit, hcons, hdigit, hpositive⟩ := Numeral.render_eq_cons_of_pos hpos
    have hdigits : ∀ d ∈ digits, isDigit d = true := fun d hd =>
      Numeral.isDigit_of_mem_render (hcons ▸ List.mem_cons_of_mem c hd)
    rw [hcons, List.cons_append, skipNumber_of_pos hdigit hpositive,
      dropWhile_digits hdigits htail, skipFraction_tail number hrest]

end

/-! ## Reading -/

/-- What is read, if anything, is no natural number. -/
def NotNatural (reading : Reading Number) : Prop := ∀ n rest, reading ≠ .ok (.natural n, rest)

theorem notNatural_error (fault : ReadError) : NotNatural (.error fault) := nofun

theorem notNatural_float (x : Float) (rest : List Char) : NotNatural (.ok (.float x, rest)) := nofun

theorem NotNatural.ite {p : Prop} [Decidable p] {a b : Reading Number} (ha : NotNatural a)
    (hb : NotNatural b) : NotNatural (if p then a else b) := by
  split
  · exact ha
  · exact hb

section

variable {negative : Bool} {significand : Nat} {exponent : Int}

theorem notNatural_finish (rest : List Char) :
    NotNatural (finish negative significand exponent rest) := by
  unfold finish
  cases ofParts negative significand exponent <;> nofun

theorem notNatural_readExponentDigits {start : Int} {exponentNegative : Bool} (exponent : Nat)
    (text : List Char) : NotNatural
      (readExponentDigits negative significand start exponentNegative exponent text) := by
  induction text generalizing exponent with
  | nil => exact notNatural_finish []
  | cons c rest ih =>
      unfold readExponentDigits
      split
      · exact notNatural_finish _
      · exact (ih _).ite ((notNatural_error _).ite (notNatural_float _ _))

theorem notNatural_readExponent (start : Int) (text : List Char) :
    NotNatural (readExponent negative significand start text) := by
  unfold readExponent
  simp only
  split
  · exact notNatural_error _
  · split
    · exact notNatural_error _
    · exact notNatural_readExponentDigits _ _

theorem notNatural_finishOrExponent (text : List Char) :
    NotNatural (finishOrExponent negative significand exponent text) := by
  unfold finishOrExponent
  split
  · exact notNatural_finish []
  · exact (notNatural_readExponent _ _).ite (notNatural_finish _)

theorem notNatural_readFraction (significand places : Nat) (text : List Char) :
    NotNatural (readFraction negative significand exponent places text) := by
  induction text generalizing significand places with
  | nil => exact (notNatural_error _).ite (notNatural_finish [])
  | cons c rest ih =>
      unfold readFraction
      split
      · exact (notNatural_error _).ite (notNatural_finishOrExponent _)
      · exact (ih _ _).ite (notNatural_finishOrExponent _)

theorem notNatural_readLongWhole (places : Nat) (text : List Char) :
    NotNatural (readLongWhole negative significand places text) := by
  induction text generalizing places with
  | nil => exact notNatural_finish []
  | cons c rest ih =>
      unfold readLongWhole
      exact (ih _).ite ((notNatural_readFraction _ _ _).ite (notNatural_finishOrExponent _))

end

theorem notNatural_wholeNumber_negative (n : Nat) (rest : List Char) :
    NotNatural (.ok (wholeNumber true n, rest)) := by
  unfold wholeNumber
  rw [if_neg (by decide)]
  split <;> nofun

theorem notNatural_finishWhole_negative (n : Nat) (text : List Char) :
    NotNatural (finishWhole true n text) := by
  unfold finishWhole
  split
  · exact notNatural_wholeNumber_negative _ _
  · exact (notNatural_readFraction _ _ _).ite
      ((notNatural_readExponent _ _).ite (notNatural_wholeNumber_negative _ _))

theorem notNatural_readWhole_negative (n : Nat) (text : List Char) :
    NotNatural (readWhole true n text) := by
  induction text generalizing n with
  | nil => exact notNatural_finishWhole_negative _ _
  | cons c rest ih =>
      unfold readWhole
      split
      · exact notNatural_finishWhole_negative _ _
      · exact (ih _).ite (notNatural_readLongWhole _ _)

/-- A number with a sign in front is no natural number. -/
theorem notNatural_readNumber_negative (text : List Char) : NotNatural (readNumber true text) := by
  unfold readNumber
  split
  · exact notNatural_error _
  · split
    · exact notNatural_error _
    · split
      · exact notNatural_finishWhole_negative _ _
      · exact (notNatural_error _).ite (notNatural_finishWhole_negative _ _)
    · exact notNatural_readWhole_negative _ _

/-- Digits that do not fit are no natural number. -/
theorem notNatural_readNumber_of_le {n : Nat} (h : significandBound ≤ n) (rest : List Char) :
    NotNatural (readNumber false (render n ++ rest)) := by
  -- The last digit is the first that does not fit, or the digits before it do not fit already.
  induction n using Numeral.render.induct generalizing rest with
  | case1 n hn => exact absurd h (by unfold significandBound UInt64.size; omega)
  | case2 n hn ih =>
      rw [Numeral.render_of_le (Nat.not_lt.mp hn), List.append_assoc, List.singleton_append]
      by_cases hfits : n / 10 < significandBound
      · have hdigit : n % 10 < 10 := Nat.mod_lt n (by decide)
        have hfull : ¬ n / 10 * 10 + n % 10 < significandBound := by omega
        rw [readNumber_render_eq (by omega) hfits, readWhole, Numeral.digitValue?_digitChar hdigit]
        simp only [if_neg hfull]
        exact notNatural_readLongWhole _ _
      · exact ih (Nat.le_of_not_lt hfits) _

section

variable {number : NumberText} {rest : List Char}

theorem notNatural_finishWhole_exponent (n : Nat) (exponent : Exponent) (rest : List Char) :
    NotNatural (finishWhole false n (exponent.text ++ rest)) := by
  cases hupper : exponent.upper <;>
    simp [Exponent.text, hupper, finishWhole, isExponentMark, notNatural_readExponent]

/-- A number with a fraction or an exponent is no natural number. -/
theorem notNatural_finishWhole_tail (n : Nat)
    (h : ¬ (number.fraction = none ∧ number.exponent = none)) (rest : List Char) :
    NotNatural (finishWhole false n (number.tail ++ rest)) := by
  obtain ⟨negative, whole, fraction, exponent⟩ := number
  match fraction, exponent with
  | some digits, exponent => exact notNatural_readFraction _ _ _
  | none, some exponent => exact notNatural_finishWhole_exponent n exponent rest
  | none, none => exact absurd ⟨rfl, rfl⟩ h

/-- Behind digits that fit, the whole part has been read. -/
theorem readNumber_eq_finishWhole {n : Nat} (hfits : n < significandBound) {text : List Char}
    (htext : EndsDigits text) :
    readNumber false (render n ++ text) = finishWhole false n text := by
  rcases Nat.eq_zero_or_pos n with rfl | hpos
  · rw [Numeral.render_of_lt (by decide), List.singleton_append,
      readNumber_of_zero (Numeral.digitValue?_digitChar (by decide))]
    cases text with
    | nil => rfl
    | cons c text =>
        simp only [readBehindZero, isDigit_eq_false htext, Bool.false_eq_true, if_false]
  · rw [readNumber_render_eq hpos hfits, readWhole_of_endsDigits htext]

theorem notNatural_readNumber (h : number.natural? = none ∨ significandBound ≤ number.whole)
    (hrest : EndsNumber rest) :
    NotNatural (readNumber number.negative (render number.whole ++ (number.tail ++ rest))) := by
  cases hsign : number.negative with
  | true => exact notNatural_readNumber_negative _
  | false =>
      by_cases hfits : number.whole < significandBound
      · have htail : ¬ (number.fraction = none ∧ number.exponent = none) := fun hnone => by
          rw [NumberText.natural?, if_pos ⟨hsign, hnone⟩] at h
          exact h.elim nofun (Nat.not_le_of_lt hfits)
        rw [readNumber_eq_finishWhole hfits (endsDigits_tail number hrest)]
        exact notNatural_finishWhole_tail _ htail rest
      · exact notNatural_readNumber_of_le (Nat.le_of_not_lt hfits) _

theorem readAnyNumber_text (number : NumberText) (rest : List Char) :
    readAnyNumber (number.text ++ rest) =
      readNumber number.negative (render number.whole ++ (number.tail ++ rest)) := by
  rw [NumberText.text, List.append_assoc, List.append_assoc, readAnyNumber]
  cases number.negative with
  | true => rfl
  | false =>
      obtain ⟨c, digits, hcons, hdigit⟩ := Numeral.render_eq_cons number.whole
      have hminus : c ≠ '-' := ne_of_isDigit hdigit rfl
      rw [if_neg Bool.false_ne_true, List.nil_append, hcons, List.cons_append,
        skipBlanks_of_head (isBlank_eq_false_of_isDigit hdigit)]
      simp only [if_neg hminus, hdigit, if_true]

/-- A natural number has nothing but digits. -/
theorem natural_of_eq_some {n : Nat} (h : number.natural? = some n) :
    number.negative = false ∧ number.tail = [] ∧ number.whole = n := by
  unfold NumberText.natural? at h
  split at h
  · rename_i hnone
    obtain ⟨hsign, hfraction, hexponent⟩ := hnone
    rw [NumberText.tail, hfraction, hexponent]
    exact ⟨hsign, rfl, Option.some.inj h⟩
  · cases h

theorem toOption_readNatural_of_notNatural {bound : Nat} {text : List Char}
    (h : NotNatural (readAnyNumber text)) : (readNatural bound text).toOption = none := by
  unfold readNatural
  split
  · rfl
  · rename_i hread
    exact absurd hread (h _ _)
  · rfl
  · rfl

/-- **The natural numbers among all numbers.** -/
theorem toOption_readNatural {bound : Nat} (hbound : bound ≤ significandBound)
    (number : NumberText) (hrest : EndsNumber rest) :
    (readNatural bound (number.text ++ rest)).toOption =
      (number.natural?.filter (· < bound)).map fun n => (n, rest) := by
  have hother : number.natural? = none ∨ significandBound ≤ number.whole →
      (readNatural bound (number.text ++ rest)).toOption = none := fun h =>
    toOption_readNatural_of_notNatural (readAnyNumber_text number rest ▸
      notNatural_readNumber h hrest)
  cases hnatural : number.natural? with
  | none => exact hother (.inl hnatural)
  | some n =>
      obtain ⟨hsign, htail, rfl⟩ := natural_of_eq_some hnatural
      by_cases hfits : number.whole < significandBound
      · have hread := readAnyNumber_text number rest
        rw [hsign, htail, List.nil_append, readNumber_render hfits hrest] at hread
        rw [readNatural, hread]
        by_cases hn : number.whole < bound <;>
          simp [wholeNumber, hn, Except.toOption, Option.filter_some]
      · have hn : ¬ number.whole < bound := fun hn => hfits (hn.trans_le hbound)
        rw [hother (.inr (Nat.le_of_not_lt hfits))]
        simp [hn, Option.filter_some]

end

end VideoGate.Json
