import VideoGate.Proofs.Positional
import VideoGate.Proofs.Text.Numeral
import VideoGate.Text.Keyword

/-!
# Texts that spell a number

A numeral is a run of ASCII digits, with or without a plus sign in front, and spells the number that
has these digits to the base ten (`Spells`).  The reader takes one digit after the other and stops
at its bound.  Since a number only grows with every further digit, it stops at none that would stay
below the bound: what it reads are exactly the texts that spell such a number
(`parseBelow_eq_ok_iff`).  White space may stand around a numeral, and is taken away
(`spells_strip_iff`).
-/

namespace VideoGate

namespace Numeral

variable {text digits : List Char} {c : Char} {n bound value : Nat}

/-! ## Spelling -/

/-- The number that has these digits to the base ten. -/
def valueOf (digits : List Char) : Nat :=
  positional 10 (digits.map fun c => c.toNat - '0'.toNat)

/-- A text without the plus sign that may stand in front. -/
def unsigned : List Char → List Char
  | '+' :: text => text
  | text => text

/-- A text spells a number: it has one digit or more behind the sign, and nothing else.  Zeros may
lead. -/
structure Spells (text : List Char) (n : Nat) : Prop where
  ne_nil : unsigned text ≠ []
  digits : ∀ c ∈ unsigned text, c.isDigit = true
  value : valueOf (unsigned text) = n

instance (text : List Char) (n : Nat) : Decidable (Spells text n) :=
  decidable_of_iff
    (unsigned text ≠ [] ∧ (unsigned text).all Char.isDigit = true ∧ valueOf (unsigned text) = n)
    ⟨fun ⟨hne, hdigits, hvalue⟩ => ⟨hne, List.all_eq_true.mp hdigits, hvalue⟩,
      fun ⟨hne, hdigits, hvalue⟩ => ⟨hne, List.all_eq_true.mpr hdigits, hvalue⟩⟩

/-- A text spells one number at most. -/
theorem Spells.unique {m : Nat} (h : Spells text n) (h' : Spells text m) : n = m :=
  h.value.symm.trans h'.value

@[simp] theorem valueOf_nil : valueOf [] = 0 := rfl

theorem valueOf_cons (c : Char) (digits : List Char) :
    valueOf (c :: digits) = (c.toNat - '0'.toNat) * 10 ^ digits.length + valueOf digits := by
  rw [valueOf, List.map_cons, positional_cons, List.length_map, valueOf]

theorem valueOf_concat (digits : List Char) (c : Char) :
    valueOf (digits ++ [c]) = valueOf digits * 10 + (c.toNat - '0'.toNat) := by
  rw [valueOf, List.map_append, List.map_singleton, positional_concat, valueOf]

/-! ## Digits are read -/

theorem digitValue?_eq_some_iff {digit : Nat} :
    digitValue? c = some digit ↔ c.isDigit = true ∧ c.toNat - '0'.toNat = digit := by
  have hzero : '0'.toNat = 48 := rfl
  have hnine : '9'.toNat = 57 := rfl
  rw [Char.isDigit_iff_toNat, hzero, hnine]
  unfold digitValue?
  split
  case isTrue h => simp [h]
  case isFalse h => simp [h]

theorem digitValue?_eq_none_iff : digitValue? c = none ↔ c.isDigit = false := by
  cases hdigit : digitValue? c with
  | none =>
      refine iff_of_true rfl ?_
      by_contra hc
      rw [digitValue?_eq_some_iff.mpr ⟨Bool.eq_true_of_not_eq_false hc, rfl⟩] at hdigit
      cases hdigit
  | some digit => simp [(digitValue?_eq_some_iff.mp hdigit).1]

/-- Further digits are read onto a number exactly if the whole stays below the bound. -/
theorem readDigits_eq_ok_iff {overflow : Fault} :
    readDigits bound overflow value digits = .ok n ↔
      (∀ c ∈ digits, c.isDigit = true) ∧ value * 10 ^ digits.length + valueOf digits = n ∧
        (digits = [] ∨ n < bound) := by
  induction digits generalizing value with
  | nil =>
      simp [readDigits]
  | cons c digits ih =>
      rw [readDigits]
      cases hdigit : digitValue? c with
      | none =>
          have hc := digitValue?_eq_none_iff.mp hdigit
          refine iff_of_false nofun fun hall => ?_
          have hc' := hall.1 c List.mem_cons_self
          rw [hc] at hc'
          cases hc'
      | some digit =>
          obtain ⟨hc, hdigit⟩ := digitValue?_eq_some_iff.mp hdigit
          have hsum : value * 10 ^ (c :: digits).length + valueOf (c :: digits) =
              (value * 10 + digit) * 10 ^ digits.length + valueOf digits := by
            rw [valueOf_cons, hdigit, List.length_cons, Nat.pow_succ]
            ring
          have hgrows : value * 10 + digit ≤
              (value * 10 + digit) * 10 ^ digits.length + valueOf digits :=
            Nat.le_add_right_of_le (Nat.le_mul_of_pos_right _ (Nat.pow_pos (by decide)))
          dsimp only
          rw [hsum, List.forall_mem_cons]
          split
          case isTrue hbelow =>
            rw [ih]
            constructor
            · rintro ⟨hdigits, hn, hlast | hlt⟩
              · subst hlast
                refine ⟨⟨hc, hdigits⟩, hn, .inr ?_⟩
                rw [← hn]
                simpa using hbelow
              · exact ⟨⟨hc, hdigits⟩, hn, .inr hlt⟩
            · rintro ⟨⟨-, hdigits⟩, hn, hlast | hlt⟩
              · cases hlast
              · exact ⟨hdigits, hn, .inr hlt⟩
          case isFalse hpast =>
            refine iff_of_false nofun ?_
            rintro ⟨-, hn, hlast | hlt⟩
            · cases hlast
            · omega

/-! ## Numerals are read -/

theorem parseBelow_of_unsigned (h : unsigned text ≠ []) :
    parseBelow bound text = readDigits bound .tooLarge 0 (unsigned text) := by
  unfold unsigned parseBelow at *
  grind

theorem parseBelow_of_unsigned_eq_nil (bound : Nat) (h : unsigned text = []) :
    ∃ fault, parseBelow bound text = .error fault := by
  unfold unsigned at h
  split at h <;> subst h <;> exact ⟨_, rfl⟩

/-- **The reader accepts exactly the numerals of numbers below its bound.** -/
theorem parseBelow_eq_ok_iff : parseBelow bound text = .ok n ↔ Spells text n ∧ n < bound := by
  by_cases h : unsigned text = []
  case pos =>
    obtain ⟨fault, hfault⟩ := parseBelow_of_unsigned_eq_nil bound h
    rw [hfault]
    exact iff_of_false nofun fun hspells => hspells.1.ne_nil h
  case neg =>
    rw [parseBelow_of_unsigned h, readDigits_eq_ok_iff, Nat.zero_mul, Nat.zero_add]
    constructor
    · rintro ⟨hdigits, hvalue, hnil | hlt⟩
      · exact absurd hnil h
      · exact ⟨⟨h, hdigits, hvalue⟩, hlt⟩
    · rintro ⟨⟨-, hdigits, hvalue⟩, hlt⟩
      exact ⟨hdigits, hvalue, .inr hlt⟩

/-- A word is read from its numerals, and from nothing else. -/
theorem parseWord32_eq_ok_iff {text : String} {word : UInt32} :
    parseWord32 text = .ok word ↔ Spells text.toList word.toNat := by
  unfold parseWord32
  constructor
  · intro h
    cases hparse : parseBelow UInt32.size text.toList with
    | error fault =>
        rw [hparse] at h
        cases h
    | ok n =>
        rw [hparse] at h
        obtain ⟨hspells, hlt⟩ := parseBelow_eq_ok_iff.mp hparse
        have hword : UInt32.ofNat n = word := Except.ok.inj h
        rw [← hword, UInt32.toNat_ofNat_of_lt' hlt]
        exact hspells
  · intro h
    rw [parseBelow_eq_ok_iff.mpr ⟨h, word.toNat_lt⟩]
    exact congrArg Except.ok UInt32.ofNat_toNat

/-! ## Numbers are spelt -/

theorem valueOf_render (n : Nat) : valueOf (render n) = n := by
  have hdigit : ∀ digit < 10, (digitChar digit).toNat - '0'.toNat = digit := by decide
  induction n using render.induct with
  | case1 n h =>
      rw [render_of_lt h, valueOf_cons, hdigit n h]
      simp
  | case2 n h ih =>
      rw [render_of_le (Nat.not_lt.mp h), valueOf_concat, ih, hdigit _ (Nat.mod_lt n (by decide))]
      omega

/-- **A number is spelt by its digits.** -/
theorem spells_render (n : Nat) : Spells (render n) n := by
  have hdigits : ∀ c ∈ render n, c.isDigit = true := by
    intro c hc
    obtain ⟨digit, hdigit⟩ := Option.isSome_iff_exists.mp (isDigit_of_mem_render hc)
    exact (digitValue?_eq_some_iff.mp hdigit).1
  have hunsigned : unsigned (render n) = render n := by
    unfold unsigned
    split
    case h_1 text hplus =>
      have hsign := hdigits '+' (hplus ▸ List.mem_cons_self)
      exact absurd hsign (by decide)
    case h_2 => rfl
  constructor
  case ne_nil =>
    rw [hunsigned]
    exact render_ne_nil n
  case digits =>
    rw [hunsigned]
    exact hdigits
  case value =>
    rw [hunsigned]
    exact valueOf_render n

end Numeral

/-! ## White space at the ends -/

namespace Text

variable {content : String} {before core after : List Char}

/-- Nothing is taken from a text without white space, whatever white space is in front of it. -/
theorem dropWhile_isWhite_append (hbefore : ∀ c ∈ before, isWhite c = true) (hne : core ≠ [])
    (hcore : ∀ c ∈ core, isWhite c = false) (after : List Char) :
    (before ++ (core ++ after)).dropWhile isWhite = core ++ after := by
  obtain ⟨c, rest, rfl⟩ := List.exists_cons_of_ne_nil hne
  have hc : ¬ isWhite c = true := by
    rw [hcore c List.mem_cons_self]
    exact Bool.false_ne_true
  rw [List.dropWhile_append_of_pos hbefore, List.cons_append, List.dropWhile_cons_of_neg hc]

theorem strip_append (h : content.toList = before ++ core ++ after)
    (hbefore : ∀ c ∈ before, isWhite c = true) (hafter : ∀ c ∈ after, isWhite c = true)
    (hne : core ≠ []) (hcore : ∀ c ∈ core, isWhite c = false) : strip content = core := by
  -- From the end the text is read backwards, and what is behind the core stands in front of it.
  have hback : (core ++ after).reverse = after.reverse ++ (core.reverse ++ []) := by
    rw [List.reverse_append, List.append_nil]
  rw [strip, h, List.append_assoc, dropWhile_isWhite_append hbefore hne hcore, hback,
    dropWhile_isWhite_append (by simpa using hafter) (by simpa using hne) (by simpa using hcore),
    List.append_nil, List.reverse_reverse]

/-- Stripping takes nothing but white space. -/
theorem exists_eq_append_strip (content : String) : ∃ before after,
    content.toList = before ++ strip content ++ after ∧
      (∀ c ∈ before, isWhite c = true) ∧ ∀ c ∈ after, isWhite c = true := by
  refine ⟨content.toList.takeWhile isWhite,
    ((content.toList.dropWhile isWhite).reverse.takeWhile isWhite).reverse, ?_,
    List.all_eq_true.mp List.all_takeWhile, ?_⟩
  · rw [strip, List.append_assoc, ← List.reverse_append, List.takeWhile_append_dropWhile,
      List.reverse_reverse, List.takeWhile_append_dropWhile]
  · intro c hc
    exact List.all_eq_true.mp List.all_takeWhile c (List.mem_reverse.mp hc)

end Text

namespace Numeral

variable {text : List Char} {n : Nat}

/-- A text spells a number, between white space or at its ends. -/
def SpellsInWhite (text : List Char) (n : Nat) : Prop :=
  ∃ before numeral after, text = before ++ numeral ++ after ∧
    (∀ c ∈ before, Text.isWhite c = true) ∧ (∀ c ∈ after, Text.isWhite c = true) ∧
    Spells numeral n

theorem Spells.text_ne_nil (h : Spells text n) : text ≠ [] := by
  rintro rfl
  exact h.ne_nil rfl

/-- There is no white space in a numeral. -/
theorem Spells.isWhite_eq_false (h : Spells text n) : ∀ c ∈ text, Text.isWhite c = false := by
  have hranges : ∀ range ∈ Text.whiteRanges, range.2 < '0'.toNat ∨ '9'.toNat < range.1 := by decide
  have hdigit : ∀ c ∈ unsigned text, Text.isWhite c = false := by
    intro c hc
    obtain ⟨hlow, hhigh⟩ := Char.isDigit_iff_toNat.mp (h.digits c hc)
    rw [Text.isWhite, List.any_eq_false]
    intro range hrange
    rw [Bool.and_eq_true, decide_eq_true_eq, decide_eq_true_eq]
    rcases hranges range hrange with hbelow | habove <;> omega
  intro c hc
  unfold unsigned at hdigit
  split at hdigit
  case h_1 digits =>
    rcases List.mem_cons.mp hc with rfl | hc
    · decide
    · exact hdigit c hc
  case h_2 => exact hdigit c hc

/-- **What is left of a text without the white space at its ends is a numeral** exactly if the text
is one between white space. -/
theorem spells_strip_iff {content : String} :
    Spells (Text.strip content) n ↔ SpellsInWhite content.toList n := by
  constructor
  · intro h
    obtain ⟨before, after, hcontent, hbefore, hafter⟩ := Text.exists_eq_append_strip content
    exact ⟨before, _, after, hcontent, hbefore, hafter, h⟩
  · rintro ⟨before, numeral, after, hcontent, hbefore, hafter, hspells⟩
    rw [Text.strip_append hcontent hbefore hafter hspells.text_ne_nil hspells.isWhite_eq_false]
    exact hspells

end Numeral

end VideoGate
