import VideoGate.Json.Quoted

/-!
# Quoted text is read back

Reading takes what was written for one character as this character and goes on behind it
(`readQuoted_escape`), so a text is read back from between its quotes whatever characters it has
(`spells_escaped`).
-/

namespace VideoGate.Json

/-- Behind its opening quote, `written` stands for `text`, whatever follows its closing quote. -/
def Spells (written text : List Char) : Prop :=
  ∀ rest, readQuoted (written ++ rest) = .ok (text, rest)

/-! ## Characters by their numbers -/

theorem hexValue?_hexDigit : ∀ {digit : Nat}, digit < 16 →
    hexValue? (hexDigit digit) = some digit := by
  decide

theorem readHex_of_digits {a b c d : Char} {w x y z : Nat} (ha : hexValue? a = some w)
    (hb : hexValue? b = some x) (hc : hexValue? c = some y) (hd : hexValue? d = some z)
    (rest : List Char) :
    readHex (a :: b :: c :: d :: rest) = .ok (((w * 16 + x) * 16 + y) * 16 + z, rest) := by
  simp only [readHex, ha, hb, hc, hd]

theorem readHex_low {n : Nat} (h : n < 32) (rest : List Char) :
    readHex ('0' :: '0' :: hexDigit (n / 16) :: hexDigit (n % 16) :: rest) = .ok (n, rest) := by
  have hzero : hexValue? '0' = some 0 := rfl
  have hhigh : hexValue? (hexDigit (n / 16)) = some (n / 16) := hexValue?_hexDigit (by omega)
  have hlow : hexValue? (hexDigit (n % 16)) = some (n % 16) := hexValue?_hexDigit (by omega)
  rw [readHex_of_digits hzero hzero hhigh hlow]
  have hn : ((0 * 16 + 0) * 16 + n / 16) * 16 + n % 16 = n := by omega
  rw [hn]

/-! ## Escapes -/

theorem readEscape_letter {letter c : Char} (hu : letter ≠ 'u') (h : letterEscape? letter = some c)
    (rest : List Char) : readEscape (letter :: rest) = .ok (c, rest) := by
  simp only [readEscape, if_neg hu, h]

theorem readEscape_low {n : Nat} (h : n < 32) (rest : List Char) :
    readEscape ('u' :: '0' :: '0' :: hexDigit (n / 16) :: hexDigit (n % 16) :: rest) =
      .ok (Char.ofNat n, rest) := by
  have hlow : isLowSurrogate n = false := by
    simp only [isLowSurrogate, Bool.and_eq_false_imp, decide_eq_true_eq]
    omega
  have hhigh : isHighSurrogate n = false := by
    simp only [isHighSurrogate, Bool.and_eq_false_imp, decide_eq_true_eq]
    omega
  simp [readEscape, readHex_low h, hlow, hhigh]

/-! ## The text -/

/-- Puts a character in front of what is read. -/
def consRead (c : Char) (reading : Reading (List Char)) : Reading (List Char) :=
  reading.map fun (more, rest) => (c :: more, rest)

theorem readQuoted_backslash {text after : List Char} {c : Char}
    (h : readEscape text = .ok (c, after)) :
    readQuoted ('\\' :: text) = consRead c (readQuoted after) := by
  rw [readQuoted, if_neg (by decide), if_pos rfl]
  split
  case h_1 fault hfault => rw [h] at hfault; cases hfault
  case h_2 c' after' hread =>
    rw [h] at hread
    cases hread
    cases readQuoted after <;> rfl

theorem readQuoted_plain {c : Char} (hquote : c ≠ '"') (hslash : c ≠ '\\')
    (hcontrol : ¬ c.toNat < 32) (rest : List Char) :
    readQuoted (c :: rest) = consRead c (readQuoted rest) := by
  rw [readQuoted, if_neg hquote, if_neg hslash, if_neg hcontrol]
  cases readQuoted rest <;> rfl

/-- A character is written by a letter, by its number, or as it is. -/
theorem escape_cases (c : Char) :
    (∃ letter, letter ≠ 'u' ∧ letterEscape? letter = some c ∧ escape c = ['\\', letter]) ∨
      (c.toNat < 32 ∧ escape c =
        ['\\', 'u', '0', '0', hexDigit (c.toNat / 16), hexDigit (c.toNat % 16)]) ∨
      (c ≠ '"' ∧ c ≠ '\\' ∧ ¬ c.toNat < 32 ∧ escape c = [c]) := by
  by_cases hquote : c = '"'
  · subst hquote
    exact .inl ⟨'"', by decide, rfl, rfl⟩
  by_cases hslash : c = '\\'
  · subst hslash
    exact .inl ⟨'\\', by decide, rfl, rfl⟩
  by_cases hline : c = '\n'
  · subst hline
    exact .inl ⟨'n', by decide, rfl, rfl⟩
  by_cases hreturn : c = '\r'
  · subst hreturn
    exact .inl ⟨'r', by decide, rfl, rfl⟩
  by_cases htab : c = '\t'
  · subst htab
    exact .inl ⟨'t', by decide, rfl, rfl⟩
  -- The last two letters stand for characters that are known by their numbers only.
  by_cases hback : c.toNat = 8
  · obtain rfl : Char.ofNat 8 = c := hback ▸ Char.ofNat_toNat c
    exact .inl ⟨'b', by decide, rfl, rfl⟩
  by_cases hfeed : c.toNat = 12
  · obtain rfl : Char.ofNat 12 = c := hfeed ▸ Char.ofNat_toNat c
    exact .inl ⟨'f', by decide, rfl, rfl⟩
  right
  unfold escape
  rw [if_neg hquote, if_neg hslash, if_neg hline, if_neg hreturn, if_neg htab, if_neg hback,
    if_neg hfeed]
  by_cases hcontrol : c.toNat < 32
  · exact .inl ⟨hcontrol, if_pos hcontrol⟩
  · exact .inr ⟨hquote, hslash, hcontrol, if_neg hcontrol⟩

/-- What is written for a character is read as this character. -/
theorem readQuoted_escape (c : Char) (rest : List Char) :
    readQuoted (escape c ++ rest) = consRead c (readQuoted rest) := by
  rcases escape_cases c with ⟨letter, hu, hletter, hescape⟩ | ⟨hcontrol, hescape⟩ |
      ⟨hquote, hslash, hcontrol, hescape⟩
  · rw [hescape]
    exact readQuoted_backslash (readEscape_letter hu hletter rest)
  · have hread := readQuoted_backslash (readEscape_low hcontrol rest)
    rw [Char.ofNat_toNat] at hread
    rw [hescape]
    exact hread
  · rw [hescape]
    exact readQuoted_plain hquote hslash hcontrol rest

/-- **A text is read back from between its quotes.** -/
theorem spells_escaped (text : List Char) : Spells (text.flatMap escape ++ ['"']) text := by
  intro rest
  induction text with
  | nil => simp [readQuoted]
  | cons c text ih =>
      rw [List.flatMap_cons, List.append_assoc, List.append_assoc, readQuoted_escape,
        ← List.append_assoc, ih]
      rfl

theorem quote_eq (text : String) : quote text = '"' :: (text.toList.flatMap escape ++ ['"']) := rfl

end VideoGate.Json
