import VideoGate.Proofs.Json.Quoted

/-!
# Texts in quotes, however they are spelled

A text can be spelled in many ways: most characters may stand as they are, eight have an escape of
one letter, and all can be written by the units of their UTF-16 code in hexadecimal digits of either
case.  A `Piece` is what the notation allows between quotes, and `decode?` says what a row of pieces
means.  It means nothing if a half of a surrogate pair stands alone.  What has a meaning is read as
that, and the rest is refused (`toOption_readQuoted`); where the meaning does not matter, every row
of pieces is skipped (`skipQuoted_spelling`).
-/

namespace VideoGate.Json

/-! ## The notation -/

/-- A hexadecimal digit in either case. -/
structure HexDigit where
  value : Fin 16
  upper : Bool
deriving DecidableEq, Repr

/-- The character of a digit. -/
def HexDigit.char (digit : HexDigit) : Char :=
  if digit.upper then
    ['0', '1', '2', '3', '4', '5', '6', '7', '8', '9', 'A', 'B', 'C', 'D', 'E', 'F'].get digit.value
  else
    ['0', '1', '2', '3', '4', '5', '6', '7', '8', '9', 'a', 'b', 'c', 'd', 'e', 'f'].get digit.value

/-- A unit of 16 bits in four digits. -/
structure CodeUnit where
  first : HexDigit
  second : HexDigit
  third : HexDigit
  fourth : HexDigit
deriving DecidableEq, Repr

namespace CodeUnit

/-- The number of a unit. -/
def value (unit : CodeUnit) : Nat :=
  ((unit.first.value * 16 + unit.second.value) * 16 + unit.third.value) * 16 + unit.fourth.value

/-- The digits of a unit. -/
def digits (unit : CodeUnit) : List Char :=
  [unit.first.char, unit.second.char, unit.third.char, unit.fourth.char]

end CodeUnit

/-- The escapes of one letter, each with the character that it stands for. -/
def letterEscapes : List (Char × Char) :=
  [('"', '"'), ('\\', '\\'), ('/', '/'), ('b', '\x08'), ('f', '\x0c'), ('n', '\n'), ('r', '\r'),
    ('t', '\t')]

/-- What can stand between quotes. -/
inductive Piece where
  /-- A character as it is. -/
  | plain (c : Char) (h : c ≠ '"' ∧ c ≠ '\\' ∧ 32 ≤ c.toNat)
  /-- An escape of one letter. -/
  | letter (sign c : Char) (h : (sign, c) ∈ letterEscapes)
  /-- A unit by its number. -/
  | unit (code : CodeUnit)

namespace Piece

/-- A piece as it is written. -/
def text : Piece → List Char
  | plain c _ => [c]
  | letter sign _ _ => ['\\', sign]
  | unit code => '\\' :: 'u' :: code.digits

/-- Pieces in a row. -/
def spelling (pieces : List Piece) : List Char := pieces.flatMap text

/-- The characters of a text that can stand as they are. -/
def plainPieces (text : String) : List Piece :=
  text.toList.filterMap fun c =>
    if h : c ≠ '"' ∧ c ≠ '\\' ∧ 32 ≤ c.toNat then some (plain c h) else none

/-- What pieces mean, unless a half of a surrogate pair stands alone. -/
def decode? : List Piece → Option (List Char)
  | [] => some []
  | plain c _ :: pieces => (decode? pieces).map (c :: ·)
  | letter _ c _ :: pieces => (decode? pieces).map (c :: ·)
  | unit high :: pieces =>
    if isLowSurrogate high.value then none
    else if isHighSurrogate high.value then
      match pieces with
      | unit low :: pieces =>
        if isLowSurrogate low.value then
          (decode? pieces).map
            (Char.ofNat (0x10000 + (high.value - 0xD800) * 0x400 + (low.value - 0xDC00)) :: ·)
        else none
      | _ => none
    else (decode? pieces).map (Char.ofNat high.value :: ·)

end Piece

/-! ## Reading the pieces -/

theorem HexDigit.hexValue?_char (digit : HexDigit) :
    hexValue? digit.char = some digit.value.val := by
  obtain ⟨value, upper⟩ := digit
  revert value upper
  decide

theorem readHex_unit (unit : CodeUnit) (rest : List Char) :
    readHex (unit.digits ++ rest) = .ok (unit.value, rest) :=
  readHex_of_digits unit.first.hexValue?_char unit.second.hexValue?_char unit.third.hexValue?_char
    unit.fourth.hexValue?_char rest

theorem letterEscape?_of_mem : ∀ {entry : Char × Char}, entry ∈ letterEscapes →
    entry.1 ≠ 'u' ∧ letterEscape? entry.1 = some entry.2 := by
  have hall : ∀ entry ∈ letterEscapes,
      entry.1 ≠ 'u' ∧ letterEscape? entry.1 = some entry.2 := by decide
  exact fun {entry} => hall entry

theorem toOption_consRead (c : Char) (reading : Reading (List Char)) :
    (consRead c reading).toOption =
      reading.toOption.map fun (more, rest) => (c :: more, rest) := by
  cases reading <;> rfl

theorem readQuoted_backslash_of_error {text : List Char} {fault : ReadError}
    (h : readEscape text = .error fault) : readQuoted ('\\' :: text) = .error fault := by
  rw [readQuoted, if_neg (by decide), if_pos rfl]
  split
  case h_1 other hother => rw [h] at hother; cases hother; rfl
  case h_2 hread => rw [h] at hread; cases hread

namespace Piece

variable {code : CodeUnit} {pieces : List Piece} {rest : List Char}

theorem spelling_cons (piece : Piece) (pieces : List Piece) (rest : List Char) :
    spelling (piece :: pieces) ++ rest = piece.text ++ (spelling pieces ++ rest) := by
  rw [spelling, List.flatMap_cons, List.append_assoc]
  rfl

theorem spelling_unit (code : CodeUnit) (pieces : List Piece) (rest : List Char) :
    spelling (unit code :: pieces) ++ rest =
      '\\' :: 'u' :: (code.digits ++ (spelling pieces ++ rest)) := spelling_cons ..

theorem readEscape_unit (code : CodeUnit) (rest : List Char) :
    readEscape ('u' :: (code.digits ++ rest)) =
      if isLowSurrogate code.value then .error .malformed
      else if isHighSurrogate code.value then readLowSurrogate code.value rest
      else .ok (Char.ofNat code.value, rest) := by
  simp only [readEscape, if_pos, readHex_unit]

theorem readLowSurrogate_unit (high : Nat) (code : CodeUnit) (rest : List Char) :
    readLowSurrogate high ('\\' :: 'u' :: (code.digits ++ rest)) =
      if isLowSurrogate code.value then
        .ok (Char.ofNat (0x10000 + (high - 0xD800) * 0x400 + (code.value - 0xDC00)), rest)
      else .error .malformed := by
  simp only [readLowSurrogate, readHex_unit]

/-- Without a second half the first half of a surrogate pair is refused. -/
theorem readLowSurrogate_of_other (high : Nat) (rest : List Char)
    (h : ∀ code pieces', pieces ≠ unit code :: pieces') :
    readLowSurrogate high (spelling pieces ++ '"' :: rest) = .error .malformed := by
  match pieces with
  | [] => rfl
  | plain c hc :: pieces =>
      rw [spelling_cons]
      simp [text, readLowSurrogate, hc.2.1]
  | letter sign c hletter :: pieces =>
      rw [spelling_cons]
      simp [text, readLowSurrogate, (letterEscape?_of_mem hletter).1]
  | unit code :: pieces => exact absurd rfl (h code pieces)

theorem decode?_of_low (h : isLowSurrogate code.value = true) :
    decode? (unit code :: pieces) = none := by
  rw [decode?.eq_def]
  simp only [if_pos h]

theorem decode?_of_single (hlow : ¬ isLowSurrogate code.value = true)
    (hhigh : ¬ isHighSurrogate code.value = true) :
    decode? (unit code :: pieces) = (decode? pieces).map (Char.ofNat code.value :: ·) := by
  rw [decode?.eq_def (unit code :: pieces)]
  simp only [if_neg hlow, if_neg hhigh]

theorem toOption_consRead_eq {c : Char} {reading : Reading (List Char)}
    {meaning : Option (List Char)} (h : reading.toOption = meaning.map fun text => (text, rest)) :
    (consRead c reading).toOption = (meaning.map (c :: ·)).map fun text => (text, rest) := by
  rw [toOption_consRead, h, Option.map_map, Option.map_map]
  rfl

theorem readQuoted_text_plain {c : Char} (hc : c ≠ '"' ∧ c ≠ '\\' ∧ 32 ≤ c.toNat)
    (after : List Char) :
    readQuoted ((plain c hc).text ++ after) = consRead c (readQuoted after) :=
  readQuoted_plain hc.1 hc.2.1 (Nat.not_lt.mpr hc.2.2) after

theorem readQuoted_text_letter {sign c : Char} (hletter : (sign, c) ∈ letterEscapes)
    (after : List Char) :
    readQuoted ((letter sign c hletter).text ++ after) = consRead c (readQuoted after) :=
  have hescape := letterEscape?_of_mem hletter
  readQuoted_backslash (readEscape_letter hescape.1 hescape.2 after)

/-- **What pieces mean is what is read.** -/
theorem toOption_readQuoted (pieces : List Piece) (rest : List Char) :
    (readQuoted (spelling pieces ++ '"' :: rest)).toOption =
      (decode? pieces).map fun text => (text, rest) := by
  -- The cases are those of the meaning: two units of a pair go together, and a lone half of a
  -- pair is refused by what stands behind it.
  induction pieces using decode?.induct with
  | case1 =>
      rw [spelling, List.flatMap_nil, List.nil_append, readQuoted, if_pos rfl]
      rfl
  | case2 c hc pieces ih =>
      rw [spelling_cons, readQuoted_text_plain, decode?]
      exact toOption_consRead_eq ih
  | case3 sign c hletter pieces ih =>
      rw [spelling_cons, readQuoted_text_letter, decode?]
      exact toOption_consRead_eq ih
  | case4 high pieces hlow =>
      have hread := readEscape_unit high (spelling pieces ++ '"' :: rest)
      rw [if_pos hlow] at hread
      rw [spelling_unit, decode?_of_low hlow, readQuoted_backslash_of_error hread]
      rfl
  | case5 high hlow hhigh low pieces hpair ih =>
      have hread := readEscape_unit high (spelling (unit low :: pieces) ++ '"' :: rest)
      rw [if_neg hlow, if_pos hhigh, spelling_unit, readLowSurrogate_unit, if_pos hpair] at hread
      rw [spelling_unit, spelling_unit, decode?, if_neg hlow, if_pos hhigh, if_pos hpair,
        readQuoted_backslash hread]
      exact toOption_consRead_eq ih
  | case6 high hlow hhigh low pieces hpair =>
      have hread := readEscape_unit high (spelling (unit low :: pieces) ++ '"' :: rest)
      rw [if_neg hlow, if_pos hhigh, spelling_unit, readLowSurrogate_unit, if_neg hpair] at hread
      rw [spelling_unit, spelling_unit, decode?, if_neg hlow, if_pos hhigh, if_neg hpair,
        readQuoted_backslash_of_error hread]
      rfl
  | case7 high pieces hlow hhigh hother =>
      have hread := readEscape_unit high (spelling pieces ++ '"' :: rest)
      rw [if_neg hlow, if_pos hhigh, readLowSurrogate_of_other _ _ hother] at hread
      rw [spelling_unit, readQuoted_backslash_of_error hread, decode?, if_neg hlow, if_pos hhigh]
      · rfl
      · exact hother
  | case8 high pieces hlow hhigh ih =>
      have hread := readEscape_unit high (spelling pieces ++ '"' :: rest)
      rw [if_neg hlow, if_neg hhigh] at hread
      rw [spelling_unit, decode?_of_single hlow hhigh, readQuoted_backslash hread]
      exact toOption_consRead_eq ih

theorem skipQuoted_plain {c : Char} (hc : c ≠ '"' ∧ c ≠ '\\' ∧ 32 ≤ c.toNat)
    (after : List Char) : skipQuoted ((plain c hc).text ++ after) = skipQuoted after := by
  rw [text, List.singleton_append, skipQuoted.eq_def]
  simp only [if_neg hc.1, if_neg hc.2.1, if_neg (Nat.not_lt.mpr hc.2.2)]

theorem skipQuoted_letter {sign c : Char} (hletter : (sign, c) ∈ letterEscapes)
    (after : List Char) :
    skipQuoted ((letter sign c hletter).text ++ after) = skipQuoted after := by
  obtain ⟨hsign, hescape⟩ := letterEscape?_of_mem hletter
  rw [text, List.cons_append, List.singleton_append, skipQuoted.eq_def]
  simp only at hsign hescape
  simp [hsign, hescape]

theorem skipQuoted_unit (code : CodeUnit) (after : List Char) :
    skipQuoted ((unit code).text ++ after) = skipQuoted after := by
  rw [text, List.cons_append, List.cons_append, skipQuoted.eq_def]
  simp only [if_neg (show ('\\' : Char) ≠ '"' by decide), if_pos]
  split
  · rename_i fault hfault
    rw [readHex_unit] at hfault
    cases hfault
  · rename_i hread
    rw [readHex_unit] at hread
    cases hread
    rfl

/-- **Every row of pieces is skipped.** -/
theorem skipQuoted_spelling (pieces : List Piece) (rest : List Char) :
    skipQuoted (spelling pieces ++ '"' :: rest) = .ok rest := by
  induction pieces with
  | nil => rw [spelling, List.flatMap_nil, List.nil_append, skipQuoted.eq_def]; rfl
  | cons piece pieces ih =>
      rw [spelling_cons]
      cases piece with
      | plain c hc => rw [skipQuoted_plain, ih]
      | letter sign c hletter => rw [skipQuoted_letter, ih]
      | unit code => rw [skipQuoted_unit, ih]

end Piece

end VideoGate.Json
