import VideoGate.Export.Text
import VideoGate.Proofs.Text.Numeral

/-!
# Lines, names and numbers in a text

What a reader of the two text formats has to know of a text, whoever wrote it: where its lines end,
what a name is, and what a number is.  Names and numbers are kept to a few characters, so what
stands between them divides a line in one way only.
-/

namespace VideoGate.TextFormat

open Numeral (isDigit digitValue? digitChar render)

/-- A text is divided at a separator wherever it stands. -/
theorem splitOn_append_cons (separator : Char) (before after : List Char) :
    (before ++ separator :: after).splitOn separator =
      before.splitOn separator ++ after.splitOn separator :=
  List.splitOnP_append_cons before after (beq_self_eq_true separator)

theorem not_mem_intercalate {c : Char} {separator : List Char} {parts : List (List Char)}
    (hseparator : c ∉ separator) (hparts : ∀ part ∈ parts, c ∉ part) :
    c ∉ separator.intercalate parts := by
  induction parts with
  | nil => exact List.not_mem_nil
  | cons part parts ih =>
      obtain ⟨hpart, hrest⟩ := List.forall_mem_cons.mp hparts
      cases parts with
      | nil => rwa [List.intercalate_singleton]
      | cons second parts =>
          rw [List.intercalate_cons_cons, List.mem_append, List.mem_append, not_or, not_or]
          exact ⟨⟨hpart, hseparator⟩, ih hrest⟩

/-! ## Lines -/

/-- The lines of a text, each of which has an end. -/
def linesOf? (text : List Char) : Option (List (List Char)) :=
  let lines := text.splitOn '\n'
  if lines.getLast? = some [] then some lines.dropLast else none

/-- Reads the lines of a text, each by itself. -/
def readLines? {α : Type} (readLine? : List Char → Option α) (text : String) : Option (List α) :=
  (linesOf? text.toList).bind (List.mapM readLine?)

theorem intercalate_lines (lines : List (List Char)) :
    ['\n'].intercalate (lines ++ [[]]) = lines.flatMap (· ++ ['\n']) := by
  induction lines with
  | nil => rfl
  | cons line lines ih =>
      cases lines with
      | nil => simp
      | cons second lines =>
          rw [List.flatMap_cons, ← ih, List.cons_append, List.cons_append,
            List.intercalate_cons_cons]

theorem linesOf?_lines {lines : List (List Char)} (h : ∀ line ∈ lines, '\n' ∉ line) :
    linesOf? (lines.flatMap (· ++ ['\n'])) = some lines := by
  have hsplit : (lines.flatMap (· ++ ['\n'])).splitOn '\n' = lines ++ [[]] := by
    rw [← intercalate_lines]
    refine List.splitOn_intercalate '\n' ?_ (by simp)
    intro line hline
    rcases List.mem_append.mp hline with hline | hline
    · exact h line hline
    · rw [List.mem_singleton.mp hline]
      exact List.not_mem_nil
  unfold linesOf?
  simp only [hsplit, List.getLast?_concat, if_pos, List.dropLast_concat]

theorem mapM_eq_some {α β : Type} {f : α → Option β} {values : List α} {results : List β}
    (h : values.map f = results.map some) : values.mapM f = some results := by
  induction values generalizing results with
  | nil => cases results with
    | nil => rfl
    | cons => cases h
  | cons value values ih => cases results with
    | nil => cases h
    | cons result results =>
        obtain ⟨hvalue, hvalues⟩ := List.cons.inj h
        rw [List.mapM_cons, hvalue, ih hvalues]
        rfl

theorem toList_linesText (lines : List String) :
    (linesText lines).toList = (lines.map String.toList).flatMap (· ++ ['\n']) := by
  simp [linesText, String.toList_join, List.flatMap_map, String.toList_append]

/-- What each line is read as, all of them are read as. -/
theorem readLines?_linesText {α : Type} {readLine? : List Char → Option α} {lines : List String}
    {results : List α} (hend : ∀ line ∈ lines, '\n' ∉ line.toList)
    (hread : lines.map (fun line => readLine? line.toList) = results.map some) :
    readLines? readLine? (linesText lines) = some results := by
  have hlines : ∀ line ∈ lines.map String.toList, '\n' ∉ line := by
    intro line hline
    obtain ⟨text, htext, rfl⟩ := List.mem_map.mp hline
    exact hend text htext
  rw [readLines?, toList_linesText, linesOf?_lines hlines, Option.bind_some]
  exact mapM_eq_some (by rw [List.map_map]; exact hread)

/-! ## Entries under their keys -/

/-- If no key comes twice, there is one entry under the key of each entry. -/
theorem filter_key_eq {α β : Type} [DecidableEq α] {entries : List (α × β)} {key : α} {value : β}
    (hkeys : (entries.map Prod.fst).Nodup) (hmem : (key, value) ∈ entries) :
    entries.filter (·.1 = key) = [(key, value)] := by
  induction entries with
  | nil => cases hmem
  | cons entry entries ih =>
      rw [List.map_cons, List.nodup_cons] at hkeys
      obtain ⟨hfresh, hkeys⟩ := hkeys
      rcases List.mem_cons.mp hmem with rfl | hmem
      · have hnone : entries.filter (·.1 = key) = [] := by
          refine List.filter_eq_nil_iff.mpr fun other hother hkey => hfresh ?_
          exact of_decide_eq_true hkey ▸ List.mem_map.mpr ⟨other, hother, rfl⟩
        simp only [List.filter_cons, decide_true, if_pos, hnone]
      · have hne : entry.1 ≠ key := fun h => hfresh (h ▸ List.mem_map_of_mem hmem)
        simp only [List.filter_cons, hne, decide_false, Bool.false_eq_true, if_false, ih hkeys hmem]

/-! ## Names -/

/-- Can the character stand in a name? -/
def isNameChar (c : Char) : Bool := c.isAlpha || c == '_' || isDigit c

/-- Is this a name?  It does not begin with a digit. -/
def isName : List Char → Bool
  | [] => false
  | c :: rest => isNameChar c && !isDigit c && rest.all isNameChar

theorem isNameChar_of_mem {name : List Char} {c : Char} (h : isName name = true) (hc : c ∈ name) :
    isNameChar c = true := by
  cases name with
  | nil => cases hc
  | cons first rest =>
      rw [isName, Bool.and_eq_true, Bool.and_eq_true] at h
      rcases List.mem_cons.mp hc with rfl | hc
      · exact h.1.1
      · exact List.all_eq_true.mp h.2 c hc

theorem not_mem_of_isName {name : List Char} {c : Char} (h : isName name = true)
    (hc : isNameChar c = false) : c ∉ name :=
  fun hmem => absurd (isNameChar_of_mem h hmem) (hc ▸ Bool.false_ne_true)

/-! ## Whole numbers -/

/-- The number of further digits behind those of `value`. -/
def valueFrom? (value : Nat) : List Char → Option Nat
  | [] => some value
  | c :: rest => (digitValue? c).bind fun digit => valueFrom? (value * 10 + digit) rest

/-- The number that is written in digits. -/
def wholeOf? : List Char → Option Nat
  | [] => none
  | digits => valueFrom? 0 digits

theorem valueFrom?_render (n : Nat) (rest : List Char) :
    valueFrom? 0 (render n ++ rest) = valueFrom? n rest := by
  induction n using Numeral.render.induct generalizing rest with
  | case1 n h =>
      rw [Numeral.render_of_lt h, List.singleton_append, valueFrom?,
        Numeral.digitValue?_digitChar h, Option.bind_some, Nat.zero_mul, Nat.zero_add]
  | case2 n h ih =>
      rw [Numeral.render_of_le (Nat.not_lt.mp h), List.append_assoc, List.singleton_append, ih,
        valueFrom?, Numeral.digitValue?_digitChar (Nat.mod_lt n (by decide)), Option.bind_some]
      congr 1
      omega

theorem wholeOf?_render (n : Nat) : wholeOf? (render n) = some n := by
  have hvalue := valueFrom?_render n []
  rw [List.append_nil] at hvalue
  rw [wholeOf?, hvalue, valueFrom?]
  exact Numeral.render_ne_nil n

/-! ## Numbers of any kind -/

/-- Are these digits, at least one? -/
def isDigits (text : List Char) : Bool := !text.isEmpty && text.all isDigit

/-- Is this a number without a sign, with digits on both sides of a point if there is one? -/
def isUnsigned (text : List Char) : Bool :=
  match text.splitOn '.' with
  | [whole] => isDigits whole
  | [whole, fraction] => isDigits whole && isDigits fraction
  | _ => false

/-- Is this a number?  A float that is not finite has a word of its own. -/
def isNumber (text : List Char) : Bool :=
  isUnsigned text || (text.head? == some '-' && isUnsigned text.tail) ||
    text ∈ [['N', 'a', 'N'], ['i', 'n', 'f'], ['-', 'i', 'n', 'f']]

/-- Can the character stand in a number? -/
def isNumberChar (c : Char) : Bool := isDigit c || c ∈ ['-', '.', 'N', 'a', 'f', 'i', 'n']

theorem isDigits_iff {text : List Char} :
    isDigits text = true ↔ text ≠ [] ∧ ∀ c ∈ text, isDigit c = true := by
  simp [isDigits]

theorem isDigits_render (n : Nat) : isDigits (render n) = true :=
  isDigits_iff.mpr ⟨Numeral.render_ne_nil n, fun _ => Numeral.isDigit_of_mem_render⟩

theorem point_not_mem_of_isDigits {text : List Char} (h : isDigits text = true) : '.' ∉ text :=
  fun hmem => absurd ((isDigits_iff.mp h).2 _ hmem) (by decide)

theorem isUnsigned_of_isDigits {text : List Char} (h : isDigits text = true) :
    isUnsigned text = true := by
  rw [isUnsigned, List.splitOn_eq_singleton (point_not_mem_of_isDigits h)]
  exact h

theorem isUnsigned_of_point {whole fraction : List Char} (hwhole : isDigits whole = true)
    (hfraction : isDigits fraction = true) : isUnsigned (whole ++ '.' :: fraction) = true := by
  rw [isUnsigned, splitOn_append_cons, List.splitOn_eq_singleton (point_not_mem_of_isDigits hwhole),
    List.splitOn_eq_singleton (point_not_mem_of_isDigits hfraction)]
  exact (Bool.and_eq_true _ _).mpr ⟨hwhole, hfraction⟩

theorem isNumberChar_of_isDigit {c : Char} (h : isDigit c = true) : isNumberChar c = true := by
  rw [isNumberChar, h, Bool.true_or]

theorem isNumberChar_of_isUnsigned {text : List Char} {c : Char} (h : isUnsigned text = true)
    (hc : c ∈ text) : isNumberChar c = true := by
  have htext : ['.'].intercalate (text.splitOn '.') = text := List.intercalate_splitOn '.'
  rw [← htext] at hc
  unfold isUnsigned at h
  split at h
  case h_1 whole hsplit =>
    rw [hsplit, List.intercalate_singleton] at hc
    exact isNumberChar_of_isDigit ((isDigits_iff.mp h).2 c hc)
  case h_2 whole fraction hsplit =>
    rw [Bool.and_eq_true] at h
    rw [hsplit, List.intercalate_cons_cons, List.intercalate_singleton, List.append_assoc,
      List.mem_append, List.singleton_append, List.mem_cons] at hc
    rcases hc with hc | rfl | hc
    · exact isNumberChar_of_isDigit ((isDigits_iff.mp h.1).2 c hc)
    · rfl
    · exact isNumberChar_of_isDigit ((isDigits_iff.mp h.2).2 c hc)
  case h_3 => cases h

theorem isNumberChar_of_isNumber {text : List Char} {c : Char} (h : isNumber text = true)
    (hc : c ∈ text) : isNumberChar c = true := by
  rw [isNumber, Bool.or_eq_true, Bool.or_eq_true, Bool.and_eq_true, decide_eq_true_eq] at h
  rcases h with (h | ⟨hsign, h⟩) | h
  · exact isNumberChar_of_isUnsigned h hc
  · cases text with
    | nil => cases hc
    | cons sign rest =>
        rcases List.mem_cons.mp hc with rfl | hc
        · rw [Option.some.inj (beq_iff_eq.mp hsign)]
          rfl
        · exact isNumberChar_of_isUnsigned h hc
  · simp only [List.mem_cons, List.not_mem_nil, or_false] at h
    have hword : text.all isNumberChar = true := by
      rcases h with rfl | rfl | rfl <;> decide
    exact List.all_eq_true.mp hword c hc

/-! ## Reading a number -/

/-- A number that has been read. -/
inductive ReadNumber where
  | whole (n : Nat)
  /-- Not a whole number; its text is kept. -/
  | other (text : String)
deriving DecidableEq, Repr

/-- Reads a number. -/
def readNumber? (text : List Char) : Option ReadNumber :=
  match wholeOf? text with
  | some n => some (.whole n)
  | none => if isNumber text then some (.other (String.ofList text)) else none

theorem readNumber?_render (n : Nat) : readNumber? (render n) = some (.whole n) := by
  rw [readNumber?, wholeOf?_render]

theorem exists_readNumber? {text : List Char} (h : isNumber text = true) :
    ∃ number, readNumber? text = some number := by
  unfold readNumber?
  split
  · exact ⟨_, rfl⟩
  · exact ⟨_, if_pos h⟩

theorem isNumber_render (n : Nat) : isNumber (render n) = true := by
  rw [isNumber, isUnsigned_of_isDigits (isDigits_render n), Bool.true_or, Bool.true_or]

/-! ## The numbers that are written in full -/

theorem isDigits_append_replicate {digits : List Char} (h : isDigits digits = true) (zeros : Nat) :
    isDigits (digits ++ List.replicate zeros '0') = true := by
  obtain ⟨hne, hall⟩ := isDigits_iff.mp h
  refine isDigits_iff.mpr ⟨List.append_ne_nil_of_left_ne_nil hne _, fun c hc => ?_⟩
  rcases List.mem_append.mp hc with hc | hc
  · exact hall c hc
  · rw [List.eq_of_mem_replicate hc]
    rfl

theorem isUnsigned_writePositional {layout : DecimalLayout} (hpoint : layout.keepsPoint = false)
    {digits : List Char} (hdigits : isDigits digits = true) (exponent : Int) :
    isUnsigned (layout.writePositional digits exponent) = true := by
  obtain ⟨-, hall⟩ := isDigits_iff.mp hdigits
  unfold DecimalLayout.writePositional
  split
  · rw [hpoint, if_neg Bool.false_ne_true, List.append_nil]
    exact isUnsigned_of_isDigits (isDigits_append_replicate hdigits _)
  · -- The zeros in front leave at least one digit before the point.
    rename_i hexponent
    simp only
    generalize hplaces : (-exponent).toNat = places
    generalize hpadded : List.replicate (places + 1 - digits.length) '0' ++ digits = padded
    have hpositive : 0 < places := by omega
    have hlength : places < padded.length := by
      rw [← hpadded, List.length_append, List.length_replicate]
      omega
    have hpaddedDigits : ∀ c ∈ padded, isDigit c = true := by
      intro c hc
      rw [← hpadded] at hc
      rcases List.mem_append.mp hc with hc | hc
      · rw [List.eq_of_mem_replicate hc]
        rfl
      · exact hall c hc
    have hwhole : isDigits (padded.take (padded.length - places)) = true := by
      refine isDigits_iff.mpr ⟨?_, fun c hc => hpaddedDigits c (List.mem_of_mem_take hc)⟩
      rw [← List.length_pos_iff, List.length_take]
      omega
    have hfraction : isDigits (padded.drop (padded.length - places)) = true := by
      refine isDigits_iff.mpr ⟨?_, fun c hc => hpaddedDigits c (List.mem_of_mem_drop hc)⟩
      rw [← List.length_pos_iff, List.length_drop]
      omega
    exact isUnsigned_of_point hwhole hfraction

/-- A float that is never written with an exponent is written as a number. -/
theorem isNumber_write {layout : DecimalLayout} (hpositional : layout.positional = none)
    (hpoint : layout.keepsPoint = false) (x : Float) : isNumber (layout.write x).toList = true := by
  have hunsigned : ∀ decimal, isUnsigned (layout.writeDecimal decimal) = true := by
    intro decimal
    unfold DecimalLayout.writeDecimal
    simp only [hpositional]
    exact isUnsigned_writePositional hpoint (isDigits_render _) _
  unfold DecimalLayout.write
  split
  · decide
  · split <;> decide
  · simp only [String.toList_ofList]
    rename_i negative significand exponent hfinite
    have htext := hunsigned (.shortest layout.tie significand exponent)
    cases negative with
    | false => rw [if_neg Bool.false_ne_true, isNumber, htext, Bool.true_or, Bool.true_or]
    | true =>
        rw [if_pos rfl, isNumber, List.tail_cons, htext, List.head?_cons, beq_self_eq_true,
          Bool.true_and, Bool.or_true, Bool.true_or]

end VideoGate.TextFormat
