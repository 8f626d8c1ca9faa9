import VideoGate.Export.Text
import VideoGate.Proofs.Export.Words

/-!
# Reading the line protocol

A line is a measurement with its tags, the fields, and a time, with a blank after each of the first
two.  There is at least one field, and commas stand between the tags and between the fields.  The
lines of any points are read back as long as their keys are names and their values numbers
(`readLineProtocol?_points`).
-/

namespace VideoGate

open TextFormat
open Numeral (render)

/-- A point that has been read. -/
structure ReadPoint where
  measurement : String
  tags : List (String × String)
  fields : List (String × ReadNumber)
  nanoseconds : Int
deriving DecidableEq, Repr

namespace ReadPoint

/-- Reads a tag. -/
def readTag? (text : List Char) : Option (String × String) :=
  match text.splitOn '=' with
  | [key, value] => some (String.ofList key, String.ofList value)
  | _ => none

/-- Reads a whole number, which is marked at its end. -/
def readWhole? (text : List Char) : Option Nat :=
  if text.getLast? = some 'i' then wholeOf? text.dropLast else none

/-- Reads the value of a field. -/
def readValue? (text : List Char) : Option ReadNumber :=
  match readWhole? text with
  | some n => some (.whole n)
  | none => if isNumber text then some (.other (String.ofList text)) else none

/-- Reads a field. -/
def readField? (text : List Char) : Option (String × ReadNumber) :=
  match text.splitOn '=' with
  | [key, value] =>
    if isName key then (readValue? value).map (String.ofList key, ·) else none
  | _ => none

/-- Reads a time. -/
def readTime? (text : List Char) : Option Int :=
  match text with
  | '-' :: digits => (wholeOf? digits).map fun n => -Int.ofNat n
  | digits => (wholeOf? digits).map Int.ofNat

/-- Reads a line. -/
def read? (line : List Char) : Option ReadPoint :=
  match line.splitOn ' ' with
  | [front, fields, time] =>
    match front.splitOn ',' with
    | [] => none
    | measurement :: tags => do
      let tags ← tags.mapM readTag?
      let fields ← (fields.splitOn ',').mapM readField?
      let nanoseconds ← readTime? time
      return { measurement := String.ofList measurement, tags, fields, nanoseconds }
  | _ => none

end ReadPoint

/-- Reads a text in the line protocol. -/
def readLineProtocol? (text : String) : Option (List ReadPoint) :=
  readLines? ReadPoint.read? text

/-! ## The fields of a point -/

/-- The key of a field is a name, and its value can be read and contains nothing that divides. -/
structure PlainField (field : String × String) : Prop where
  key : isName field.1.toList = true
  value : ∀ c ∈ field.2.toList, isNumberChar c = true
  isSome : (ReadPoint.readValue? field.2.toList).isSome = true

/-- A field as it is read. -/
def fieldNumber (field : String × String) : String × ReadNumber :=
  (field.1, (ReadPoint.readValue? field.2.toList).getD (.other field.2))

theorem readValue?_whole (n : Nat) :
    ReadPoint.readValue? (render n ++ ['i']) = some (.whole n) := by
  have hwhole : ReadPoint.readWhole? (render n ++ ['i']) = some n := by
    rw [ReadPoint.readWhole?, List.getLast?_concat, if_pos rfl, List.dropLast_concat,
      wholeOf?_render]
  rw [ReadPoint.readValue?, hwhole]

theorem toList_wholeField (key : String) (n : Nat) :
    (Snapshot.wholeField key (Numeral.text n)).2.toList = render n ++ ['i'] := by
  simp [Snapshot.wholeField, Numeral.text, String.toList_append]

theorem fieldNumber_wholeField (key : String) (n : Nat) :
    fieldNumber (Snapshot.wholeField key (Numeral.text n)) = (key, .whole n) := by
  rw [fieldNumber, toList_wholeField, readValue?_whole]
  rfl

theorem plainField_wholeField {key : String} (hkey : isName key.toList = true) (n : Nat) :
    PlainField (Snapshot.wholeField key (Numeral.text n)) where
  key := hkey
  value c hc := by
    rw [toList_wholeField, List.mem_append, List.mem_singleton] at hc
    rcases hc with hc | rfl
    · exact isNumberChar_of_isDigit (Numeral.isDigit_of_mem_render hc)
    · rfl
  isSome := by
    rw [toList_wholeField, readValue?_whole]
    rfl

theorem plainField_of_isNumber {key value : String} (hkey : isName key.toList = true)
    (hvalue : isNumber value.toList = true) : PlainField (key, value) where
  key := hkey
  value _ := isNumberChar_of_isNumber hvalue
  isSome := by
    unfold ReadPoint.readValue?
    split
    · rfl
    · rw [if_pos hvalue]
      rfl

namespace PlainField

variable {field : String × String}

theorem not_mem_value (h : PlainField field) {c : Char} (hc : isNumberChar c = false) :
    c ∉ field.2.toList :=
  fun hmem => absurd (h.value c hmem) (hc ▸ Bool.false_ne_true)

/-- A character that does not stand in names or numbers does not stand in a field, unless it is
the sign between the key and the value. -/
theorem not_mem (h : PlainField field) {c : Char} (hname : isNameChar c = false)
    (hnumber : isNumberChar c = false) (hc : c ≠ '=') :
    c ∉ (field.1 ++ "=" ++ field.2).toList := by
  simp [String.toList_append, not_mem_of_isName h.key hname, h.not_mem_value hnumber, hc]

theorem readField?_eq (h : PlainField field) :
    ReadPoint.readField? (field.1 ++ "=" ++ field.2).toList = some (fieldNumber field) := by
  have hline : (field.1 ++ "=" ++ field.2).toList =
      field.1.toList ++ '=' :: field.2.toList := by
    simp [String.toList_append]
  obtain ⟨number, hnumber⟩ := Option.isSome_iff_exists.mp h.isSome
  rw [hline, ReadPoint.readField?, splitOn_append_cons,
    List.splitOn_eq_singleton (not_mem_of_isName h.key rfl),
    List.splitOn_eq_singleton (h.not_mem_value rfl)]
  simp only [List.singleton_append, h.key, if_true, fieldNumber, hnumber, Option.map_some,
    Option.getD_some, String.ofList_toList]

end PlainField

/-! ## Times -/

/-- The text of a time. -/
def timeText (nanoseconds : Int) : List Char :=
  if nanoseconds < 0 then '-' :: render nanoseconds.natAbs else render nanoseconds.natAbs

theorem not_mem_timeText {c : Char} (hc : isNumberChar c = false) (nanoseconds : Int) :
    c ∉ timeText nanoseconds := by
  have hrender : c ∉ render nanoseconds.natAbs := fun hmem =>
    absurd (isNumberChar_of_isDigit (Numeral.isDigit_of_mem_render hmem)) (hc ▸ Bool.false_ne_true)
  have hsign : c ≠ '-' := fun h => absurd (h ▸ hc) (by decide)
  unfold timeText
  split
  · exact List.not_mem_cons_of_ne_of_not_mem hsign hrender
  · exact hrender

theorem readTime?_of_digit {c : Char} {digits : List Char} (hsign : c ≠ '-') :
    ReadPoint.readTime? (c :: digits) = (wholeOf? (c :: digits)).map Int.ofNat := by
  unfold ReadPoint.readTime?
  split
  · rename_i heq
    exact absurd (List.cons.inj heq).1 hsign
  · rfl

theorem readTime?_timeText (nanoseconds : Int) :
    ReadPoint.readTime? (timeText nanoseconds) = some nanoseconds := by
  have hwhole := wholeOf?_render nanoseconds.natAbs
  by_cases hnegative : nanoseconds < 0
  · rw [timeText, if_pos hnegative, ReadPoint.readTime?, hwhole, Option.map_some,
      Int.ofNat_eq_natCast, Int.ofNat_natAbs_of_nonpos (Int.le_of_lt hnegative), Int.neg_neg]
  · obtain ⟨c, rest, hcons, hdigit⟩ := Numeral.render_eq_cons nanoseconds.natAbs
    have hsign : c ≠ '-' := fun h => absurd (h ▸ hdigit) (by decide)
    rw [timeText, if_neg hnegative, hcons, readTime?_of_digit hsign, ← hcons, hwhole,
      Option.map_some, Int.ofNat_eq_natCast, Int.natAbs_of_nonneg (Int.not_lt.mp hnegative)]

/-! ## The points -/

namespace Point

/-- What a point has to be like for its line to be read. -/
structure Plain (point : Point) : Prop where
  type : isName point.type.toList = true
  ne_nil : point.fields ≠ []
  fields : ∀ field ∈ point.fields, PlainField field

/-- The characters that divide a text into lines, and a line into its parts. -/
def dividers : List Char := [' ', ',', '\n']

/-- What stands in front of the first blank of a line. -/
def front (measurement : String) (point : Point) : List Char :=
  measurement.toList ++ ',' :: (['t', 'y', 'p', 'e'] ++ '=' :: point.type.toList)

/-- The fields of a point as they are written. -/
def fieldTexts (point : Point) : List (List Char) :=
  point.fields.map fun field => (field.1 ++ "=" ++ field.2).toList

/-- A point as it is read. -/
def readAs (measurement : String) (nanoseconds : Int) (point : Point) : ReadPoint where
  measurement
  tags := [("type", point.type)]
  fields := point.fields.map fieldNumber
  nanoseconds

variable {measurement : String} {nanoseconds : Int} {point : Point}

/-- What stands in a line of the protocol between its blanks. -/
theorem toList_line : (point.line measurement nanoseconds).toList =
    point.front measurement ++ ' ' ::
      ([','].intercalate point.fieldTexts ++ ' ' :: timeText nanoseconds) := by
  have htime : (if nanoseconds < 0 then "-" ++ Numeral.text nanoseconds.natAbs
      else Numeral.text nanoseconds.natAbs).toList = timeText nanoseconds := by
    unfold timeText
    split <;> simp [Numeral.text, String.toList_append]
  simp [line, front, fieldTexts, String.toList_append, String.toList_intercalate, htime,
    Function.comp_def]

theorem Plain.not_mem_fieldTexts (h : point.Plain) {c : Char} (hname : isNameChar c = false)
    (hnumber : isNumberChar c = false) (hc : c ≠ '=') : ∀ text ∈ point.fieldTexts, c ∉ text := by
  intro text htext
  obtain ⟨field, hfield, rfl⟩ := List.mem_map.mp htext
  exact (h.fields field hfield).not_mem hname hnumber hc

theorem Plain.splitOn_fields (h : point.Plain) :
    ([','].intercalate point.fieldTexts).splitOn ',' = point.fieldTexts := by
  refine List.splitOn_intercalate ',' (h.not_mem_fieldTexts rfl rfl (by decide)) ?_
  exact fun hnil => h.ne_nil (List.map_eq_nil_iff.mp hnil)

theorem Plain.mapM_readField? (h : point.Plain) :
    point.fieldTexts.mapM ReadPoint.readField? = some (point.fields.map fieldNumber) := by
  refine mapM_eq_some ?_
  rw [fieldTexts, List.map_map, List.map_map]
  exact List.map_congr_left fun field hfield => (h.fields field hfield).readField?_eq

theorem Plain.not_mem_tag (h : point.Plain) {c : Char} (hname : isNameChar c = false)
    (hc : c ≠ '=') : c ∉ ['t', 'y', 'p', 'e'] ++ '=' :: point.type.toList := by
  have htype : isName ['t', 'y', 'p', 'e'] = true := rfl
  refine List.not_mem_append (not_mem_of_isName htype hname) ?_
  exact List.not_mem_cons_of_ne_of_not_mem hc (not_mem_of_isName h.type hname)

theorem Plain.not_mem_front (h : point.Plain) {c : Char} (hname : isNameChar c = false)
    (hc : c ≠ '=') (hcomma : c ≠ ',') (hmeasurement : c ∉ measurement.toList) :
    c ∉ point.front measurement := by
  refine List.not_mem_append hmeasurement ?_
  exact List.not_mem_cons_of_ne_of_not_mem hcomma (h.not_mem_tag hname hc)

theorem Plain.splitOn_line (h : point.Plain) (hmeasurement : ' ' ∉ measurement.toList) :
    (point.line measurement nanoseconds).toList.splitOn ' ' =
      [point.front measurement, [','].intercalate point.fieldTexts, timeText nanoseconds] := by
  have hfront : ' ' ∉ point.front measurement :=
    h.not_mem_front rfl (by decide) (by decide) hmeasurement
  have hfields : ' ' ∉ [','].intercalate point.fieldTexts :=
    not_mem_intercalate (by decide) (h.not_mem_fieldTexts rfl rfl (by decide))
  rw [toList_line, splitOn_append_cons, splitOn_append_cons, List.splitOn_eq_singleton hfront,
    List.splitOn_eq_singleton hfields, List.splitOn_eq_singleton (not_mem_timeText rfl nanoseconds)]
  rfl

theorem Plain.splitOn_front (h : point.Plain) (hmeasurement : ',' ∉ measurement.toList) :
    (point.front measurement).splitOn ',' =
      [measurement.toList, ['t', 'y', 'p', 'e'] ++ '=' :: point.type.toList] := by
  rw [front, splitOn_append_cons, List.splitOn_eq_singleton hmeasurement,
    List.splitOn_eq_singleton (h.not_mem_tag rfl (by decide))]
  rfl

theorem Plain.readTag?_eq (h : point.Plain) :
    ReadPoint.readTag? (['t', 'y', 'p', 'e'] ++ '=' :: point.type.toList) =
      some ("type", point.type) := by
  have htype : '=' ∉ point.type.toList := not_mem_of_isName h.type rfl
  rw [ReadPoint.readTag?, splitOn_append_cons, List.splitOn_eq_singleton (by decide),
    List.splitOn_eq_singleton htype]
  simp only [List.singleton_append, String.ofList_toList]

theorem Plain.read?_line (h : point.Plain)
    (hmeasurement : ∀ c ∈ dividers, c ∉ measurement.toList) :
    ReadPoint.read? (point.line measurement nanoseconds).toList =
      some (point.readAs measurement nanoseconds) := by
  rw [ReadPoint.read?, h.splitOn_line (hmeasurement ' ' (by decide))]
  simp only [h.splitOn_front (hmeasurement ',' (by decide)), List.mapM_cons, List.mapM_nil,
    h.readTag?_eq, h.splitOn_fields, h.mapM_readField?, readTime?_timeText, String.ofList_toList]
  rfl

theorem Plain.newline_not_mem_line (h : point.Plain)
    (hmeasurement : '\n' ∉ measurement.toList) :
    '\n' ∉ (point.line measurement nanoseconds).toList := by
  have hfields : '\n' ∉ [','].intercalate point.fieldTexts :=
    not_mem_intercalate (by decide) (h.not_mem_fieldTexts rfl rfl (by decide))
  rw [toList_line, List.mem_append, List.mem_cons, List.mem_append, List.mem_cons]
  simp only [not_or]
  exact ⟨h.not_mem_front rfl (by decide) (by decide) hmeasurement, by decide, hfields, by decide,
    not_mem_timeText rfl nanoseconds⟩

end Point

/-- **The lines of points are read back.** -/
theorem readLineProtocol?_points {measurement : String} {nanoseconds : Int} {points : List Point}
    (hmeasurement : ∀ c ∈ Point.dividers, c ∉ measurement.toList)
    (h : ∀ point ∈ points, point.Plain) :
    readLineProtocol? (linesText (points.map (Point.line measurement nanoseconds))) =
      some (points.map (Point.readAs measurement nanoseconds)) := by
  refine readLines?_linesText ?_ ?_
  · intro line hline
    obtain ⟨point, hpoint, rfl⟩ := List.mem_map.mp hline
    exact (h point hpoint).newline_not_mem_line (hmeasurement '\n' (by decide))
  · rw [List.map_map, List.map_map]
    exact List.map_congr_left fun point hpoint => (h point hpoint).read?_line hmeasurement

end VideoGate
