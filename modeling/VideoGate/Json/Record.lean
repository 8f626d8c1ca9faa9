import VideoGate.Json.Reader

/-!
# Reading records

A record is written as an object, whose members may come in any order and among others that
are skipped, or as a list of its fields in order.  A draft holds what has been read so far; at
the end it is turned into the record, or the first field that is missing is named.

How a record of the program stands in JSON is not said by the standard.  This module stands for what
the program's library documents for a record with named fields and no further attributes: members in
any order, unknown ones ignored, no field twice or missing, and lists of the values as well.
-/

namespace VideoGate.Json

/-- One field of a record whose draft is a `δ`. -/
structure FieldReader (δ : Type) where
  name : String
  /-- Has the field been read? -/
  isSet : δ → Bool
  /-- Reads the field's value into the draft. -/
  read : δ → Reader δ

/-- A field that is read by `reader` and kept in an optional place of the draft. -/
def FieldReader.of {δ α : Type} (name : String) (get : δ → Option α)
    (set : δ → Option α → δ) (reader : Reader α) : FieldReader δ where
  name
  isSet draft := (get draft).isSome
  read draft text := (reader text).map fun (value, rest) => (set draft (some value), rest)

structure RecordReader (δ α : Type) where
  fields : List (FieldReader δ)
  /-- Nothing read yet. -/
  empty : δ
  /-- The record; or else the name of the first field that is missing. -/
  complete : δ → Except String α

namespace RecordReader

variable {δ α : Type}

/-- Reads the member with a given key; members that are no fields are skipped. -/
def readMember (shape : RecordReader δ α) (draft : δ) (key : String) : Reader δ := fun text =>
  match shape.fields.find? (·.name == key) with
  | none =>
    match skipColon text with
    | .error fault => .error fault
    | .ok text => (skipValue text).map fun rest => (draft, rest)
  | some field =>
    if field.isSet draft then .error (.duplicateField field.name)
    else
      match skipColon text with
      | .error fault => .error fault
      | .ok text => field.read draft text

/-- Reads fields in order up to the end of the list, which may come early. -/
def readInOrder : List (FieldReader δ) → Bool → δ → Reader δ
  | [], _, draft, text =>
    match skipBlanks text with
    | [] => .error .endOfText
    | ']' :: rest => .ok (draft, rest)
    | _ => .error .malformed
  | field :: fields, first, draft, text =>
    match nextItem first text with
    | .error fault => .error fault
    | .ok (.ended rest) => .ok (draft, rest)
    | .ok (.item text) =>
      match field.read draft text with
      | .error fault => .error fault
      | .ok (draft, text) => readInOrder fields false draft text

def read (shape : RecordReader δ α) : Reader α := fun text =>
  match skipBlanks text with
  | [] => .error .endOfText
  | c :: rest =>
    if c = '{' then
      match readMembers shape.readMember (rest.length + 1) true shape.empty rest with
      | .error fault => .error fault
      | .ok (draft, rest) =>
        match shape.complete draft with
        | .error name => .error (.missingField name)
        | .ok value => .ok (value, rest)
    else if c = '[' then
      match readInOrder shape.fields true shape.empty rest with
      | .error fault => .error fault
      | .ok (draft, rest) =>
        match shape.complete draft with
        | .error _ => .error .wrongType
        | .ok value => .ok (value, rest)
    else .error (mismatch c rest)

end RecordReader

/-- A field that has to have been read. -/
def needed {α : Type} (name : String) (value : Option α) : Except String α :=
  match value with
  | none => .error name
  | some value => .ok value

end VideoGate.Json
