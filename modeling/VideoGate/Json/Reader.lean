import VideoGate.Json.Number

/-!
# Readers

A reader takes a value of a known type from the front of a text.  It stops at the first thing
that is wrong, so a value of the wrong type is reported even if the text breaks off later on.

Blanks, words, lists and objects follow the grammar of the standard of JSON.  What the standard
does not say is what becomes of a value that is not of the expected type or that nobody asks for;
there this module follows the documented conventions of the library that it stands for.
-/

namespace VideoGate.Json

/-- Takes a value from the front of a text. -/
abbrev Reader (α : Type) := List Char → Reading α

/-! ## Blanks and words -/

def isBlank (c : Char) : Bool := c == ' ' || c == '\n' || c == '\t' || c == '\r'

def skipBlanks (text : List Char) : List Char := text.dropWhile isBlank

def skipWord : List Char → List Char → Except ReadError (List Char)
  | [], text => .ok text
  | _ :: _, [] => .error .endOfText
  | w :: word, c :: text => if c = w then skipWord word text else .error .malformed

/-- The fault of a value that begins with `first` and has another type than the one expected.
A scalar is read to its end, so that a malformed one is told apart. -/
def mismatch (first : Char) (rest : List Char) : ReadError :=
  let faultOf {α : Type} (outcome : Except ReadError α) : ReadError :=
    match outcome with
    | .error fault => fault
    | .ok _ => .wrongType
  if first = 'n' then faultOf (skipWord ['u', 'l', 'l'] rest)
  else if first = 't' then faultOf (skipWord ['r', 'u', 'e'] rest)
  else if first = 'f' then faultOf (skipWord ['a', 'l', 's', 'e'] rest)
  else if first = '-' then faultOf (readNumber true rest)
  else if isNumberStart first then faultOf (readNumber false (first :: rest))
  else if first = '"' then faultOf (readQuoted rest)
  else if first = '[' ∨ first = '{' then .wrongType
  else .malformed
where
  /-- Does a numeral begin with this character? -/
  isNumberStart (c : Char) : Bool := Numeral.isDigit c

/-! ## Scalars -/

def readBool : Reader Bool := fun text =>
  match skipBlanks text with
  | [] => .error .endOfText
  | c :: rest =>
    if c = 't' then (skipWord ['r', 'u', 'e'] rest).map fun rest => (true, rest)
    else if c = 'f' then (skipWord ['a', 'l', 's', 'e'] rest).map fun rest => (false, rest)
    else .error (mismatch c rest)

def readString : Reader String := fun text =>
  match skipBlanks text with
  | [] => .error .endOfText
  | c :: rest =>
    if c = '"' then (readQuoted rest).map fun (text, rest) => (String.ofList text, rest)
    else .error (mismatch c rest)

def readAnyNumber : Reader Number := fun text =>
  match skipBlanks text with
  | [] => .error .endOfText
  | c :: rest =>
    if c = '-' then readNumber true rest
    else if Numeral.isDigit c then readNumber false (c :: rest)
    else .error (mismatch c rest)

def readNatural (bound : Nat) : Reader Nat := fun text =>
  match readAnyNumber text with
  | .error fault => .error fault
  | .ok (.natural n, rest) => if n < bound then .ok (n, rest) else .error .wrongType
  | .ok (.negative _, _) | .ok (.float _, _) => .error .wrongType

def readWord32 : Reader UInt32 := fun text =>
  (readNatural UInt32.size text).map fun (n, rest) => (UInt32.ofNat n, rest)

def readWord64 : Reader UInt64 := fun text =>
  (readNatural UInt64.size text).map fun (n, rest) => (UInt64.ofNat n, rest)

def readFloat : Reader Float := fun text =>
  match readAnyNumber text with
  | .error fault => .error fault
  | .ok (.natural n, rest) => .ok ((UInt64.ofNat n).toFloat, rest)
  | .ok (.negative n, rest) => .ok (-(UInt64.ofNat n).toFloat, rest)
  | .ok (.float x, rest) => .ok (x, rest)

/-! ## Lists -/

/-- What stands at a place where a list can go on or end. -/
inductive ListPlace where
  | ended (rest : List Char)
  | item (text : List Char)

/-- Looks for the next item of a list, behind a comma unless it is the first. -/
def nextItem (first : Bool) (text : List Char) : Except ReadError ListPlace :=
  match skipBlanks text with
  | [] => .error .endOfText
  | ']' :: rest => .ok (.ended rest)
  | c :: rest =>
    if first then .ok (.item (c :: rest))
    else if c = ',' then
      match skipBlanks rest with
      | [] => .error .endOfText
      | ']' :: _ => .error .malformed
      | rest => .ok (.item rest)
    else .error .malformed

/-- Reads the items of a list up to its end, at most as many as there is fuel. -/
def readItems {α : Type} (item : Reader α) : Nat → Bool → Reader (List α)
  | 0, _, _ => .error .malformed
  | fuel + 1, first, text =>
    match nextItem first text with
    | .error fault => .error fault
    | .ok (.ended rest) => .ok ([], rest)
    | .ok (.item text) =>
      match item text with
      | .error fault => .error fault
      | .ok (head, text) =>
        match readItems item fuel false text with
        | .error fault => .error fault
        | .ok (tail, rest) => .ok (head :: tail, rest)

/-- Reads a list.  Every item takes at least one character, so the text's length is fuel
enough. -/
def readList {α : Type} (item : Reader α) : Reader (List α) := fun text =>
  match skipBlanks text with
  | [] => .error .endOfText
  | c :: rest =>
    if c = '[' then readItems item (rest.length + 1) true rest
    else .error (mismatch c rest)

/-! ## Members of an object -/

/-- What stands at a place where an object can go on or end. -/
inductive MemberPlace where
  | ended (rest : List Char)
  /-- A key begins; its opening quote has been read. -/
  | key (text : List Char)

/-- Looks for the next member of an object, behind a comma unless it is the first. -/
def nextMember (first : Bool) (text : List Char) : Except ReadError MemberPlace :=
  match skipBlanks text with
  | [] => .error .endOfText
  | '}' :: rest => .ok (.ended rest)
  | c :: rest =>
    if first then
      if c = '"' then .ok (.key rest) else .error .malformed
    else if c = ',' then
      match skipBlanks rest with
      | [] => .error .endOfText
      | '"' :: rest => .ok (.key rest)
      | _ => .error .malformed
    else .error .malformed

def skipColon (text : List Char) : Except ReadError (List Char) :=
  match skipBlanks text with
  | [] => .error .endOfText
  | ':' :: rest => .ok rest
  | _ => .error .malformed

/-- Reads the members of an object up to its end.  What is read so far goes through `member`,
which is given the key and reads from behind it. -/
def readMembers {α : Type} (member : α → String → Reader α) : Nat → Bool → α → Reader α
  | 0, _, _, _ => .error .malformed
  | fuel + 1, first, soFar, text =>
    match nextMember first text with
    | .error fault => .error fault
    | .ok (.ended rest) => .ok (soFar, rest)
    | .ok (.key text) =>
      match readQuoted text with
      | .error fault => .error fault
      | .ok (key, text) =>
        match member soFar (String.ofList key) text with
        | .error fault => .error fault
        | .ok (soFar, text) => readMembers member fuel false soFar text

/-! ## Skipping a value -/

/-- A bracket that has been opened. -/
inductive Bracket where
  | list
  | object
deriving DecidableEq, Repr

/-- What follows after a value inside the open brackets. -/
inductive AfterValue where
  /-- All brackets are closed. -/
  | done (rest : List Char)
  /-- Another value follows inside these brackets. -/
  | value (brackets : List Bracket) (text : List Char)

def skipKey (text : List Char) : Except ReadError (List Char) :=
  match skipBlanks text with
  | [] => .error .endOfText
  | '"' :: rest =>
    match skipQuoted rest with
    | .error fault => .error fault
    | .ok text => skipColon text
  | _ => .error .malformed

def enterBracket (brackets : List Bracket) (text : List Char) : Except ReadError AfterValue :=
  match brackets with
  | .object :: _ => (skipKey text).map (.value brackets)
  | _ => .ok (.value brackets text)

/-- Closes brackets for as long as they end here, or goes on behind a comma. -/
def afterValue : List Bracket → List Char → Except ReadError AfterValue
  | [], text => .ok (.done text)
  | bracket :: outer, text =>
    match skipBlanks text with
    | [] => .error .endOfText
    | c :: rest =>
      if c = ',' then enterBracket (bracket :: outer) rest
      else if (c = ']' ∧ bracket = .list) ∨ (c = '}' ∧ bracket = .object) then
        afterValue outer rest
      else .error .malformed

/-- Goes on after a bracket has been opened, which may be closed at once. -/
def afterOpening (bracket : Bracket) (outer : List Bracket) (text : List Char) :
    Except ReadError AfterValue :=
  match skipBlanks text with
  | [] => .error .endOfText
  | c :: rest =>
    if (c = ']' ∧ bracket = .list) ∨ (c = '}' ∧ bracket = .object) then afterValue outer rest
    else enterBracket (bracket :: outer) (c :: rest)

def skipOne (brackets : List Bracket) (text : List Char) : Except ReadError AfterValue :=
  let go (rest : Except ReadError (List Char)) : Except ReadError AfterValue :=
    match rest with
    | .error fault => .error fault
    | .ok rest => afterValue brackets rest
  match skipBlanks text with
  | [] => .error .endOfText
  | c :: rest =>
    if c = 'n' then go (skipWord ['u', 'l', 'l'] rest)
    else if c = 't' then go (skipWord ['r', 'u', 'e'] rest)
    else if c = 'f' then go (skipWord ['a', 'l', 's', 'e'] rest)
    else if c = '-' then go (skipNumber rest)
    else if Numeral.isDigit c then go (skipNumber (c :: rest))
    else if c = '"' then go (skipQuoted rest)
    else if c = '[' then afterOpening .list brackets rest
    else if c = '{' then afterOpening .object brackets rest
    else .error .malformed

/-- Skips values until all brackets are closed, at most as many as there is fuel. -/
def skipValues : Nat → List Bracket → List Char → Except ReadError (List Char)
  | 0, _, _ => .error .malformed
  | fuel + 1, brackets, text =>
    match skipOne brackets text with
    | .error fault => .error fault
    | .ok (.done rest) => .ok rest
    | .ok (.value brackets text) => skipValues fuel brackets text

/-- Skips a value of any type.  Every step takes at least one character, so the text's length
is fuel enough. -/
def skipValue (text : List Char) : Except ReadError (List Char) :=
  skipValues (text.length + 1) [] text

/-! ## Whole texts -/

def readText {α : Type} (reader : Reader α) (text : String) : Except ReadError α :=
  match reader text.toList with
  | .error fault => .error fault
  | .ok (value, rest) => if (skipBlanks rest).isEmpty then .ok value else .error .malformed

end VideoGate.Json
