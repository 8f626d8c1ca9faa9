/-!
# Quoted text

Inside quotes a quote and a backslash are escaped, and so is every control character: the
common ones by a letter, the others by their number in four hexadecimal digits.  Reading takes
every escape, pairs of surrogates included; it tells a text that ends too early apart from one
that is malformed.

The modules of `VideoGate.Json` are no part of the program: they stand for the library that it reads
and writes JSON with.  Where the standard of the notation decides, they follow the standard; where
it leaves something open, they follow what the library documents.  Here the grammar of strings is
the standard's.  The library's are the choice of escapes in what is written, the refusal of half a
pair of surrogates, and the classes of errors (`ReadError.category`).
-/

namespace VideoGate.Json

/-- Why a text cannot be read. -/
inductive ReadError where
  /-- The text breaks the rules of the notation. -/
  | malformed
  /-- The text ends too early. -/
  | endOfText
  /-- A value of another type or size stands where one is expected. -/
  | wrongType
  /-- A field that is needed does not occur. -/
  | missingField (name : String)
  /-- A field occurs twice. -/
  | duplicateField (name : String)
deriving DecidableEq, Repr

namespace ReadError

def category : ReadError → String
  | malformed => "Syntax"
  | endOfText => "Eof"
  | wrongType | missingField _ | duplicateField _ => "Data"

def words? : ReadError → Option String
  | missingField name => some ("missing field \x60" ++ name ++ "\x60")
  | duplicateField name => some ("duplicate field \x60" ++ name ++ "\x60")
  | _ => none

end ReadError

abbrev Reading (α : Type) := Except ReadError (α × List Char)

/-! ## Writing -/

def hexDigit (digit : Nat) : Char :=
  if digit < 10 then Char.ofNat (48 + digit) else Char.ofNat (87 + digit)

/-- A character as it stands between quotes. -/
def escape (c : Char) : List Char :=
  if c = '"' then ['\\', '"']
  else if c = '\\' then ['\\', '\\']
  else if c = '\n' then ['\\', 'n']
  else if c = '\r' then ['\\', 'r']
  else if c = '\t' then ['\\', 't']
  else if c.toNat = 8 then ['\\', 'b']
  else if c.toNat = 12 then ['\\', 'f']
  else if c.toNat < 32 then
    ['\\', 'u', '0', '0', hexDigit (c.toNat / 16), hexDigit (c.toNat % 16)]
  else [c]

def quote (text : String) : List Char :=
  '"' :: text.toList.flatMap escape ++ ['"']

/-! ## Reading -/

def hexValue? (c : Char) : Option Nat :=
  let n := c.toNat
  if 48 ≤ n ∧ n ≤ 57 then some (n - 48)
  else if 65 ≤ n ∧ n ≤ 70 then some (n - 55)
  else if 97 ≤ n ∧ n ≤ 102 then some (n - 87)
  else none

def byteLength (text : List Char) : Nat := text.foldl (fun length c => length + c.utf8Size) 0

/-- Reads four hexadecimal digits.  A text of fewer than four bytes ends too early. -/
def readHex (text : List Char) : Reading Nat :=
  let fault := if byteLength text < 4 then .endOfText else .malformed
  match text with
  | a :: b :: c :: d :: rest =>
    match hexValue? a, hexValue? b, hexValue? c, hexValue? d with
    | some a, some b, some c, some d => .ok (((a * 16 + b) * 16 + c) * 16 + d, rest)
    | _, _, _, _ => .error fault
  | _ => .error fault

def isHighSurrogate (n : Nat) : Bool := 0xD800 ≤ n && n ≤ 0xDBFF

def isLowSurrogate (n : Nat) : Bool := 0xDC00 ≤ n && n ≤ 0xDFFF

/-- Reads the second half of a surrogate pair, whose first half has been read. -/
def readLowSurrogate (high : Nat) (text : List Char) : Reading Char :=
  match text with
  | [] | ['\\'] => .error .endOfText
  | '\\' :: 'u' :: rest =>
    match readHex rest with
    | .error fault => .error fault
    | .ok (low, rest) =>
      if isLowSurrogate low then
        .ok (Char.ofNat (0x10000 + (high - 0xD800) * 0x400 + (low - 0xDC00)), rest)
      else
        .error .malformed
  | _ => .error .malformed

/-- The character that a letter after a backslash stands for. -/
def letterEscape? (c : Char) : Option Char :=
  if c = '"' then some '"'
  else if c = '\\' then some '\\'
  else if c = '/' then some '/'
  else if c = 'b' then some (Char.ofNat 8)
  else if c = 'f' then some (Char.ofNat 12)
  else if c = 'n' then some '\n'
  else if c = 'r' then some '\r'
  else if c = 't' then some '\t'
  else none

/-- Reads what follows a backslash. -/
def readEscape (text : List Char) : Reading Char :=
  match text with
  | [] => .error .endOfText
  | c :: rest =>
    if c = 'u' then
      match readHex rest with
      | .error fault => .error fault
      | .ok (n, rest) =>
        if isLowSurrogate n then .error .malformed
        else if isHighSurrogate n then readLowSurrogate n rest
        else .ok (Char.ofNat n, rest)
    else
      match letterEscape? c with
      | some c => .ok (c, rest)
      | none => .error .malformed

theorem length_of_readHex {text rest : List Char} {n : Nat} (h : readHex text = .ok (n, rest)) :
    rest.length < text.length := by
  unfold readHex at h
  simp only at h
  split at h
  · split at h
    · cases h
      simp only [List.length_cons]
      omega
    · cases h
  · cases h

theorem length_of_readLowSurrogate {high : Nat} {text rest : List Char} {c : Char}
    (h : readLowSurrogate high text = .ok (c, rest)) : rest.length < text.length := by
  unfold readLowSurrogate at h
  split at h
  · cases h
  · cases h
  · split at h
    · cases h
    · rename_i low after hex
      split at h
      · obtain ⟨_, rfl⟩ := Prod.mk.inj (Except.ok.inj h)
        have := length_of_readHex hex
        simp only [List.length_cons]
        omega
      · cases h
  · cases h

theorem length_of_readEscape {text rest : List Char} {c : Char}
    (h : readEscape text = .ok (c, rest)) : rest.length < text.length := by
  unfold readEscape at h
  split at h
  · cases h
  · split at h
    · split at h
      · cases h
      · rename_i n after hex
        have := length_of_readHex hex
        split at h
        · cases h
        · split at h
          · have := length_of_readLowSurrogate h
            simp only [List.length_cons]
            omega
          · cases h
            simp only [List.length_cons]
            omega
    · split at h
      · cases h
        simp
      · cases h

/-- Reads a text up to its closing quote; the opening one has been read. -/
def readQuoted (text : List Char) : Reading (List Char) :=
  match text with
  | [] => .error .endOfText
  | c :: rest =>
    if c = '"' then .ok ([], rest)
    else if c = '\\' then
      match _h : readEscape rest with
      | .error fault => .error fault
      | .ok (c, after) =>
        match readQuoted after with
        | .error fault => .error fault
        | .ok (more, rest) => .ok (c :: more, rest)
    else if c.toNat < 32 then .error .malformed
    else
      match readQuoted rest with
      | .error fault => .error fault
      | .ok (more, rest) => .ok (c :: more, rest)
termination_by text.length
decreasing_by
  · have := length_of_readEscape _h
    simp only [List.length_cons]
    omega
  · simp

/-- Skips a text up to its closing quote.  Escapes are checked, but not what they stand for. -/
def skipQuoted (text : List Char) : Except ReadError (List Char) :=
  match text with
  | [] => .error .endOfText
  | c :: rest =>
    if c = '"' then .ok rest
    else if c = '\\' then
      match rest with
      | [] => .error .endOfText
      | e :: rest =>
        if e = 'u' then
          match _h : readHex rest with
          | .error fault => .error fault
          | .ok (_, after) => skipQuoted after
        else
          match letterEscape? e with
          | some _ => skipQuoted rest
          | none => .error .malformed
    else if c.toNat < 32 then .error .malformed
    else skipQuoted rest
termination_by text.length
decreasing_by
  · have := length_of_readHex _h
    simp only [List.length_cons]
    omega
  · simp only [List.length_cons]
    omega
  · simp

end VideoGate.Json
