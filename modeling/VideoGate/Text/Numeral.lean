/-!
# Decimal numerals

Natural numbers written in ASCII digits, and read back.  `render` writes no needless zero;
`parseBelow` reads a numeral from left to right and stops at the first thing that is wrong
with it, so of two faults the earlier one is reported.
-/

namespace VideoGate.Numeral

/-! ## Writing -/

def digitChar (digit : Nat) : Char := Char.ofNat (48 + digit)

/-- The digits of a number, the most significant first. -/
def render (n : Nat) : List Char :=
  if n < 10 then [digitChar n] else render (n / 10) ++ [digitChar (n % 10)]
termination_by n

def text (n : Nat) : String := String.ofList (render n)

/-! ## Reading -/

def digitValue? (c : Char) : Option Nat :=
  if 48 ≤ c.toNat ∧ c.toNat ≤ 57 then some (c.toNat - 48) else none

def isDigit (c : Char) : Bool := (digitValue? c).isSome

inductive Fault where
  | empty
  | invalidDigit
  | tooLarge
  | tooSmall
deriving DecidableEq, Repr

def Fault.message : Fault → String
  | empty => "cannot parse integer from empty string"
  | invalidDigit => "invalid digit found in string"
  | tooLarge => "number too large to fit in target type"
  | tooSmall => "number too small to fit in target type"

/-- Reads further digits onto `value`, which must stay below `bound`. -/
def readDigits (bound : Nat) (overflow : Fault) (value : Nat) :
    List Char → Except Fault Nat
  | [] => .ok value
  | c :: rest =>
    match digitValue? c with
    | none => .error .invalidDigit
    | some digit =>
      if value * 10 + digit < bound then readDigits bound overflow (value * 10 + digit) rest
      else .error overflow

/-- Reads a numeral below `bound`, which may begin with a plus sign. -/
def parseBelow (bound : Nat) (text : List Char) : Except Fault Nat :=
  match text with
  | [] => .error .empty
  | ['+'] => .error .invalidDigit
  | '+' :: digits => readDigits bound .tooLarge 0 digits
  | digits => readDigits bound .tooLarge 0 digits

def parseSigned64 (text : List Char) : Except Fault Int :=
  match text with
  | [] => .error .empty
  | ['+'] | ['-'] => .error .invalidDigit
  | '-' :: digits => (readDigits (Nat.pow 2 63 + 1) .tooSmall 0 digits).map fun n => -(n : Int)
  | '+' :: digits => (readDigits (Nat.pow 2 63) .tooLarge 0 digits).map Int.ofNat
  | digits => (readDigits (Nat.pow 2 63) .tooLarge 0 digits).map Int.ofNat

def parseWord32 (text : String) : Except Fault UInt32 :=
  (parseBelow UInt32.size text.toList).map UInt32.ofNat

def parseWord64 (text : String) : Except Fault UInt64 :=
  (parseBelow UInt64.size text.toList).map UInt64.ofNat

/-! ## Padding -/

/-- Puts blanks in front of a text until it has at least `width` characters. -/
def padLeft (width : Nat) (text : String) : String :=
  String.ofList (List.replicate (width - text.length) ' ') ++ text

end VideoGate.Numeral
