/-!
# Keywords and blanks

Keywords are recognised whatever their case, and numerals in files whatever the blanks around
them.  Lower case is taken as far as it leads to an ASCII letter: besides the capitals there
is one such character, the sign for kelvin.
-/

namespace VideoGate.Text

/-- The lower case of a character, if that is an ASCII letter; else the character itself. -/
def fold (c : Char) : Char :=
  if c = '\u212a' then 'k'
  else if 65 ≤ c.toNat ∧ c.toNat ≤ 90 then Char.ofNat (c.toNat + 32)
  else c

def keyword (text : String) : String := text.map fold

/-- The characters that are white space: their first and last numbers. -/
def whiteRanges : List (Nat × Nat) :=
  [(0x9, 0xD), (0x20, 0x20), (0x85, 0x85), (0xA0, 0xA0), (0x1680, 0x1680), (0x2000, 0x200A),
    (0x2028, 0x2029), (0x202F, 0x202F), (0x205F, 0x205F), (0x3000, 0x3000)]

def isWhite (c : Char) : Bool :=
  whiteRanges.any fun range => range.1 ≤ c.toNat && c.toNat ≤ range.2

/-- A text without the white space at its ends. -/
def strip (text : String) : List Char :=
  ((text.toList.dropWhile isWhite).reverse.dropWhile isWhite).reverse

end VideoGate.Text
