import VideoGate.Text.Hidden
import VideoGate.Text.Split

/-!
# Paths as text

A path is a text whose parts are divided by slashes.  In messages a path stands in quotes,
with every hidden character escaped.
-/

namespace VideoGate.Path

def isAbsolute (path : String) : Bool := path.toList.head? == some '/'

/-- A path below another one.  An absolute path takes the place of the other. -/
def join (base name : String) : String :=
  if isAbsolute name then name
  else if base.isEmpty ∨ base.toList.getLast? = some '/' then base ++ name
  else base ++ "/" ++ name

def parts (path : String) : List String := (Text.split '/' path.toList).map String.ofList

/-! ## Quoting -/

/-- A character as it stands in a quoted path. -/
def escape (c : Char) : List Char :=
  if c = '"' ∨ c = '\\' then ['\\', c]
  else if c = '\n' then ['\\', 'n']
  else if c = '\r' then ['\\', 'r']
  else if c = '\t' then ['\\', 't']
  else if c.toNat = 0 then ['\\', '0']
  else if Text.isHidden c then
    ['\\', 'u', '\x7b'] ++ Nat.toDigits 16 c.toNat ++ ['\x7d']
  else [c]

def quoted (path : String) : String :=
  String.ofList ('"' :: path.toList.flatMap escape ++ ['"'])

end VideoGate.Path
