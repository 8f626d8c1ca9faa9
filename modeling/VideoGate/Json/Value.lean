import VideoGate.Decimal.Layout
import VideoGate.Json.Quoted

/-!
# Writing values

A value is written without any blanks, or with one item a line and two blanks for each level.
Members keep their order.  A float is written by its shortest digits, always with a point or
an exponent; a number that is not finite is written as null.

What is written is JSON by its standard.  The two layouts, the form of floats and the null for
numbers that are not finite are documented choices of the library that this module stands for.
-/

namespace VideoGate.Json

inductive Value where
  | null
  | bool (b : Bool)
  | natural (n : Nat)
  | float (x : Float)
  | string (text : String)
  | list (items : List Value)
  | object (members : List (String × Value))
deriving Inhabited

/-- Floats are written positionally from 0.00001 to below 10^16. -/
def floatLayout : DecimalLayout where
  tie := .toEven
  positional := some (-5, 15)
  keepsPoint := true

def writeFloat (x : Float) : List Char :=
  if x.isFinite then (floatLayout.write x).toList else ['n', 'u', 'l', 'l']

def writeBool (b : Bool) : List Char :=
  if b then ['t', 'r', 'u', 'e'] else ['f', 'a', 'l', 's', 'e']

mutual

def Value.compact : Value → List Char
  | .null => ['n', 'u', 'l', 'l']
  | .bool b => writeBool b
  | .natural n => Numeral.render n
  | .float x => writeFloat x
  | .string text => quote text
  | .list items => '[' :: compactItems items ++ [']']
  | .object members => '{' :: compactMembers members ++ ['}']

def compactItems : List Value → List Char
  | [] => []
  | [item] => item.compact
  | item :: items => item.compact ++ ',' :: compactItems items

def compactMembers : List (String × Value) → List Char
  | [] => []
  | [(key, value)] => quote key ++ ':' :: value.compact
  | (key, value) :: members =>
    quote key ++ ':' :: value.compact ++ ',' :: compactMembers members

end

/-- A new line, indented by two blanks for each level. -/
def newline (level : Nat) : List Char := '\n' :: List.replicate (2 * level) ' '

mutual

/-- Writes a value with one item a line, from a line that is indented by `level`. -/
def Value.pretty (level : Nat) : Value → List Char
  | .list items =>
    if items.isEmpty then ['[', ']']
    else '[' :: prettyItems (level + 1) items ++ newline level ++ [']']
  | .object members =>
    if members.isEmpty then ['{', '}']
    else '{' :: prettyMembers (level + 1) members ++ newline level ++ ['}']
  | .null => ['n', 'u', 'l', 'l']
  | .bool b => writeBool b
  | .natural n => Numeral.render n
  | .float x => writeFloat x
  | .string text => quote text

def prettyItems (level : Nat) : List Value → List Char
  | [] => []
  | [item] => newline level ++ item.pretty level
  | item :: items => newline level ++ item.pretty level ++ ',' :: prettyItems level items

def prettyMembers (level : Nat) : List (String × Value) → List Char
  | [] => []
  | [(key, value)] => newline level ++ quote key ++ ':' :: ' ' :: value.pretty level
  | (key, value) :: members =>
    newline level ++ quote key ++ ':' :: ' ' :: value.pretty level ++
      ',' :: prettyMembers level members

end

def Value.compactText (value : Value) : String := String.ofList value.compact

def Value.prettyText (value : Value) : String := String.ofList (value.pretty 0)

end VideoGate.Json
