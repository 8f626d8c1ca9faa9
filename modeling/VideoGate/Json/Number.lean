import VideoGate.Json.Quoted
import VideoGate.Text.Numeral

/-!
# Reading numbers

A numeral is read as a natural number below 2^64, as a negative whole number down to -2^63,
or else as a float.  A float is built from its significant digits, as far as they fit into 64
bits, and a power of ten, by one multiplication or division; this is exact for short numerals
and off by very little for long ones.

The grammar of numerals is that of the standard of JSON.  The standard leaves the range and the
precision of numbers to the reader: the three kinds of numbers, and floats that are not always the
nearest ones, are what the library documents that this module stands for.
-/

namespace VideoGate.Json

open Numeral (digitValue? isDigit)

/-- What a numeral stands for. -/
inductive Number where
  | natural (n : Nat)
  /-- The number `-n`, for `n` above zero. -/
  | negative (n : Nat)
  | float (x : Float)

/-- Significands are kept below this bound. -/
def significandBound : Nat := UInt64.size

def maxPower : Nat := 308

/-- The float `significand * 10 ^ exponent`; a number that is too large is malformed. -/
def scale (significand : Float) (exponent : Int) : Except ReadError Float :=
  if exponent.natAbs ≤ maxPower then
    let power := Float.ofScientific 1 false exponent.natAbs
    if 0 ≤ exponent then
      let x := significand * power
      if x.isInf then .error .malformed else .ok x
    else
      .ok (significand / power)
  else if significand == 0.0 then .ok significand
  else if 0 ≤ exponent then .error .malformed
  else scale (significand / Float.ofScientific 1 false maxPower) (exponent + maxPower)
termination_by exponent.natAbs
decreasing_by
  simp only [maxPower] at *
  omega

def ofParts (negative : Bool) (significand : Nat) (exponent : Int) :
    Except ReadError Float := do
  let x ← scale (UInt64.ofNat significand).toFloat exponent
  return if negative then -x else x

def finish (negative : Bool) (significand : Nat) (exponent : Int) (rest : List Char) :
    Reading Number :=
  (ofParts negative significand exponent).map fun x => (.float x, rest)

/-! ## The exponent -/

def exponentBound : Nat := Nat.pow 2 31

def finishOutOfBounds (negative isZero exponentNegative : Bool) (text : List Char) :
    Reading Number :=
  if !isZero && !exponentNegative then .error .malformed
  else .ok (.float (if negative then -0.0 else 0.0), text.dropWhile isDigit)

def readExponentDigits (negative : Bool) (significand : Nat) (start : Int)
    (exponentNegative : Bool) (exponent : Nat) : List Char → Reading Number
  | [] => finish negative significand (shifted exponent) []
  | c :: rest =>
    match digitValue? c with
    | none => finish negative significand (shifted exponent) (c :: rest)
    | some digit =>
      if exponent * 10 + digit < exponentBound then
        readExponentDigits negative significand start exponentNegative
          (exponent * 10 + digit) rest
      else
        finishOutOfBounds negative (significand == 0) exponentNegative rest
where
  /-- The power of ten, the places after the point counted in. -/
  shifted (exponent : Nat) : Int :=
    if exponentNegative then start - exponent else start + exponent

/-- Reads an exponent; its mark has been read. -/
def readExponent (negative : Bool) (significand : Nat) (start : Int) (text : List Char) :
    Reading Number :=
  let (exponentNegative, text) :=
    match text with
    | '+' :: rest => (false, rest)
    | '-' :: rest => (true, rest)
    | text => (false, text)
  match text with
  | [] => .error .endOfText
  | c :: rest =>
    match digitValue? c with
    | none => .error .malformed
    | some digit => readExponentDigits negative significand start exponentNegative digit rest

def isExponentMark (c : Char) : Bool := c == 'e' || c == 'E'

/-- Goes on after the last digit before an exponent. -/
def finishOrExponent (negative : Bool) (significand : Nat) (exponent : Int) :
    List Char → Reading Number
  | [] => finish negative significand exponent []
  | c :: rest =>
    if isExponentMark c then readExponent negative significand exponent rest
    else finish negative significand exponent (c :: rest)

/-! ## The fraction -/

/-- Reads the digits after the point, of which `places` have been read.  Digits that do not
fit into the significand are left out. -/
def readFraction (negative : Bool) (significand : Nat) (exponent : Int) (places : Nat) :
    List Char → Reading Number
  | [] =>
    if places = 0 then .error .endOfText else finish negative significand (exponent - places) []
  | c :: rest =>
    match digitValue? c with
    | none =>
      if places = 0 then .error .malformed
      else finishOrExponent negative significand (exponent - places) (c :: rest)
    | some digit =>
      if significand * 10 + digit < significandBound then
        readFraction negative (significand * 10 + digit) exponent (places + 1) rest
      else
        finishOrExponent negative significand (exponent - places) (rest.dropWhile isDigit)

/-! ## The whole part -/

/-- Skips the digits of a whole part that do not fit into the significand; each of them is a
power of ten. -/
def readLongWhole (negative : Bool) (significand : Nat) (exponent : Nat) :
    List Char → Reading Number
  | [] => finish negative significand exponent []
  | c :: rest =>
    if isDigit c then readLongWhole negative significand (exponent + 1) rest
    else if c = '.' then readFraction negative significand exponent 0 rest
    else finishOrExponent negative significand exponent (c :: rest)

/-- A whole number without point and exponent. -/
def wholeNumber (negative : Bool) (n : Nat) : Number :=
  if !negative then .natural n
  else if n = 0 ∨ Nat.pow 2 63 < n then .float (-(UInt64.ofNat n).toFloat)
  else .negative n

def finishWhole (negative : Bool) (significand : Nat) : List Char → Reading Number
  | [] => .ok (wholeNumber negative significand, [])
  | c :: rest =>
    if c = '.' then readFraction negative significand 0 0 rest
    else if isExponentMark c then readExponent negative significand 0 rest
    else .ok (wholeNumber negative significand, c :: rest)

def readWhole (negative : Bool) (significand : Nat) : List Char → Reading Number
  | [] => finishWhole negative significand []
  | c :: rest =>
    match digitValue? c with
    | none => finishWhole negative significand (c :: rest)
    | some digit =>
      if significand * 10 + digit < significandBound then
        readWhole negative (significand * 10 + digit) rest
      else
        readLongWhole negative significand 1 rest

/-- Reads a numeral whose sign, if any, has been read.  Only the number zero begins with the
digit zero. -/
def readNumber (negative : Bool) (text : List Char) : Reading Number :=
  match text with
  | [] => .error .endOfText
  | c :: rest =>
    match digitValue? c with
    | none => .error .malformed
    | some 0 =>
      match rest with
      | [] => finishWhole negative 0 []
      | d :: _ => if isDigit d then .error .malformed else finishWhole negative 0 rest
    | some digit => readWhole negative digit rest

/-! ## Skipping -/

def skipExponent (text : List Char) : Except ReadError (List Char) :=
  let text :=
    match text with
    | '+' :: rest => rest
    | '-' :: rest => rest
    | text => text
  match text with
  | [] => .error .malformed
  | c :: rest => if isDigit c then .ok (rest.dropWhile isDigit) else .error .malformed

def skipFraction (text : List Char) : Except ReadError (List Char) :=
  match text with
  | [] => .ok []
  | c :: rest =>
    if c = '.' then
      match rest with
      | [] => .error .malformed
      | d :: _ =>
        if isDigit d then
          match rest.dropWhile isDigit with
          | [] => .ok []
          | e :: after => if isExponentMark e then skipExponent after else .ok (e :: after)
        else .error .malformed
    else if isExponentMark c then skipExponent rest
    else .ok (c :: rest)

def skipNumber (text : List Char) : Except ReadError (List Char) :=
  match text with
  | [] => .error .malformed
  | c :: rest =>
    match digitValue? c with
    | none => .error .malformed
    | some 0 =>
      match rest with
      | [] => .ok []
      | d :: _ => if isDigit d then .error .malformed else skipFraction rest
    | some _ => skipFraction (rest.dropWhile isDigit)

end VideoGate.Json
