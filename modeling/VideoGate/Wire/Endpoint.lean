import VideoGate.Text.Numeral
import VideoGate.Text.Split
import VideoGate.Wire.Header

/-!
# Endpoints

An endpoint is an IPv4 address with a port.  It is written with points between the bytes of the
address and a colon before the port.  A byte is read from at most three digits without a
needless zero; a port may have any number of zeros in front.
-/

namespace VideoGate.Wire

structure Endpoint where
  address : Address
  port : UInt16
deriving DecidableEq, Repr

namespace Endpoint

def text (endpoint : Endpoint) : String :=
  ".".intercalate (endpoint.address.toList.map fun byte => Numeral.text byte.toNat) ++ ":" ++
    Numeral.text endpoint.port.toNat

/-- Reads digits alone, without a sign, as a number below a bound. -/
def readNumber? (bound : Nat) (digits : List Char) : Option Nat :=
  if digits.isEmpty then none
  else (Numeral.readDigits bound .tooLarge 0 digits).toOption

/-- Reads a byte of an address. -/
def readByte? (digits : List Char) : Option UInt8 :=
  if 1 < digits.length ∧ digits.head? = some '0' then none
  else (readNumber? 256 digits).map UInt8.ofNat

def readAddress? (text : List Char) : Option Address :=
  match (Text.split '.' text).map readByte? with
  | [some a, some b, some c, some d] => some #v[a, b, c, d]
  | _ => none

def parse? (text : String) : Option Endpoint :=
  match Text.split ':' text.toList with
  | [address, port] => do
    return { address := ← readAddress? address, port := UInt16.ofNat (← readNumber? 65536 port) }
  | _ => none

end Endpoint

end VideoGate.Wire
