/-!
# What a terminal shows

A text may hold control sequences, which a terminal obeys instead of showing them.  An escape
character begins one, and what comes next tells its kind: a control sequence ends with its final
character, a command to the system ends with a bell, and other strings end with a string
terminator; a string for a device has a head that is built like a control sequence.  The visible
part of a text is what is left without them and without any other controls; only blanks, tabs and
line breaks stay.

A line break within a control sequence is shown, and so is the plain text behind it; the sequence
goes on at the next character that is not shown.
-/

namespace VideoGate.Terminal

/-- The parts of the head of a string for a device, before its final character. -/
inductive Part where
  | introducer
  | parameters
  | intermediates
deriving DecidableEq, Repr

/-- What is being read. -/
inductive State where
  | text
  /-- An escape character, whose sequence has no kind yet. -/
  | escape
  /-- An escape sequence of several characters. -/
  | longEscape
  | control
  /-- The head of a string for a device. -/
  | device (part : Part)
  /-- A command to the system. -/
  | command
  /-- A string up to its terminator. -/
  | string
deriving DecidableEq, Repr

def within (low high : Nat) (c : Char) : Bool := low ≤ c.toNat && c.toNat ≤ high

/-- Does a character only move what comes behind it? -/
def isBreak (c : Char) : Bool := c = '\t' || c = '\n' || c = '\x0c' || c = '\r'

def isPlain (c : Char) : Bool := isBreak c || (0x20 ≤ c.toNat && c.toNat ≠ 0x7F)

/-- Is a character a string terminator, or one whose encoding holds the byte of one? -/
def terminates (c : Char) : Bool := (String.utf8EncodeChar c).contains 0x9C

/-- The part of a head after a character that is not the final one; none if the character is out of
order there. -/
def Part.next? (part : Part) (c : Char) : Option Part :=
  if within 0x20 0x2F c then some .intermediates
  else if within 0x30 0x3B c then
    if part = .intermediates then none else some .parameters
  else if within 0x3C 0x3F c then
    if part = .introducer then some .parameters else none
  else some part

/-- Is a character the final one of a control sequence or of a head? -/
def isFinal (c : Char) : Bool := within 0x40 0x7E c

/-- What is read after an escape character and another character. -/
def afterEscape (c : Char) : State :=
  if c = '[' then .control
  else if c = ']' then .command
  else if c = 'P' then .device .introducer
  else if c = 'X' ∨ c = '^' ∨ c = '_' then .string
  else if within 0x20 0x2F c then .longEscape
  else if within 0x30 0x7E c then .text
  else .escape

namespace State

/-- What is read after a character.  A cancelling character ends everything, and an escape
character begins anew. -/
def next (state : State) (c : Char) : State :=
  if c.toNat = 0x18 ∨ c.toNat = 0x1A then .text
  else if c.toNat = 0x1B then .escape
  else
    match state with
    | text => .text
    | escape => afterEscape c
    | longEscape => if within 0x30 0x7E c then .text else .longEscape
    | control => if isFinal c then .text else .control
    | device part =>
      if isFinal c then .string else ((part.next? c).map device).getD .string
    | command => if c.toNat = 0x07 then .text else .command
    | string => if terminates c then .text else .string

def shows (state : State) (c : Char) : Bool :=
  match state with
  | text => isPlain c
  | escape | longEscape | control => isBreak c
  | device _ | command | string => false

end State

/-- A terminal: what it reads, and whether it has just shown a character. -/
structure Screen where
  state : State := .text
  isShowing : Bool := false
deriving DecidableEq, Repr

namespace Screen

def read (screen : Screen) (c : Char) : Bool × Screen :=
  if screen.isShowing ∧ isPlain c then
    (true, { screen with state := if c.toNat < 0x80 then screen.state else .text })
  else
    let isShown := screen.state.shows c
    (isShown, { state := screen.state.next c, isShowing := isShown })

def shown : Screen → List Char → List Char
  | _, [] => []
  | screen, c :: rest =>
    let (isShown, screen) := screen.read c
    if isShown then c :: shown screen rest else shown screen rest

end Screen

def visible (text : String) : String := String.ofList (Screen.shown {} text.toList)

end VideoGate.Terminal
