/-!
# Text without escape sequences

A terminal does not show every character of a text. Control characters are commands, and the escape
character begins a sequence of characters that is one command. What is printed to something else
than a terminal should hold neither.

## Shape decisions

* **Reading a text is a fold of a small state.** The state says which kind of sequence has been
  begun, and thereby what ends it.
* **Layout is kept.** Tabs, line feeds, form feeds and carriage returns are shown, in the middle of
  a sequence too, except in one that is a string of any characters. Whether the sequence is over
  then is for the caller to say (`Interruption`).
* **Characters beyond ASCII belong to whatever they are in**: they are shown in ordinary text and
  swallowed in a sequence.
* **A string ends at a byte.** Terminals know an octet that ends a string, and they find it in the
  middle of a character as well. The character is lost to the string all the same.
-/

namespace LatencyCurve

/-- Which kind of escape sequence has been begun. -/
inductive EscapeState where
  /-- None: this is ordinary text -/
  | text
  /-- Nothing but the escape character has been read -/
  | opened
  /-- A sequence of a few characters, with the last one still to come -/
  | short
  /-- A control sequence, which a letter ends -/
  | control
  /-- A string for the system around the terminal, which a bell ends -/
  | system
  /-- A string for a device, of which nothing has been read -/
  | device
  /-- A string for a device, up to somewhere in its parameters -/
  | parameters
  /-- A string for a device, up to somewhere between its parameters and its body -/
  | intermediates
  /-- Any other string, or the body of one for a device -/
  | string
deriving DecidableEq, Repr

namespace EscapeState

/-- Whether a character lays out the text around it. -/
def isLayout (c : Char) : Bool :=
  c = '\t' || c = '\n' || c = '\x0c' || c = '\r'

/-- Whether a character is a command by itself. -/
def isControl (c : Char) : Bool :=
  c < ' ' || c = '\x7f'

/-- The octet that ends a string. -/
def stringTerminator : UInt8 := 0x9C

/-- Whether the octet that ends a string is one of those that encode a character. -/
def endsString (c : Char) : Bool :=
  (String.utf8EncodeChar c).contains stringTerminator

/-- The kind of sequence that the character after an escape character begins. -/
def ofOpening (c : Char) : EscapeState :=
  if c = '[' then control
  else if c = ']' then system
  else if c = 'P' then device
  else if c = 'X' || c = '^' || c = '_' then string
  else if c < '0' then short
  else text

/-- The state after a character of ASCII that is no control. -/
def advance (s : EscapeState) (c : Char) : EscapeState :=
  match s with
  | text => text
  | opened => ofOpening c
  | short => if c < '0' then short else text
  | control => if c < '@' then control else text
  | system => system
  | device => if c < '0' then intermediates else if c < '@' then parameters else string
  | parameters => if c < '0' then intermediates else if c < '<' then parameters else string
  | intermediates => if c < '0' then intermediates else string
  | string => string

/-- Whether a state is inside a string. -/
def inString (s : EscapeState) : Bool :=
  match s with
  | system | device | parameters | intermediates | string => true
  | text | opened | short | control => false

/-- Whether a character is shown. -/
def shows (s : EscapeState) (c : Char) : Bool :=
  if isLayout c then !s.inString
  else if isControl c then false
  else s = text

/-- The state after a character that is not shown. -/
def next (s : EscapeState) (c : Char) : EscapeState :=
  if c = '\x1b' then opened
  else if c = '\x18' || c = '\x1a' then text
  else if c = '\x07' && s = system then text
  else if isControl c then s
  else if '\x7f' < c then if s = string && endsString c then text else s
  else s.advance c

end EscapeState

/-- What becomes of a sequence with layout in the middle of it. -/
inductive Interruption where
  /-- It is over -/
  | ends
  /-- It waits: what follows is ordinary text up to the next command, and then the sequence goes on.
  A character beyond ASCII in that text ends it. -/
  | pauses
deriving DecidableEq, Repr

/-- The state to go on with after a character that is shown. -/
def Interruption.resumed (i : Interruption) (s : EscapeState) (c : Char) : EscapeState :=
  match i with
  | ends => .text
  | pauses => if '\x7f' < c then .text else s

/-- The characters of a text that are shown, given which kind of sequence has been begun and whether
it waits. -/
def shownFrom (i : Interruption) (s : EscapeState) (waits : Bool) : List Char → List Char
  | [] => []
  | c :: cs =>
    if s.shows c || waits && EscapeState.text.shows c then c :: shownFrom i (i.resumed s c) true cs
    else shownFrom i (s.next c) false cs

/-- A text without the escape sequences and control characters in it. -/
def withoutEscapes (i : Interruption) (text : String) : String :=
  String.ofList (shownFrom i .text false text.toList)

end LatencyCurve
