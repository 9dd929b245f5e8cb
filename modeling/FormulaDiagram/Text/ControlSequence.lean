/-!
Control sequences of terminals, and text without them. A sequence begins with the escape character and is followed by
its own rules to its end: a single character, parameters up to a letter, or a string up to a terminator. What a
terminal would not show is left out: sequences and control characters, white space of ASCII apart.
-/

namespace FormulaDiagram.Text

/-- Where in a control sequence a terminal stands. -/
inductive ControlState where
  /-- Outside of any. -/
  | ground
  /-- Behind the escape character, which says what follows. -/
  | escape
  /-- Before the last character of a sequence that is not a string and has no parameters. -/
  | intermediate
  /-- Among parameters. -/
  | parameters
  /-- In a string that only its terminator ends. -/
  | string
  /-- In a string that the bell ends too. -/
  | command
deriving DecidableEq

namespace ControlState

/-- The characters that cancel a sequence, wherever they stand. -/
def cancels (c : Char) : Bool := c = '\x18' || c = '\x1a'

/-- The terminator of strings is a single byte, which may be part of the bytes of a character. -/
def terminates (c : Char) : Bool := 0x80 ≤ c.toNat && (String.utf8EncodeChar c).contains 0x9c

/-- The state behind a character that is not shown. -/
def next (s : ControlState) (c : Char) : ControlState :=
  if cancels c then .ground
  else if c = '\x1b' then .escape
  else
    match s with
    | .ground => .ground
    | .escape =>
      if c = '[' then .parameters
      else if c = ']' then .command
      else if c = 'P' || c = 'X' || c = '^' || c = '_' then .string
      else if ' ' ≤ c && c ≤ '/' then .intermediate
      else if '0' ≤ c && c ≤ '~' then .ground
      else .escape
    | .intermediate => if '0' ≤ c && c ≤ '~' then .ground else .intermediate
    | .parameters => if '@' ≤ c && c ≤ '~' then .ground else .parameters
    | .string => if terminates c then .ground else .string
    | .command => if c = '\x07' then .ground else .command

/-- The control characters of ASCII that are white space. -/
def isSpacing (c : Char) : Bool := c = '\t' || c = '\n' || c = '\x0c' || c = '\r'

/-- The terminal shows the character. Inside of sequences that are no strings it still obeys white space. -/
def shows (s : ControlState) (c : Char) : Bool :=
  match s with
  | .ground => isSpacing c || (' ' ≤ c && c ≠ '\x7f')
  | .escape => isSpacing c
  | .intermediate => isSpacing c
  | .parameters => isSpacing c
  | .string => false
  | .command => false

/-- What is shown of a text. Once something is shown, all that follows is, until there is something to leave out;
only then the sequence goes on that white space may have interrupted. -/
def shown (s : ControlState) (showing : Bool) : List Char → List Char
  | [] => []
  | c :: rest =>
    if (if showing then ControlState.ground else s).shows c then
      c :: shown (if c.toNat < 0x80 then s else .ground) true rest
    else shown (s.next c) false rest

end ControlState

/-- A text without control sequences and without control characters other than white space. -/
def withoutControls (text : String) : String := String.ofList (ControlState.ground.shown false text.toList)

end FormulaDiagram.Text
