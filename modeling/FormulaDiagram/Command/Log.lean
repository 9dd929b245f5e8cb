import FormulaDiagram.Text.ControlSequence
import FormulaDiagram.Text.Printable

/-!
What a run reports about itself while it works.
-/

namespace FormulaDiagram

/-- How much attention a record asks for. -/
inductive LogLevel where
  | error
  | warn
  | info
  | debug
  | trace
deriving DecidableEq

namespace LogLevel

/-- The place of a level, counted from the gravest. -/
def rank : LogLevel → Nat
  | .error => 1
  | .warn => 2
  | .info => 3
  | .debug => 4
  | .trace => 5

/-- The level as it stands in a line, all of one width. -/
def text : LogLevel → String
  | .error => "ERROR"
  | .warn => "WARN "
  | .info => "INFO "
  | .debug => "DEBUG"
  | .trace => "TRACE"

end LogLevel

/-- Which records are shown: none, or those of a level and graver ones. -/
inductive LogFilter where
  | off
  | upTo (level : LogLevel)
deriving DecidableEq

namespace LogFilter

def all : List LogFilter :=
  [.off, .upTo .error, .upTo .warn, .upTo .info, .upTo .debug, .upTo .trace]

def name : LogFilter → String
  | .off => "Off"
  | .upTo .error => "Error"
  | .upTo .warn => "Warn"
  | .upTo .info => "Info"
  | .upTo .debug => "Debug"
  | .upTo .trace => "Trace"

/-- The filter of a name, in letters of any case. -/
def ofName? (name : String) : Option LogFilter := all.find? fun f => f.name.toLower == name.toLower

def shows (filter : LogFilter) (level : LogLevel) : Bool :=
  match filter with
  | .off => false
  | .upTo limit => level.rank ≤ limit.rank

end LogFilter

/-- One report of a run: a message and named values. -/
structure LogRecord where
  level : LogLevel
  target : String
  message : String
  fields : List (String × String) := []
deriving DecidableEq

namespace LogRecord

/-- The lines of a record, without what a terminal would not show. Those of the message behind the first one are set
in. -/
def text (r : LogRecord) : String :=
  let message := String.ofList (r.message.toList.flatMap fun c => if c = '\n' then "\n    ".toList else [c])
  let fields := String.join (r.fields.map fun (key, value) => " " ++ key ++ "=" ++ value)
  Text.withoutControls ("[" ++ r.level.text ++ " " ++ r.target ++ "] " ++ message ++ fields)

end LogRecord

/-- The character as it stands in a quoted text. One that is not shown by itself is written by its code point. -/
def quotedChar (c : Char) : List Char :=
  match c with
  | '"' => ['\\', '"']
  | '\\' => ['\\', '\\']
  | '\n' => ['\\', 'n']
  | '\r' => ['\\', 'r']
  | '\t' => ['\\', 't']
  | '\x00' => ['\\', '0']
  | c => if Text.isPrintable c then [c] else ['\\', 'u', '\x7b'] ++ Nat.toDigits 16 c.toNat ++ ['\x7d']

def quoted (s : String) : String := "\"" ++ String.ofList (s.toList.flatMap quotedChar) ++ "\""

/-- A text that may be missing, quoted. -/
def quotedOption : Option String → String
  | none => "None"
  | some s => "Some(" ++ quoted s ++ ")"

end FormulaDiagram
