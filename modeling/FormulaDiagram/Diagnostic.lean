import FormulaDiagram.Span

/-!
Messages about a source text: how grave they are, what they are about, the places they point at and what may
help. A diagnostic points at places by labels, of which the first primary one is where it stands.
-/

namespace FormulaDiagram

/-- Errors stop the work on a formula, warnings do not. -/
inductive Severity where
  | error
  | warning
deriving DecidableEq

def Severity.text : Severity → String
  | .error => "error"
  | .warning => "warning"

/-- What a diagnostic is about. -/
inductive Topic where
  | unexpectedCharacter
  | unexpectedToken
  | incompleteInput
  | unclosedParenthesis
  | malformedQuantifier
  | nestedTooDeeply
  | invalidFormula
  | vacuousQuantifier
  | shadowedVariable
deriving DecidableEq

namespace Topic

def all : List Topic :=
  [.unexpectedCharacter, .unexpectedToken, .incompleteInput, .unclosedParenthesis, .malformedQuantifier,
    .nestedTooDeeply, .invalidFormula, .vacuousQuantifier, .shadowedVariable]

/-- The code under which a topic is reported: `E0` for the lexer, `E1` for the parser, `E2` and `W2` for
validation. -/
def code : Topic → String
  | .unexpectedCharacter => "E001"
  | .unexpectedToken => "E100"
  | .incompleteInput => "E101"
  | .unclosedParenthesis => "E102"
  | .malformedQuantifier => "E103"
  | .nestedTooDeeply => "E104"
  | .invalidFormula => "E200"
  | .vacuousQuantifier => "W200"
  | .shadowedVariable => "W201"

def description : Topic → String
  | .unexpectedCharacter => "unexpected character"
  | .unexpectedToken => "unexpected token"
  | .incompleteInput => "incomplete input"
  | .unclosedParenthesis => "unclosed parenthesis"
  | .malformedQuantifier => "malformed quantifier"
  | .nestedTooDeeply => "formula nested too deeply"
  | .invalidFormula => "invalid formula"
  | .vacuousQuantifier => "vacuous quantifier"
  | .shadowedVariable => "shadowed variable"

/-- The topic reported under a code. -/
def ofCode? (code : String) : Option Topic := all.find? (·.code == code)

end Topic

/-- A place in the source and what is to be said of it. -/
structure Label where
  isPrimary : Bool
  span : Span
  message : String
deriving DecidableEq

/-- A message about a source text. -/
structure Diagnostic where
  severity : Severity
  topic : Option Topic
  message : String
  labels : List Label
  help : Option String
deriving DecidableEq

namespace Diagnostic

/-- The first primary place. -/
def primarySpan? (d : Diagnostic) : Option Span := (d.labels.find? (·.isPrimary)).map (·.span)

def isError (d : Diagnostic) : Bool := d.severity = .error

/-- One line: severity, code if there is one, and message. -/
def text (d : Diagnostic) : String :=
  let code := match d.topic with
    | some topic => "[" ++ topic.code ++ "]"
    | none => ""
  d.severity.text ++ code ++ ": " ++ d.message

end Diagnostic

end FormulaDiagram
