import FormulaDiagram.Formula.Basic

/-!
Syntax errors: what would have been right at the first place where a formula cannot go on, and what stands
there instead.
-/

namespace FormulaDiagram

/-- What was wanted where a formula cannot go on. -/
inductive Expected where
  | token (kind : TokenKind)
  | formula
  | term
  | boundVariable
  | endOfInput
  | nestingLimit (limit : Nat)
deriving DecidableEq

def Expected.text : Expected → String
  | .token kind => kind.text
  | .formula => "a formula"
  | .term => "a term"
  | .boundVariable => "a variable name"
  | .endOfInput => "end of input"
  | .nestingLimit limit => "at most " ++ toString limit ++ " levels of nesting"

/-- What stands where a formula cannot go on. -/
inductive Found where
  | token (kind : TokenKind) (text : String)
  | endOfInput
deriving DecidableEq

def Found.text : Found → String
  | .token _ text => "`" ++ text ++ "`"
  | .endOfInput => "end of input"

/-- A syntax error and its place. The offset is that of the token that is wrong, or the length of the source where
it ends too early. -/
structure ParseError where
  offset : Nat
  expected : Expected
  found : Found
  span : Span
deriving DecidableEq

namespace ParseError

variable (e : ParseError)

def message : String :=
  "expected " ++ e.expected.text ++ ", found " ++ e.found.text ++ " at offset " ++ toString e.offset

/-- What was expected decides the topic before the end of input does. -/
def topic : Topic :=
  match e.expected, e.found with
  | .nestingLimit _, _ => .nestedTooDeeply
  | .token .closing, _ => .unclosedParenthesis
  | .boundVariable, _ => .malformedQuantifier
  | .token .dot, _ => .malformedQuantifier
  | _, .endOfInput => .incompleteInput
  | _, _ => .unexpectedToken

def help : Option String :=
  match e.topic with
  | .unclosedParenthesis => some "add a closing `)`"
  | .malformedQuantifier => some "write a quantifier as `∀x.body` or `!x:body`"
  | .nestedTooDeeply => some "split the formula into smaller parts"
  | .incompleteInput => some "every operator needs an operand after it"
  | _ => if e.expected = .endOfInput then some "join separate formulas with a connective" else none

def diagnostic : Diagnostic where
  severity := .error
  topic := some e.topic
  message :=
    match e.expected with
    | .nestingLimit limit => "formula is nested more than " ++ toString limit ++ " levels deep"
    | _ => "expected " ++ e.expected.text ++ ", found " ++ e.found.text
  labels := [⟨true, e.span, e.topic.description⟩]
  help := e.help

end ParseError

end FormulaDiagram
