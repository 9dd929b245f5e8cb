import FormulaDiagram.Lexer
import FormulaDiagram.Formula.Parser
import FormulaDiagram.Formula.Printer
import FormulaDiagram.Formula.Validation

/-!
From a source text to an annotated formula: the text is cut into tokens, the tokens are read as a formula, and
the formula is validated. The first of these that fails is the error.
-/

namespace FormulaDiagram

/-- Why a source text is not a formula. -/
inductive SourceError where
  | lexical (e : LexError)
  | grammatical (e : ParseError)
  | invalid (e : ValidationError)

namespace SourceError

def message : SourceError → String
  | .lexical e => "lexical error: " ++ e.message
  | .grammatical e => "syntax error: " ++ e.message
  | .invalid e => "validation error: " ++ e.message

/-- Where in the source the error stands. -/
def offset? : SourceError → Option Nat
  | .lexical e => some e.offset
  | .grammatical e => some e.offset
  | .invalid e => e.offset?

def diagnostics : SourceError → List Diagnostic
  | .lexical e => [e.diagnostic]
  | .grammatical e => [e.diagnostic]
  | .invalid e => e.diagnostics

end SourceError

/-- The formula that a source text spells, without annotations. -/
def readFormula (source : String) : Except SourceError Formula := do
  let tokens ← (tokenize source).mapError .lexical
  (Formula.ofTokens tokens source.utf8ByteSize).mapError .grammatical

/-- The annotated formula that a source text spells. -/
def parse (source : String) : Except SourceError AnnotatedFormula := do
  let f ← readFormula source
  f.validate.mapError .invalid

end FormulaDiagram
