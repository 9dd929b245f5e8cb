import FormulaDiagram.Diagnostic

/-!
The tokens of the formula language. A token is its kind, the text that spells it and where that text stands;
most kinds have several spellings, of which the glyph is the one that messages and drawings use.
-/

namespace FormulaDiagram

inductive TokenKind where
  | identifier
  | not
  | and
  | or
  | implies
  | iff
  | forAll
  | forSome
  | equals
  | notEquals
  | opening
  | closing
  | dot
  | comma
deriving DecidableEq

/-- The part that tokens of a kind play in a formula. -/
inductive TokenClass where
  | identifier
  | operator
  | quantifier
  | punctuation
deriving DecidableEq

namespace TokenKind

def all : List TokenKind :=
  [.identifier, .not, .and, .or, .implies, .iff, .forAll, .forSome, .equals, .notEquals, .opening, .closing, .dot,
    .comma]

def tokenClass : TokenKind → TokenClass
  | .identifier => .identifier
  | .not | .and | .or | .implies | .iff | .equals | .notEquals => .operator
  | .forAll | .forSome => .quantifier
  | .opening | .closing | .dot | .comma => .punctuation

/-- The usual spelling; identifiers have none. -/
def glyph? : TokenKind → Option String
  | .identifier => none
  | .not => some "¬"
  | .and => some "∧"
  | .or => some "∨"
  | .implies => some "→"
  | .iff => some "↔"
  | .forAll => some "∀"
  | .forSome => some "∃"
  | .equals => some "="
  | .notEquals => some "≠"
  | .opening => some "("
  | .closing => some ")"
  | .dot => some "."
  | .comma => some ","

/-- How messages name the kind. -/
def text (kind : TokenKind) : String :=
  match kind.glyph? with
  | some glyph => "`" ++ glyph ++ "`"
  | none => "identifier"

/-- The kind that a character alone spells. -/
def ofChar? : Char → Option TokenKind
  | '¬' | '~' => some .not
  | '∧' | '&' => some .and
  | '∨' | '|' => some .or
  | '→' | '⇒' => some .implies
  | '↔' | '⇔' => some .iff
  | '∀' | '!' => some .forAll
  | '∃' | '?' => some .forSome
  | '=' => some .equals
  | '≠' => some .notEquals
  | '(' | '[' | '\x7b' => some .opening
  | ')' | ']' | '\x7d' => some .closing
  | '.' | ':' => some .dot
  | ',' => some .comma
  | _ => none

/-- The kind that several characters at the head of a text spell together, and how many follow the first. -/
def ofChars? : List Char → Option (TokenKind × Nat)
  | '<' :: '=' :: '>' :: _ => some (.iff, 2)
  | '<' :: '-' :: '>' :: _ => some (.iff, 2)
  | '-' :: '>' :: _ => some (.implies, 1)
  | '=' :: '>' :: _ => some (.implies, 1)
  | '~' :: '=' :: _ => some (.notEquals, 1)
  | _ => none

end TokenKind

/-- A token in a source text. -/
structure Token where
  kind : TokenKind
  text : String
  span : Span
deriving DecidableEq

namespace Token

/-- How messages show a token: an identifier by its name, anything else by its kind. -/
def display (t : Token) : String := if t.kind = .identifier then t.text else t.kind.text

end Token

end FormulaDiagram
