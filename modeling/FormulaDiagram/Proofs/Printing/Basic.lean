import FormulaDiagram.Proofs.Printing.Chains
import FormulaDiagram.Text.Character

/-!
What there is to say about a formula and its text apart from places. `erased` is the formula without them, built
up again by the constructors; the text, the names and the nesting of the text do not depend on anything else.
The lexemes are what the text consists of besides white space. The nesting counts the openings of the text that
stand inside one another, among them the parentheses that are written around joined and quantified operands.
-/

namespace FormulaDiagram

/-- A name is not empty and has identifier characters only. -/
def Text.IsName (s : String) : Prop := s.toList ≠ [] ∧ ∀ c ∈ s.toList, Text.isIdentifier c

instance (s : String) : Decidable (Text.IsName s) :=
  decidable_of_iff (s.toList ≠ [] ∧ s.toList.all Text.isIdentifier) (by rw [List.all_eq_true, Text.IsName])

/-- A token apart from its place. -/
abbrev Lexeme : Type := TokenKind × String

def Token.lexeme (t : Token) : Lexeme := (t.kind, t.text)

/-- The usual spelling of a kind that is not that of identifiers. -/
def TokenKind.sign (kind : TokenKind) : Lexeme := (kind, kind.glyph?.getD "")

namespace Term

mutual

/-- The term without places. -/
def erased : Term → Term
  | .variable name _ => .variable name (.point 0)
  | .function name arguments _ => .function name (erasedAll arguments) (.point 0)

def erasedAll : List Term → List Term
  | [] => []
  | t :: ts => erased t :: erasedAll ts

end

mutual

def names : Term → List String
  | .variable name _ => [name]
  | .function name arguments _ => name :: namesAll arguments

def namesAll : List Term → List String
  | [] => []
  | t :: ts => names t ++ namesAll ts

end

mutual

def lexemes : Term → List Lexeme
  | .variable name _ => [(.identifier, name)]
  | .function name arguments _ =>
    (.identifier, name) :: TokenKind.opening.sign :: lexemesAll arguments ++ [TokenKind.closing.sign]

/-- Terms with a comma between them. -/
def lexemesAll : List Term → List Lexeme
  | [] => []
  | t :: ts => lexemes t ++ lexemesMore ts

/-- Terms with a comma before each. -/
def lexemesMore : List Term → List Lexeme
  | [] => []
  | t :: ts => TokenKind.comma.sign :: lexemes t ++ lexemesMore ts

end

mutual

/-- The number of argument lists inside one another. -/
def nesting : Term → Nat
  | .variable _ _ => 0
  | .function _ arguments _ => nestingAll arguments + 1

def nestingAll : List Term → Nat
  | [] => 0
  | t :: ts => max (nesting t) (nestingAll ts)

end

mutual

theorem writeOnto_erased (t : Term) (rest : List Char) : t.erased.writeOnto rest = t.writeOnto rest := by
  cases t with
  | «variable» => rfl
  | function name arguments =>
      rw [erased, writeOnto, writeOnto, writeAll_erased arguments]

theorem writeAll_erased (ts : List Term) (rest : List Char) : writeAll (erasedAll ts) rest = writeAll ts rest := by
  cases ts with
  | nil => rfl
  | cons t ts => rw [erasedAll, writeAll, writeAll, writeOnto_erased t, writeMore_erased ts]

theorem writeMore_erased (ts : List Term) (rest : List Char) :
    writeMore (erasedAll ts) rest = writeMore ts rest := by
  cases ts with
  | nil => rfl
  | cons t ts => rw [erasedAll, writeMore, writeMore, writeOnto_erased t, writeMore_erased ts]

end

mutual

theorem names_erased (t : Term) : t.erased.names = t.names := by
  cases t with
  | «variable» => rfl
  | function name arguments => rw [erased, names, names, namesAll_erased arguments]

theorem namesAll_erased (ts : List Term) : namesAll (erasedAll ts) = namesAll ts := by
  cases ts with
  | nil => rfl
  | cons t ts => rw [erasedAll, namesAll, namesAll, names_erased t, namesAll_erased ts]

end

mutual

theorem nesting_erased (t : Term) : t.erased.nesting = t.nesting := by
  cases t with
  | «variable» => rfl
  | function name arguments => rw [erased, nesting, nesting, nestingAll_erased arguments]

theorem nestingAll_erased (ts : List Term) : nestingAll (erasedAll ts) = nestingAll ts := by
  cases ts with
  | nil => rfl
  | cons t ts => rw [erasedAll, nestingAll, nestingAll, nesting_erased t, nestingAll_erased ts]

end

end Term

namespace Atom

/-- The atom without places. -/
def erased : Atom → Atom
  | .proposition name => .proposition name
  | .predicate name arguments => .predicate name (Term.erasedAll arguments)
  | .equality left right negated => .equality left.erased right.erased negated

def names : Atom → List String
  | .proposition name => [name]
  | .predicate name arguments => name :: Term.namesAll arguments
  | .equality left right _ => left.names ++ right.names

def lexemes : Atom → List Lexeme
  | .proposition name => [(.identifier, name)]
  | .predicate name arguments =>
    (.identifier, name) :: TokenKind.opening.sign :: Term.lexemesAll arguments ++ [TokenKind.closing.sign]
  | .equality left right negated =>
    left.lexemes ++ (if negated then TokenKind.notEquals else .equals).sign :: right.lexemes

def nesting : Atom → Nat
  | .proposition _ => 0
  | .predicate _ arguments => Term.nestingAll arguments + 1
  | .equality left right _ => max left.nesting right.nesting

theorem writeOnto_erased (a : Atom) (rest : List Char) : a.erased.writeOnto rest = a.writeOnto rest := by
  cases a with
  | proposition => rfl
  | predicate name arguments => rw [erased, writeOnto, writeOnto, Term.writeAll_erased]
  | equality left right negated =>
      rw [erased, writeOnto, writeOnto, Term.writeOnto_erased, Term.writeOnto_erased]

theorem names_erased (a : Atom) : a.erased.names = a.names := by
  cases a with
  | proposition => rfl
  | predicate name arguments => rw [erased, names, names, Term.namesAll_erased]
  | equality left right negated => rw [erased, names, names, Term.names_erased, Term.names_erased]

theorem nesting_erased (a : Atom) : a.erased.nesting = a.nesting := by
  cases a with
  | proposition => rfl
  | predicate name arguments => rw [erased, nesting, nesting, Term.nestingAll_erased]
  | equality left right negated => rw [erased, nesting, nesting, Term.nesting_erased, Term.nesting_erased]

end Atom

namespace Formula

/-- The formula without places, with the facts that its constructors keep. -/
def erased : Formula → Formula
  | .atom _ a => ofAtom a.erased (.point 0)
  | .negation _ operand => not operand.erased (.point 0)
  | .binary _ connective left right => joinAt connective left.erased right.erased (.point 0)
  | .quantified _ quantifier bound body => quantify quantifier ⟨bound.name, .point 0⟩ body.erased (.point 0)

/-- The names in the formula: those of propositions, predicates, functions and variables. -/
def names : Formula → List String
  | .atom _ a => a.names
  | .negation _ operand => operand.names
  | .binary _ _ left right => left.names ++ right.names
  | .quantified _ _ bound body => bound.name :: body.names

/-- Parentheses around lexemes, or none. -/
def encloseLexemes (enclosed : Bool) (lexemes : List Lexeme) : List Lexeme :=
  if enclosed then TokenKind.opening.sign :: lexemes ++ [TokenKind.closing.sign] else lexemes

/-- The left operand of a connective is written in parentheses. -/
def enclosesLeft (connective : Connective) (left : Formula) : Bool :=
  left.isCompound && !left.beginsChain connective

/-- The lexemes of the text of a formula, in parentheses or without. -/
def lexemes : Formula → Bool → List Lexeme
  | .atom _ a, enclosed => encloseLexemes enclosed a.lexemes
  | .negation _ operand, enclosed =>
    encloseLexemes enclosed (TokenKind.not.sign :: operand.lexemes operand.isCompound)
  | .binary _ connective left right, enclosed =>
    encloseLexemes enclosed (left.lexemes (enclosesLeft connective left) ++
      connective.tokenKind.sign :: right.lexemes right.isCompound)
  | .quantified _ quantifier bound body, enclosed =>
    encloseLexemes enclosed (quantifier.tokenKind.sign :: (.identifier, bound.name) :: TokenKind.dot.sign ::
      body.lexemes false)

/-- The openings inside one another in the text of a formula, in parentheses or without. -/
def nesting : Formula → Bool → Nat
  | .atom _ a, enclosed => a.nesting + enclosed.toNat
  | .negation _ operand, enclosed => operand.nesting operand.isCompound + 1 + enclosed.toNat
  | .binary _ connective left right, enclosed =>
    max (left.nesting (enclosesLeft connective left))
      (right.nesting right.isCompound + (!connective.isLeftAssociative).toNat) + enclosed.toNat
  | .quantified _ _ _ body, enclosed => body.nesting false + 1 + enclosed.toNat

/-! ### What does not depend on places -/

@[simp] theorem isCompound_erased (f : Formula) : f.erased.isCompound = f.isCompound := by
  cases f <;> rfl

@[simp] theorem beginsChain_erased (connective : Connective) (f : Formula) :
    f.erased.beginsChain connective = f.beginsChain connective := by
  cases f <;> rfl

@[simp] theorem erased_withSpan (f : Formula) (span : Span) : (f.withSpan span).erased = f.erased := by
  cases f <;> rfl

theorem writeOnto_erased (f : Formula) (enclosed : Bool) (rest : List Char) :
    f.erased.writeOnto enclosed rest = f.writeOnto enclosed rest := by
  induction f generalizing enclosed rest with
  | atom facts a => rw [erased, ofAtom, writeOnto, writeOnto, Atom.writeOnto_erased]
  | negation facts operand ih => rw [erased, not, writeOnto, writeOnto, isCompound_erased, ih]
  | binary facts connective left right ihl ihr =>
      simp only [erased, joinAt, writeOnto, isCompound_erased, beginsChain_erased, ihl, ihr]
  | quantified facts quantifier bound body ih => rw [erased, quantify, writeOnto, writeOnto, ih]

theorem text_erased (f : Formula) : f.erased.text = f.text := by
  rw [text_eq, text_eq, writeOnto_erased]

theorem names_erased (f : Formula) : f.erased.names = f.names := by
  induction f with
  | atom facts a => exact Atom.names_erased a
  | negation facts operand ih => exact ih
  | binary facts connective left right ihl ihr => rw [erased, joinAt, names, names, ihl, ihr]
  | quantified facts quantifier bound body ih => rw [erased, quantify, names, names, ih]

theorem nesting_erased (f : Formula) (enclosed : Bool) : f.erased.nesting enclosed = f.nesting enclosed := by
  induction f generalizing enclosed with
  | atom facts a => rw [erased, ofAtom, nesting, nesting, Atom.nesting_erased]
  | negation facts operand ih => rw [erased, not, nesting, nesting, isCompound_erased, ih]
  | binary facts connective left right ihl ihr =>
      simp only [erased, joinAt, nesting, enclosesLeft, isCompound_erased, beginsChain_erased, ihl, ihr]
  | quantified facts quantifier bound body ih => rw [erased, quantify, nesting, nesting, ih]

/-- A formula in parentheses has one more opening around it. -/
theorem nesting_true (f : Formula) : f.nesting true = f.nesting false + 1 := by
  cases f <;> rfl

theorem lexemes_true (f : Formula) :
    f.lexemes true = TokenKind.opening.sign :: f.lexemes false ++ [TokenKind.closing.sign] := by
  cases f <;> rfl

end Formula

end FormulaDiagram
