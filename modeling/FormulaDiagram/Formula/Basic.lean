import FormulaDiagram.Token

/-!
Formulas of predicate logic with equality. Every node of a formula knows the place it was read from, its height
and the number of its atoms, which its constructors keep, and the annotation that validation fills in. Two
formulas are equal when structure and places agree; annotations do not count.
-/

namespace FormulaDiagram

/-- The connectives of two operands. -/
inductive Connective where
  | and
  | or
  | implies
  | iff
deriving DecidableEq

namespace Connective

def all : List Connective := [.and, .or, .implies, .iff]

/-- The kind of token that stands for the connective. -/
def tokenKind : Connective → TokenKind
  | .and => .and
  | .or => .or
  | .implies => .implies
  | .iff => .iff

def glyph : Connective → String
  | .and => "∧"
  | .or => "∨"
  | .implies => "→"
  | .iff => "↔"

/-- Chains of the connective group to the left. -/
def isLeftAssociative (c : Connective) : Bool := c ≠ .implies

end Connective

inductive Quantifier where
  | forAll
  | forSome
deriving DecidableEq

namespace Quantifier

def all : List Quantifier := [.forAll, .forSome]

/-- The kind of token that stands for the quantifier. -/
def tokenKind : Quantifier → TokenKind
  | .forAll => .forAll
  | .forSome => .forSome

def glyph : Quantifier → String
  | .forAll => "∀"
  | .forSome => "∃"

end Quantifier

/-- A term: a variable, or a function applied to arguments, of which there may be none. -/
inductive Term where
  | variable (name : String) (span : Span)
  | function (name : String) (arguments : List Term) (span : Span)

namespace Term

def name : Term → String
  | .variable name _ => name
  | .function name _ _ => name

def span : Term → Span
  | .variable _ span => span
  | .function _ _ span => span

mutual

/-- Equality of terms, places included. -/
def equals : Term → Term → Bool
  | .variable name span, .variable name' span' => name == name' && span == span'
  | .function name arguments span, .function name' arguments' span' =>
    name == name' && span == span' && equalsAll arguments arguments'
  | _, _ => false

def equalsAll : List Term → List Term → Bool
  | [], [] => true
  | t :: ts, t' :: ts' => equals t t' && equalsAll ts ts'
  | _, _ => false

end

instance : BEq Term := ⟨equals⟩

mutual

/-- The variable occurs in the term. Names of functions are no occurrences. -/
def mentions (v : String) : Term → Bool
  | .variable name _ => name == v
  | .function _ arguments _ => mentionsAny v arguments

def mentionsAny (v : String) : List Term → Bool
  | [] => false
  | t :: ts => mentions v t || mentionsAny v ts

end

end Term

/-- A formula without parts that are formulas. -/
inductive Atom where
  | proposition (name : String)
  | predicate (name : String) (arguments : List Term)
  | equality (left right : Term) (negated : Bool)
deriving BEq

namespace Atom

/-- The variable occurs in a term of the atom, or the atom is the proposition of that name. -/
def mentions (v : String) : Atom → Bool
  | .proposition name => name == v
  | .predicate _ arguments => Term.mentionsAny v arguments
  | .equality left right _ => left.mentions v || right.mentions v

/-- The terms that stand in the atom, from left to right. -/
def terms : Atom → List Term
  | .proposition _ => []
  | .predicate _ arguments => arguments
  | .equality left right _ => [left, right]

end Atom

/-- The variable of a quantifier. -/
structure BoundVariable where
  name : String
  span : Span
deriving DecidableEq

/-- What validation records at a node. -/
structure Annotation where
  leafCount : Nat := 0
  depth : Nat := 0
  vacuous : Bool := false
  shadows : Bool := false
deriving DecidableEq

/-- What every node of a formula carries. -/
structure NodeFacts where
  span : Span
  height : Nat
  leaves : Nat
  annotation : Annotation
deriving DecidableEq

/-- A formula with the facts about each of its nodes. -/
inductive Formula where
  | atom (facts : NodeFacts) (atom : Atom)
  | negation (facts : NodeFacts) (operand : Formula)
  | binary (facts : NodeFacts) (connective : Connective) (left right : Formula)
  | quantified (facts : NodeFacts) (quantifier : Quantifier) (bound : BoundVariable) (body : Formula)

namespace Formula

def facts : Formula → NodeFacts
  | .atom facts _ => facts
  | .negation facts _ => facts
  | .binary facts _ _ _ => facts
  | .quantified facts _ _ _ => facts

/-- The same node with other facts. -/
def withFacts (facts : NodeFacts) : Formula → Formula
  | .atom _ a => .atom facts a
  | .negation _ operand => .negation facts operand
  | .binary _ connective left right => .binary facts connective left right
  | .quantified _ quantifier bound body => .quantified facts quantifier bound body

variable (f : Formula)

def span : Span := f.facts.span

/-- The number of nodes on a longest path down to an atom. -/
def height : Nat := f.facts.height

/-- The number of atoms. -/
def leaves : Nat := f.facts.leaves

def annotation : Annotation := f.facts.annotation

/-- The same formula, said to stand elsewhere. -/
def withSpan (span : Span) : Formula := f.withFacts { f.facts with span }

/-! ### Building formulas -/

def ofAtom (a : Atom) (span : Span) : Formula := .atom ⟨span, 1, 1, {}⟩ a

def not (operand : Formula) (span : Span) : Formula :=
  .negation ⟨span, operand.height + 1, operand.leaves, {}⟩ operand

/-- Two formulas joined by a connective, at a given place. -/
def joinAt (connective : Connective) (left right : Formula) (span : Span) : Formula :=
  .binary ⟨span, max left.height right.height + 1, left.leaves + right.leaves, {}⟩ connective left right

/-- Two formulas joined by a connective, at the place that spans both. -/
def join (connective : Connective) (left right : Formula) : Formula :=
  joinAt connective left right (left.span.union right.span)

def quantify (quantifier : Quantifier) (bound : BoundVariable) (body : Formula) (span : Span) : Formula :=
  .quantified ⟨span, body.height + 1, body.leaves, {}⟩ quantifier bound body

/-! ### Looking at formulas -/

/-- The parts right below the root, from left to right. -/
def children : Formula → List Formula
  | .atom _ _ => []
  | .negation _ operand => [operand]
  | .binary _ _ left right => [left, right]
  | .quantified _ _ _ body => [body]

/-- The number of nodes. -/
def size : Formula → Nat
  | .atom _ _ => 1
  | .negation _ operand => operand.size + 1
  | .binary _ _ left right => left.size + right.size + 1
  | .quantified _ _ _ body => body.size + 1

theorem size_pos : 0 < f.size := by
  cases f <;> exact Nat.succ_pos _

/-- The number of nodes of several formulas. -/
def sizeAll (fs : List Formula) : Nat := fs.foldr (fun g n => g.size + n) 0

theorem sizeAll_cons (g : Formula) (fs : List Formula) : sizeAll (g :: fs) = g.size + sizeAll fs := rfl

theorem sizeAll_append (fs gs : List Formula) : sizeAll (fs ++ gs) = sizeAll fs + sizeAll gs := by
  induction fs with
  | nil => exact (Nat.zero_add _).symm
  | cons g fs ih => simp only [List.cons_append, sizeAll_cons, ih, Nat.add_assoc]

theorem size_eq_children : f.size = sizeAll f.children + 1 := by
  cases f <;> rfl

theorem sizeAll_reverse (fs : List Formula) : sizeAll fs.reverse = sizeAll fs := by
  induction fs with
  | nil => rfl
  | cons g fs ih =>
      rw [List.reverse_cons, sizeAll_append, ih, Nat.add_comm]
      rfl

theorem sizeAll_children (pending : List Formula) :
    sizeAll (f :: pending) = sizeAll (f.children.reverse ++ pending) + 1 := by
  rw [sizeAll_append, sizeAll_reverse, sizeAll_cons, size_eq_children]
  exact Nat.add_right_comm _ _ _

/-! Operator chains have no limit of length, so what goes through all nodes keeps those that are pending on a stack and
looks at the last child first. -/

/-- Counts the nodes of what is pending, besides those that were counted before. -/
def countPending (count : Nat) (pending : List Formula) : Nat :=
  match pending with
  | [] => count
  | f :: pending => countPending (count + 1) (f.children.reverse ++ pending)
termination_by sizeAll pending
decreasing_by exact f.sizeAll_children pending ▸ Nat.lt_succ_self _

/-- The number of nodes, counted one by one. -/
def nodeCount : Nat := countPending 0 [f]

/-- Looks for an atom of what is pending in which the variable occurs, up to the first one. -/
def mentionedIn (v : String) (pending : List Formula) : Bool :=
  match pending with
  | [] => false
  | .atom _ a :: pending => if a.mentions v then true else mentionedIn v pending
  | f :: pending => mentionedIn v (f.children.reverse ++ pending)
termination_by sizeAll pending
decreasing_by
  · exact Nat.lt_add_of_pos_left Nat.one_pos
  · exact f.sizeAll_children pending ▸ Nat.lt_succ_self _

/-- The variable occurs in some atom, in a term or as a proposition, whether it is bound there or not. -/
def mentions (v : String) (f : Formula) : Bool := mentionedIn v [f]

/-- Equality of structure and places. -/
def equals : Formula → Formula → Bool
  | .atom facts a, .atom facts' a' => facts.span == facts'.span && a == a'
  | .negation facts operand, .negation facts' operand' => facts.span == facts'.span && operand.equals operand'
  | .binary facts connective left right, .binary facts' connective' left' right' =>
    facts.span == facts'.span && connective == connective' && right.equals right' && left.equals left'
  | .quantified facts quantifier bound body, .quantified facts' quantifier' bound' body' =>
    facts.span == facts'.span && quantifier == quantifier' && bound == bound' && body.equals body'
  | _, _ => false

instance : BEq Formula := ⟨equals⟩

/-- The nodes of the formula, each before the nodes below it and left before right, in front of further ones. -/
def preorderOnto : Formula → List Formula → List Formula
  | f@(.atom _ _), rest => f :: rest
  | f@(.negation _ operand), rest => f :: operand.preorderOnto rest
  | f@(.binary _ _ left right), rest => f :: left.preorderOnto (right.preorderOnto rest)
  | f@(.quantified _ _ _ body), rest => f :: body.preorderOnto rest

/-- The nodes of the formula in pre-order. -/
def preorder : List Formula := f.preorderOnto []

end Formula

end FormulaDiagram
