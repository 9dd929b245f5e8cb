import FormulaDiagram.Proofs.Grammar.Basic
import FormulaDiagram.Proofs.Nodes.Basic

/-!
The same formula said to stand elsewhere. `mapSpans` changes every place in a formula and keeps all else, the
annotations included. Two changes matter: `Span.moved` moves places to the right, as when a text is put behind
another, and `Span.erased` makes all places the same, so that what is left is what does not depend on them. Both
respect unions, so they go through the constructors of formulas.
-/

namespace FormulaDiagram

namespace Span

/-- The range that lies further to the right by a number of bytes. -/
def moved (distance : Nat) (s : Span) : Span where
  start := s.start + distance
  stop := s.stop + distance
  start_le_stop := Nat.add_le_add_right s.start_le_stop distance

/-- No place in particular. -/
def erased (_ : Span) : Span := .point 0

theorem moved_union (distance : Nat) (s t : Span) :
    (s.union t).moved distance = (s.moved distance).union (t.moved distance) := by
  simp only [moved, union, mk.injEq]
  omega

theorem erased_union (s t : Span) : (s.union t).erased = s.erased.union t.erased := rfl

end Span

namespace Term

mutual

def mapSpans (φ : Span → Span) : Term → Term
  | .variable name span => .variable name (φ span)
  | .function name arguments span => .function name (mapSpansAll φ arguments) (φ span)

def mapSpansAll (φ : Span → Span) : List Term → List Term
  | [] => []
  | t :: ts => mapSpans φ t :: mapSpansAll φ ts

end

theorem mapSpansAll_eq_map (φ : Span → Span) (ts : List Term) : mapSpansAll φ ts = ts.map (mapSpans φ) := by
  induction ts with
  | nil => rfl
  | cons t ts ih => rw [mapSpansAll, ih, List.map_cons]

@[simp] theorem span_mapSpans (φ : Span → Span) (t : Term) : (t.mapSpans φ).span = φ t.span := by
  cases t <;> rfl

mutual

@[simp] theorem mentions_mapSpans (φ : Span → Span) (v : String) (t : Term) :
    (t.mapSpans φ).mentions v = t.mentions v := by
  cases t with
  | «variable» => rfl
  | function name arguments => rw [mapSpans, mentions, mentions, mentionsAny_mapSpansAll φ v arguments]

@[simp] theorem mentionsAny_mapSpansAll (φ : Span → Span) (v : String) (ts : List Term) :
    mentionsAny v (mapSpansAll φ ts) = mentionsAny v ts := by
  cases ts with
  | nil => rfl
  | cons t ts =>
      rw [mapSpansAll, mentionsAny, mentionsAny, mentions_mapSpans φ v t, mentionsAny_mapSpansAll φ v ts]

end

end Term

namespace Atom

def mapSpans (φ : Span → Span) : Atom → Atom
  | .proposition name => .proposition name
  | .predicate name arguments => .predicate name (Term.mapSpansAll φ arguments)
  | .equality left right negated => .equality (left.mapSpans φ) (right.mapSpans φ) negated

@[simp] theorem mentions_mapSpans (φ : Span → Span) (v : String) (a : Atom) :
    (a.mapSpans φ).mentions v = a.mentions v := by
  cases a <;> simp [mapSpans, mentions]

end Atom

def BoundVariable.mapSpan (φ : Span → Span) (bound : BoundVariable) : BoundVariable :=
  ⟨bound.name, φ bound.span⟩

def NodeFacts.mapSpan (φ : Span → Span) (facts : NodeFacts) : NodeFacts := { facts with span := φ facts.span }

namespace Formula

def mapSpans (φ : Span → Span) : Formula → Formula
  | .atom facts a => .atom (facts.mapSpan φ) (a.mapSpans φ)
  | .negation facts operand => .negation (facts.mapSpan φ) (operand.mapSpans φ)
  | .binary facts connective left right =>
    .binary (facts.mapSpan φ) connective (left.mapSpans φ) (right.mapSpans φ)
  | .quantified facts quantifier bound body =>
    .quantified (facts.mapSpan φ) quantifier (bound.mapSpan φ) (body.mapSpans φ)

section

variable (φ : Span → Span) (f g : Formula) (span : Span)

@[simp] theorem facts_mapSpans : (f.mapSpans φ).facts = f.facts.mapSpan φ := by
  cases f <;> rfl

@[simp] theorem span_mapSpans : (f.mapSpans φ).span = φ f.span := by
  rw [Formula.span, facts_mapSpans]
  rfl

@[simp] theorem height_mapSpans : (f.mapSpans φ).height = f.height := by
  rw [height, facts_mapSpans]
  rfl

@[simp] theorem leaves_mapSpans : (f.mapSpans φ).leaves = f.leaves := by
  rw [leaves, facts_mapSpans]
  rfl

@[simp] theorem mentions_mapSpans (v : String) : (f.mapSpans φ).mentions v = f.mentions v := by
  induction f with
  | atom facts a => rw [mapSpans, mentions_atom, mentions_atom, Atom.mentions_mapSpans]
  | negation facts operand ih => rw [mapSpans, mentions_negation, mentions_negation, ih]
  | binary facts connective left right ihl ihr => rw [mapSpans, mentions_binary, mentions_binary, ihl, ihr]
  | quantified facts quantifier bound body ih => rw [mapSpans, mentions_quantified, mentions_quantified, ih]

theorem mapSpans_not : (not f span).mapSpans φ = not (f.mapSpans φ) (φ span) := by
  simp [not, mapSpans, NodeFacts.mapSpan]

theorem mapSpans_withSpan : (f.withSpan span).mapSpans φ = (f.mapSpans φ).withSpan (φ span) := by
  cases f <;> rfl

theorem mapSpans_quantify (quantifier : Quantifier) (bound : BoundVariable) :
    (quantify quantifier bound f span).mapSpans φ =
      quantify quantifier (bound.mapSpan φ) (f.mapSpans φ) (φ span) := by
  simp [quantify, mapSpans, NodeFacts.mapSpan]

theorem mapSpans_join (hφ : ∀ s t : Span, φ (s.union t) = (φ s).union (φ t)) (connective : Connective) :
    (join connective f g).mapSpans φ = join connective (f.mapSpans φ) (g.mapSpans φ) := by
  simp [join, joinAt, mapSpans, NodeFacts.mapSpan, hφ]

end

end Formula

namespace Grammar

variable (φ : Span → Span)

theorem mapSpans_lone (a : Term) : (lone a).mapSpans φ = lone (a.mapSpans φ) := by
  cases a <;> rfl

theorem mapSpans_equality (hφ : ∀ s t : Span, φ (s.union t) = (φ s).union (φ t)) (left right : Term)
    (negated : Bool) :
    (equality left right negated).mapSpans φ = equality (left.mapSpans φ) (right.mapSpans φ) negated := by
  simp [equality, Formula.ofAtom, Formula.mapSpans, Atom.mapSpans, NodeFacts.mapSpan, hφ]

end Grammar

end FormulaDiagram
