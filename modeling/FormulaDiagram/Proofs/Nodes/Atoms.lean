import FormulaDiagram.Proofs.Grammar.Basic
import FormulaDiagram.Proofs.Nodes.Basic

/-!
The atoms of a formula and the variables in them. A name occurs in a formula if it occurs in one of its atoms, in
a term as a variable or as the proposition of that name; whether it is bound there is not asked. Formulas are
built from atoms by constructors that count the atoms along, so in what is read from tokens every node knows how
many there are below it.
-/

namespace FormulaDiagram

/-- The name occurs in the term as a variable. -/
inductive Term.Occurs (v : String) : Term → Prop where
  | here (span : Span) : Occurs v (.variable v span)
  | inside {name : String} {arguments : List Term} {span : Span} {t : Term} : t ∈ arguments → Occurs v t →
      Occurs v (.function name arguments span)

/-- The name occurs in a term of the atom, or the atom is the proposition of that name. -/
def Atom.Occurs (v : String) (a : Atom) : Prop := a = .proposition v ∨ ∃ t ∈ a.terms, t.Occurs v

namespace Term

mutual

theorem mentions_iff {v : String} (t : Term) : t.mentions v ↔ t.Occurs v := by
  cases t with
  | «variable» name span =>
      rw [mentions, beq_iff_eq]
      constructor
      · rintro rfl
        exact .here span
      · intro h
        cases h
        rfl
  | function name arguments span =>
      rw [mentions, mentionsAny_iff arguments]
      constructor
      · rintro ⟨t, ht, h⟩
        exact .inside ht h
      · intro h
        cases h with
        | inside ht h => exact ⟨_, ht, h⟩

theorem mentionsAny_iff {v : String} (ts : List Term) : mentionsAny v ts ↔ ∃ t ∈ ts, t.Occurs v := by
  cases ts with
  | nil => simp [mentionsAny]
  | cons t ts => simp [mentionsAny, mentions_iff t, mentionsAny_iff ts]

end

end Term

theorem Atom.mentions_iff {v : String} (a : Atom) : a.mentions v ↔ a.Occurs v := by
  cases a with
  | proposition name => simp [mentions, Occurs, terms]
  | predicate name arguments => simp [mentions, Occurs, terms, Term.mentionsAny_iff]
  | equality left right negated => simp [mentions, Occurs, terms, Term.mentions_iff]

instance (v : String) (a : Atom) : Decidable (a.Occurs v) := decidable_of_iff _ a.mentions_iff

namespace Formula

/-- The atoms from left to right. -/
def atoms : Formula → List Atom
  | .atom _ a => [a]
  | .negation _ operand => operand.atoms
  | .binary _ _ left right => left.atoms ++ right.atoms
  | .quantified _ _ _ body => body.atoms

theorem mentions_iff {v : String} (f : Formula) : f.mentions v ↔ ∃ a ∈ f.atoms, a.Occurs v := by
  induction f with
  | atom facts a => simp [atoms, Atom.mentions_iff]
  | negation facts operand ih => rw [mentions_negation, ih, atoms]
  | binary facts connective left right ihl ihr =>
      rw [mentions_binary, Bool.or_eq_true_iff, ihl, ihr, atoms, or_comm]
      simp only [List.mem_append, or_and_right, exists_or]
  | quantified facts quantifier bound body ih => rw [mentions_quantified, ih, atoms]

/-- The formula was put together by the constructors, so its atoms are counted and nothing is annotated. -/
inductive Built : Formula → Prop where
  | ofAtom (a : Atom) (span : Span) : Built (ofAtom a span)
  | not {f : Formula} (span : Span) : Built f → Built (not f span)
  | joinAt {f g : Formula} (connective : Connective) (span : Span) : Built f → Built g →
      Built (joinAt connective f g span)
  | quantify {f : Formula} (quantifier : Quantifier) (bound : BoundVariable) (span : Span) : Built f →
      Built (quantify quantifier bound f span)

variable {f : Formula}

theorem Built.withSpan (h : Built f) (span : Span) : Built (f.withSpan span) := by
  cases h with
  | ofAtom a => exact .ofAtom a span
  | not _ h => exact .not span h
  | joinAt connective _ hf hg => exact .joinAt connective span hf hg
  | quantify quantifier bound _ h => exact .quantify quantifier bound span h

theorem Built.leaves (h : Built f) : f.leaves = f.atoms.length := by
  induction h with
  | ofAtom a span => rfl
  | not span _ ih => exact ih
  | @joinAt f g connective span _ _ ihf ihg =>
      show f.leaves + g.leaves = (f.atoms ++ g.atoms).length
      rw [List.length_append, ihf, ihg]
  | quantify quantifier bound span _ ih => exact ih

end Formula

namespace Grammar

/-- The formula of the phrase, if it is one, was put together by the constructors. -/
def Phrase.Built : Phrase → Prop
  | .formula f => f.Built
  | _ => True

theorem Spells.built {ends : Category → List Token → List Token → Prop} {category : Category}
    {tokens rest : List Token} {p : Phrase} {n : Nat} (h : Spells ends category tokens rest p n) : p.Built := by
  induction h with
  | operand _ ih => exact ih
  | further _ _ _ _ ihf ihg => exact .joinAt _ _ ihf ihg
  | whole _ _ ih => exact ih
  | implication _ _ _ ihf ihg => exact .joinAt _ _ ihf ihg
  | negation _ _ ih => exact .not _ ih
  | quantified q _ _ _ _ ih => exact .quantify q _ _ ih
  | parenthesised _ _ _ ih => exact Formula.Built.withSpan ih _
  | lone _ _ _ => exact .ofAtom _ _
  | equality _ _ _ _ _ _ => exact .ofAtom _ _
  | _ => trivial

end Grammar

end FormulaDiagram
