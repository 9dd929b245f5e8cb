import FormulaDiagram.Formula.Parser

/-!
The grammar that formulas are written in, stated without the parser. `Derives` is the grammar itself, over the
kinds of tokens:

    formula     := implication ('↔' implication)*
    implication := disjunction ('→' implication)?
    disjunction := conjunction ('∨' conjunction)*
    conjunction := unary ('∧' unary)*
    unary       := '¬' unary | quantifier identifier '.' formula | '(' formula ')' | term (('=' | '≠') term)?
    term        := identifier ('(' (term (',' term)*)? ')')?

It is ambiguous where a quantifier stands in an operand, since what follows may belong to the quantifier's body
or to the chain around it. `Spells` is a derivation of the same grammar over tokens that stand in front of
others. It gives the tree that is derived and the number of openings that are nested in one another, and takes
what an end of a phrase has to satisfy as a parameter. There are two such conditions. `Longest` says that no
longer stretch of the tokens derives the same, so every chain, and with it every body of a quantifier, goes as
far to the right as it can. `NotFollowed` looks at the next token alone.
-/

namespace FormulaDiagram.Grammar

/-- What the grammar has derivations for. A chain is a row of operands that may be the beginning of a longer
one; what is joined is a row as a whole. -/
inductive Category where
  | chain (connective : Connective)
  | joined (connective : Connective)
  | unary
  | term
  | terms
deriving DecidableEq

namespace Category

/-- A formula is what the loosest connective joins. -/
abbrev formula : Category := .joined .iff

/-- What stands between the signs of a connective. -/
def operand : Connective → Category
  | .iff => .joined .implies
  | .implies => .joined .or
  | .or => .joined .and
  | .and => .unary

/-- What stands behind the last sign of a connective: an implication groups to the right. -/
def right : Connective → Category
  | .implies => .joined .implies
  | c => operand c

/-- Terms and lists of terms, which contain no formulas. -/
def isTerm : Category → Bool
  | .term | .terms => true
  | _ => false

/-- A phrase of the first category may stand at the end of one of the second. -/
def endsIn (c category : Category) : Bool :=
  match category with
  | .term => c = .term
  | .terms => c.isTerm
  | _ => true

theorem isTerm_operand (c : Connective) : (operand c).isTerm = false := by
  cases c <;> rfl

/-- A token of the kind would go on with what was read. -/
def goesOn : Category → TokenKind → Bool
  | .joined c, kind => kind = c.tokenKind
  | .unary, kind => kind = .equals || kind = .notEquals
  | .term, kind => kind = .opening
  | .terms, kind => kind = .comma
  | .chain _, _ => false

end Category

open Category (operand right formula)

/-- The grammar, over kinds of tokens. -/
inductive Derives : Category → List TokenKind → Prop where
  | operand {c ks} : Derives (operand c) ks → Derives (.chain c) ks
  | further {c ks ls} : c.isLeftAssociative → Derives (.chain c) ks → Derives (operand c) ls →
      Derives (.chain c) (ks ++ c.tokenKind :: ls)
  | whole {c ks} : Derives (.chain c) ks → Derives (.joined c) ks
  | implication {ks ls} : Derives (.joined .or) ks → Derives (.joined .implies) ls →
      Derives (.joined .implies) (ks ++ .implies :: ls)
  | negation {ks} : Derives .unary ks → Derives .unary (.not :: ks)
  | quantified {ks} (q : Quantifier) : Derives formula ks →
      Derives .unary (q.tokenKind :: .identifier :: .dot :: ks)
  | parenthesised {ks} : Derives formula ks → Derives .unary (.opening :: ks ++ [.closing])
  | lone {ks} : Derives .term ks → Derives .unary ks
  | equality {ks ls} (negated : Bool) : Derives .term ks → Derives .term ls →
      Derives .unary (ks ++ (if negated then .notEquals else .equals) :: ls)
  | name : Derives .term [.identifier]
  | constant : Derives .term [.identifier, .opening, .closing]
  | application {ks} : Derives .terms ks → Derives .term (.identifier :: .opening :: ks ++ [.closing])
  | last {ks} : Derives .term ks → Derives .terms ks
  | more {ks ls} : Derives .term ks → Derives .terms ls → Derives .terms (ks ++ .comma :: ls)

/-- What is read of the tokens of a category. -/
inductive Phrase where
  | formula (f : Formula)
  | term (a : Term)
  | terms (as : List Term)

/-- The atom of two terms in a relation, at the place that spans both. -/
def equality (left right : Term) (negated : Bool) : Formula :=
  Formula.ofAtom (.equality left right negated) (left.span.union right.span)

/-- The atom that a term alone stands for. -/
def lone (a : Term) : Formula := Formula.ofAtom (Parser.atomOfTerm a) a.span

/-- The tokens, in front of a rest, are derived from the category as the phrase, with so many openings nested in
one another. Where the grammar would let a phrase go on, its end satisfies a condition. -/
inductive Spells (ends : Category → List Token → List Token → Prop) :
    Category → List Token → List Token → Phrase → Nat → Prop where
  | operand {c ts rest f n} : Spells ends (operand c) ts rest (.formula f) n →
      Spells ends (.chain c) ts rest (.formula f) n
  | further {c ts t us rest f g m n} : c.isLeftAssociative →
      Spells ends (.chain c) ts (t :: us ++ rest) (.formula f) m → t.kind = c.tokenKind →
      Spells ends (operand c) us rest (.formula g) n →
      Spells ends (.chain c) (ts ++ t :: us) rest (.formula (.join c f g)) (max m n)
  | whole {c ts rest f n} : Spells ends (.chain c) ts rest (.formula f) n → ends (.joined c) ts rest →
      Spells ends (.joined c) ts rest (.formula f) n
  | implication {ts t us rest f g m n} : Spells ends (.joined .or) ts (t :: us ++ rest) (.formula f) m →
      t.kind = .implies → Spells ends (.joined .implies) us rest (.formula g) n →
      Spells ends (.joined .implies) (ts ++ t :: us) rest (.formula (.join .implies f g)) (max m (n + 1))
  | negation {t ts rest f n} : t.kind = .not → Spells ends .unary ts rest (.formula f) n →
      Spells ends .unary (t :: ts) rest (.formula (.not f (t.span.union f.span))) (n + 1)
  | quantified {t bound dot ts rest f n} (q : Quantifier) : t.kind = q.tokenKind → bound.kind = .identifier →
      dot.kind = .dot → Spells ends formula ts rest (.formula f) n →
      Spells ends .unary (t :: bound :: dot :: ts) rest
        (.formula (.quantify q ⟨bound.text, bound.span⟩ f (t.span.union f.span))) (n + 1)
  | parenthesised {t ts close rest f n} : t.kind = .opening →
      Spells ends formula ts (close :: rest) (.formula f) n → close.kind = .closing →
      Spells ends .unary (t :: ts ++ [close]) rest (.formula (f.withSpan (t.span.union close.span))) (n + 1)
  | lone {ts rest a n} : Spells ends .term ts rest (.term a) n → ends .unary ts rest →
      Spells ends .unary ts rest (.formula (lone a)) n
  | equality {ts t us rest a b m n} (negated : Bool) : Spells ends .term ts (t :: us ++ rest) (.term a) m →
      t.kind = (if negated then .notEquals else .equals) → Spells ends .term us rest (.term b) n →
      Spells ends .unary (ts ++ t :: us) rest (.formula (equality a b negated)) (max m n)
  | name {t rest} : t.kind = .identifier → ends .term [t] rest →
      Spells ends .term [t] rest (.term (.variable t.text t.span)) 0
  | constant {t opening close rest} : t.kind = .identifier → opening.kind = .opening → close.kind = .closing →
      Spells ends .term [t, opening, close] rest (.term (.function t.text [] (t.span.union close.span))) 1
  | application {t opening ts close rest as n} : t.kind = .identifier → opening.kind = .opening →
      Spells ends .terms ts (close :: rest) (.terms as) n → close.kind = .closing →
      Spells ends .term (t :: opening :: ts ++ [close]) rest
        (.term (.function t.text as (t.span.union close.span))) (n + 1)
  | last {ts rest a n} : Spells ends .term ts rest (.term a) n → ends .terms ts rest →
      Spells ends .terms ts rest (.terms [a]) n
  | more {ts t us rest a as m n} : Spells ends .term ts (t :: us ++ rest) (.term a) m → t.kind = .comma →
      Spells ends .terms us rest (.terms as) n →
      Spells ends .terms (ts ++ t :: us) rest (.terms (a :: as)) (max m n)

/-- No longer stretch of the tokens is derived from what is joined by the connective. -/
def Longest : Category → List Token → List Token → Prop
  | .joined c, ts, rest =>
    ∀ more, more ≠ [] → more <+: rest → ¬Derives (.joined c) ((ts ++ more).map Token.kind)
  | _, _, _ => True

/-- The next token does not go on with what was read. -/
def NotFollowed (category : Category) (_ rest : List Token) : Prop :=
  ∀ t ∈ rest.head?, category.goesOn t.kind = false

theorem notFollowed_nil (category : Category) (ts : List Token) : NotFollowed category ts [] := by
  intro t ht
  cases ht

theorem notFollowed_cons {category : Category} {ts rest : List Token} {t : Token} :
    NotFollowed category ts (t :: rest) ↔ category.goesOn t.kind = false := by
  constructor
  · intro h
    exact h t rfl
  · intro h u hu
    cases hu
    exact h

theorem followed {category : Category} {ts rest : List Token} (h : ¬NotFollowed category ts rest) :
    ∃ t rest', rest = t :: rest' ∧ category.goesOn t.kind = true := by
  cases rest with
  | nil => exact absurd (notFollowed_nil category ts) h
  | cons t rest =>
      rw [notFollowed_cons, Bool.not_eq_false] at h
      exact ⟨t, rest, rfl, h⟩

/-! ### Parts of token lists -/

/-- Where the images of tokens are two rows around a mark, so are the tokens. -/
theorem exists_of_map_mark {α : Type} {f : Token → α} {ts : List Token} {as bs : List α} {a : α}
    (h : ts.map f = as ++ a :: bs) :
    ∃ us t vs, ts = us ++ t :: vs ∧ us.map f = as ∧ f t = a ∧ vs.map f = bs := by
  obtain ⟨us, _, rfl, hu, h⟩ := List.map_eq_append_iff.1 h
  obtain ⟨t, vs, rfl, ht, hv⟩ := List.map_eq_cons_iff.1 h
  exact ⟨us, t, vs, rfl, hu, ht, hv⟩

theorem exists_of_map_enclosed {α : Type} {f : Token → α} {ts : List Token} {as : List α} {a b : α}
    (h : ts.map f = a :: as ++ [b]) :
    ∃ t us close, ts = t :: us ++ [close] ∧ f t = a ∧ us.map f = as ∧ f close = b := by
  obtain ⟨_, _, rfl, h, hlast⟩ := List.map_eq_append_iff.1 h
  obtain ⟨t, us, rfl, ht, hu⟩ := List.map_eq_cons_iff.1 h
  obtain ⟨close, rfl, hc⟩ := List.map_eq_singleton_iff.1 hlast
  exact ⟨t, us, close, rfl, ht, hu, hc⟩

/-! ### Phrases and what follows them -/

/-- Nothing goes on with the rest, whatever was read before it. -/
def Stops (rest : List Token) : Prop := ∀ category, NotFollowed category [] rest

theorem stops_nil : Stops [] := fun category => notFollowed_nil category []

theorem stops_closing {close : Token} (rest : List Token) (h : close.kind = .closing) : Stops (close :: rest) := by
  intro category
  rw [notFollowed_cons, h]
  cases category with
  | joined c => cases c <;> rfl
  | _ => rfl

namespace Spells

variable {ends : Category → List Token → List Token → Prop} {category : Category} {ts rest : List Token}
  {p : Phrase} {n : Nat}

/-- What spells a phrase is derived from the grammar. -/
theorem derives (h : Spells ends category ts rest p n) : Derives category (ts.map Token.kind) := by
  induction h with
  | operand _ ih => exact .operand ih
  | further hc _ ht _ ihf ihg =>
      rw [List.map_append, List.map_cons, ht]
      exact .further hc ihf ihg
  | whole _ _ ih => exact .whole ih
  | implication _ ht _ ihf ihg =>
      rw [List.map_append, List.map_cons, ht]
      exact .implication ihf ihg
  | negation ht _ ih =>
      rw [List.map_cons, ht]
      exact .negation ih
  | quantified q ht hb hd _ ih =>
      rw [List.map_cons, List.map_cons, List.map_cons, ht, hb, hd]
      exact .quantified q ih
  | parenthesised ht _ hc ih =>
      rw [List.map_append, List.map_cons, List.map_singleton, ht, hc]
      exact .parenthesised ih
  | lone _ _ ih => exact .lone ih
  | equality negated _ ht _ iha ihb =>
      rw [List.map_append, List.map_cons, ht]
      exact .equality negated iha ihb
  | name ht _ =>
      rw [List.map_singleton, ht]
      exact .name
  | constant ht ho hc =>
      rw [List.map_cons, List.map_cons, List.map_singleton, ht, ho, hc]
      exact .constant
  | application ht ho _ hc ih =>
      rw [List.map_append, List.map_cons, List.map_cons, List.map_singleton, ht, ho, hc]
      exact .application ih
  | last _ _ ih => exact .last ih
  | more _ ht _ iha ihas =>
      rw [List.map_append, List.map_cons, ht]
      exact .more iha ihas

theorem exists_formula (h : Spells ends category ts rest p n) (hc : category.isTerm = false) :
    ∃ f, p = .formula f := by
  cases h <;> first | exact ⟨_, rfl⟩ | cases hc

theorem exists_term (h : Spells ends .term ts rest p n) : ∃ a, p = .term a := by
  cases h <;> exact ⟨_, rfl⟩

theorem exists_terms (h : Spells ends .terms ts rest p n) : ∃ as, p = .terms as := by
  cases h <;> exact ⟨_, rfl⟩

/-- Terms begin with a name. -/
theorem exists_name (h : Spells ends category ts rest p n) (hc : category.isTerm) :
    ∃ t us, ts = t :: us ∧ t.kind = .identifier := by
  induction h with
  | name ht _ => exact ⟨_, _, rfl, ht⟩
  | constant ht _ _ => exact ⟨_, _, rfl, ht⟩
  | application ht _ _ _ => exact ⟨_, _, rfl, ht⟩
  | last _ _ ih => exact ih rfl
  | more _ _ _ ih _ =>
      obtain ⟨t, us, rfl, ht⟩ := ih rfl
      exact ⟨t, _, rfl, ht⟩
  | _ => cases hc

/-- A phrase stays what it is in front of another rest, if nothing at its end that could not go on before can do
so now. -/
theorem of_rest (h : Spells NotFollowed category ts rest p n) {rest' : List Token}
    (hr : ∀ c : Category, c.endsIn category → NotFollowed c [] rest → NotFollowed c [] rest') :
    Spells NotFollowed category ts rest' p n := by
  induction h generalizing rest' with
  | operand _ ih => exact .operand (ih fun c _ => hr c rfl)
  | further hc _ ht _ ihf ihg => exact .further hc (ihf fun _ _ h => h) ht (ihg fun c _ => hr c rfl)
  | whole _ he ih => exact .whole (ih fun c _ => hr c rfl) (hr _ rfl he)
  | implication _ ht _ ihf ihg => exact .implication (ihf fun _ _ h => h) ht (ihg hr)
  | negation ht _ ih => exact .negation ht (ih hr)
  | quantified q ht hb hd _ ih => exact .quantified q ht hb hd (ih fun c _ => hr c rfl)
  | parenthesised ht _ hc ih => exact .parenthesised ht (ih fun _ _ h => h) hc
  | lone _ he ih => exact .lone (ih fun c _ => hr c rfl) (hr _ rfl he)
  | equality negated _ ht _ iha ihb =>
      exact .equality negated (iha fun _ _ h => h) ht (ihb fun c _ => hr c rfl)
  | name ht he => exact .name ht (hr _ rfl he)
  | constant ht ho hc => exact .constant ht ho hc
  | application ht ho _ hc ih => exact .application ht ho (ih fun _ _ h => h) hc
  | last _ he ih =>
      refine .last (ih fun c hc => hr c ?_) (hr _ rfl he)
      cases of_decide_eq_true hc
      rfl
  | more _ ht _ iha ihas => exact .more (iha fun _ _ h => h) ht (ihas hr)

/-- A phrase stays what it is where nothing goes on with it. -/
theorem of_stops (h : Spells NotFollowed category ts rest p n) {rest' : List Token} (hs : Stops rest') :
    Spells NotFollowed category ts rest' p n :=
  h.of_rest fun c _ _ => hs c

/-- A phrase depends on the first token of the rest alone. -/
theorem of_next {t : Token} (h : Spells NotFollowed category ts (t :: rest) p n) (rest' : List Token) :
    Spells NotFollowed category ts (t :: rest') p n :=
  h.of_rest fun _ _ hn => hn

end Spells

end FormulaDiagram.Grammar
