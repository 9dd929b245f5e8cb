import FormulaDiagram.Proofs.Grammar.LongestMatch
import FormulaDiagram.Proofs.Printing.Basic

/-!
Tokens with the lexemes of a formula's text spell that formula, whatever their places are. An operand as it is
written ends in a name or a parenthesis, so nothing can be added to it but by the connective around it; a chain
that groups to the left can be added to by its own connective alone; and a formula that stands alone or in
parentheses ends where its surroundings do. The three go together in one induction on the formula.
-/

namespace FormulaDiagram.Grammar

/-- Nothing but the connective goes on with the rest. -/
def OnlyBy (c : Connective) (rest : List Token) : Prop :=
  ∀ category : Category, category ≠ .joined c → NotFollowed category [] rest

theorem onlyBy_of_stops {rest : List Token} (c : Connective) (h : Stops rest) : OnlyBy c rest := fun category _ =>
  h category

theorem onlyBy_sign {c : Connective} {t : Token} (ht : t.kind = c.tokenKind) (rest : List Token) :
    OnlyBy c (t :: rest) := by
  intro category hc
  rw [notFollowed_cons, ht]
  exact goesOn_connective c hc

namespace Spells

variable {c : Connective} {ts rest : List Token} {f : Formula} {n : Nat}

/-- What stands between signs of a connective may be a formula without a connective at its top. -/
theorem as_operand (h : Spells NotFollowed .unary ts rest (.formula f) n) (hr : OnlyBy c rest) :
    Spells NotFollowed (Category.operand c) ts rest (.formula f) n := by
  have hand (hn : NotFollowed (.joined .and) ts rest) : Spells NotFollowed (.joined .and) ts rest (.formula f) n :=
    .whole (.operand h) hn
  have hor (hn : NotFollowed (.joined .and) ts rest) (hn' : NotFollowed (.joined .or) ts rest) :
      Spells NotFollowed (.joined .or) ts rest (.formula f) n := .whole (.operand (hand hn)) hn'
  cases c with
  | and => exact h
  | or => exact hand (hr _ nofun)
  | implies => exact hor (hr _ nofun) (hr _ nofun)
  | iff =>
      have hchain : Spells NotFollowed (.chain .implies) ts rest (.formula f) n :=
        .operand (hor (hr _ nofun) (hr _ nofun))
      exact .whole hchain (hr (.joined .implies) nofun)

theorem as_formula (h : Spells NotFollowed (.joined c) ts rest (.formula f) n) (hr : Stops rest) :
    Spells NotFollowed .formula ts rest (.formula f) n := by
  have himplies (h : Spells NotFollowed (.joined .implies) ts rest (.formula f) n) :
      Spells NotFollowed .formula ts rest (.formula f) n := .whole (.operand h) (hr _)
  have hor (h : Spells NotFollowed (.joined .or) ts rest (.formula f) n) :
      Spells NotFollowed .formula ts rest (.formula f) n := himplies (.whole (.operand h) (hr _))
  cases c with
  | and => exact hor (.whole (.operand h) (hr _))
  | or => exact hor h
  | implies => exact himplies h
  | iff => exact h

theorem formula_of_unary (h : Spells NotFollowed .unary ts rest (.formula f) n) (hr : Stops rest) :
    Spells NotFollowed .formula ts rest (.formula f) n :=
  as_formula (c := .and) (.whole (.operand h) (hr _)) hr

end Spells

/-! ### Terms and atoms -/

theorem eq_sign {t : Token} {kind : TokenKind} (h : t.lexeme = kind.sign) : t.kind = kind :=
  congrArg Prod.fst h

mutual

theorem spells_term (a : Term) {tokens rest : List Token} (h : tokens.map Token.lexeme = a.lexemes)
    (hr : NotFollowed .term [] rest) :
    ∃ b, b.erased = a.erased ∧ Spells NotFollowed .term tokens rest (.term b) a.nesting := by
  cases a with
  | «variable» name =>
      obtain ⟨t, rfl, ht⟩ := List.map_eq_singleton_iff.1 h
      obtain ⟨hk, rfl⟩ := Prod.mk.inj ht
      exact ⟨.variable t.text t.span, rfl, .name hk hr⟩
  | function name arguments =>
      obtain ⟨t, _, rfl, ht, h⟩ := List.map_eq_cons_iff.1 h
      obtain ⟨opening, us, close, rfl, ho, hus, hc⟩ := exists_of_map_enclosed h
      obtain ⟨hk, rfl⟩ := Prod.mk.inj ht
      cases arguments with
      | nil =>
          cases List.map_eq_nil_iff.1 hus
          exact ⟨.function t.text [] (t.span.union close.span), rfl, .constant hk (eq_sign ho) (eq_sign hc)⟩
      | cons a as =>
          obtain ⟨bs, hbs, hs⟩ := spells_terms (a :: as) (List.cons_ne_nil _ _) hus
            (stops_closing rest (eq_sign hc))
          refine ⟨_, ?_, .application hk (eq_sign ho) hs (eq_sign hc)⟩
          rw [Term.erased, Term.erased, hbs]

theorem spells_terms (as : List Term) (hne : as ≠ []) {tokens rest : List Token}
    (h : tokens.map Token.lexeme = Term.lexemesAll as) (hr : Stops rest) :
    ∃ bs, Term.erasedAll bs = Term.erasedAll as ∧
      Spells NotFollowed .terms tokens rest (.terms bs) (Term.nestingAll as) := by
  cases as with
  | nil => exact absurd rfl hne
  | cons a as =>
      obtain ⟨us, vs, rfl, hu, hv⟩ := List.map_eq_append_iff.1 h
      cases as with
      | nil =>
          cases List.map_eq_nil_iff.1 hv
          obtain ⟨b, hb, hs⟩ := spells_term a hu (hr .term)
          refine ⟨[b], ?_, ?_⟩
          · rw [Term.erasedAll, hb]
            rfl
          · rw [List.append_nil, Term.nestingAll, Term.nestingAll, Nat.max_zero]
            exact .last hs (hr .terms)
      | cons a' as =>
          obtain ⟨t, ws, rfl, ht, hw⟩ := List.map_eq_cons_iff.1 hv
          have hn : NotFollowed .term [] (t :: ws ++ rest) := notFollowed_cons.2 (by rw [eq_sign ht]; rfl)
          obtain ⟨b, hb, hs⟩ := spells_term a hu hn
          obtain ⟨bs, hbs, hss⟩ := spells_terms (a' :: as) (List.cons_ne_nil _ _) hw hr
          refine ⟨b :: bs, ?_, .more hs (eq_sign ht) hss⟩
          rw [Term.erasedAll, hb, hbs]
          rfl

end

/-- A term alone is the atom that another one is that differs in places only. -/
theorem erased_lone {a b : Term} (h : b.erased = a.erased) :
    (lone b).erased = Formula.ofAtom (Parser.atomOfTerm a).erased (.point 0) := by
  have hatom (a : Term) : (Parser.atomOfTerm a).erased = Parser.atomOfTerm a.erased := by
    cases a <;> rfl
  show Formula.ofAtom (Parser.atomOfTerm b).erased (.point 0) = _
  rw [hatom, hatom, h]

theorem spells_atom (a : Atom) {tokens rest : List Token} (h : tokens.map Token.lexeme = a.lexemes)
    (ht : NotFollowed .term [] rest) (hu : NotFollowed .unary [] rest) :
    ∃ f, f.erased = Formula.ofAtom a.erased (.point 0) ∧
      Spells NotFollowed .unary tokens rest (.formula f) a.nesting := by
  cases a with
  | proposition name =>
      obtain ⟨b, hb, hs⟩ := spells_term (.variable name (.point 0)) h ht
      exact ⟨lone b, erased_lone hb, .lone hs hu⟩
  | predicate name arguments =>
      obtain ⟨b, hb, hs⟩ := spells_term (.function name arguments (.point 0)) h ht
      exact ⟨lone b, erased_lone hb, .lone hs hu⟩
  | equality left right negated =>
      obtain ⟨us, t, vs, rfl, hl, hk, hv⟩ := exists_of_map_mark h
      replace hk : t.kind = if negated then .notEquals else .equals := eq_sign hk
      have hn : NotFollowed .term [] (t :: vs ++ rest) := by
        rw [List.cons_append, notFollowed_cons, hk]
        cases negated <;> rfl
      obtain ⟨b, hb, hs⟩ := spells_term left hl hn
      obtain ⟨b', hb', hs'⟩ := spells_term right hv ht
      refine ⟨equality b b' negated, ?_, .equality negated hs hk hs'⟩
      show Formula.ofAtom (.equality b.erased b'.erased negated) (.point 0) = _
      rw [hb, hb']
      rfl

/-! ### Formulas -/

/-- The tokens spell the formula, apart from places, as an operand, as the beginning of a chain and as a whole, as
far as it can be written there without parentheses. -/
structure Printed (f : Formula) (tokens : List Token) : Prop where
  operand (c : Connective) (rest : List Token) : f.isCompound = false → OnlyBy c rest →
    ∃ g, g.erased = f.erased ∧ Spells NotFollowed .unary tokens rest (.formula g) (f.nesting false)
  chain (c : Connective) (rest : List Token) : f.beginsChain c → OnlyBy c rest →
    ∃ g, g.erased = f.erased ∧ Spells NotFollowed (.chain c) tokens rest (.formula g) (f.nesting false)
  whole (rest : List Token) : Stops rest →
    ∃ g, g.erased = f.erased ∧ Spells NotFollowed .formula tokens rest (.formula g) (f.nesting false)

namespace Printed

variable {f : Formula} {tokens rest : List Token} {c : Connective}

/-- What is not joined or quantified stands alone as it stands as an operand. -/
theorem of_operand (hc : f.isCompound = false) (h : ∀ c rest, OnlyBy c rest →
    ∃ g, g.erased = f.erased ∧ Spells NotFollowed .unary tokens rest (.formula g) (f.nesting false)) :
    Printed f tokens where
  operand c rest _ := h c rest
  chain c rest hb := by cases f <;> first | cases hb | cases hc
  whole rest hr := by
    obtain ⟨g, hg, hs⟩ := h .and rest (onlyBy_of_stops .and hr)
    exact ⟨g, hg, hs.formula_of_unary hr⟩

/-- An operand in the parentheses that it needs, if it needs any. -/
theorem enclosed (h : ∀ tokens : List Token, tokens.map Token.lexeme = f.lexemes false → Printed f tokens)
    (ht : tokens.map Token.lexeme = f.lexemes f.isCompound) (hr : OnlyBy c rest) :
    ∃ g, g.erased = f.erased ∧ Spells NotFollowed .unary tokens rest (.formula g) (f.nesting f.isCompound) := by
  cases hc : f.isCompound with
  | false =>
      rw [hc] at ht
      exact (h tokens ht).operand c rest hc hr
  | true =>
      rw [hc, Formula.lexemes_true] at ht
      obtain ⟨opening, us, close, rfl, ho, hu, hk⟩ := exists_of_map_enclosed ht
      obtain ⟨g, hg, hs⟩ := (h us hu).whole (close :: rest) (stops_closing rest (eq_sign hk))
      refine ⟨g.withSpan (opening.span.union close.span), (Formula.erased_withSpan g _).trans hg, ?_⟩
      rw [Formula.nesting_true]
      exact .parenthesised (eq_sign ho) hs (eq_sign hk)

/-- The left operand of a connective is a chain of it, if only one of a single operand. -/
theorem left_chain (h : ∀ tokens : List Token, tokens.map Token.lexeme = f.lexemes false → Printed f tokens)
    (ht : tokens.map Token.lexeme = f.lexemes (f.enclosesLeft c)) (hr : OnlyBy c rest) :
    ∃ g, g.erased = f.erased ∧
      Spells NotFollowed (.chain c) tokens rest (.formula g) (f.nesting (f.enclosesLeft c)) := by
  by_cases hb : f.beginsChain c
  · have he : f.enclosesLeft c = false := by
      rw [Formula.enclosesLeft, hb, Bool.not_true, Bool.and_false]
    rw [he] at ht ⊢
    exact (h tokens ht).chain c rest hb hr
  · have he : f.enclosesLeft c = f.isCompound := by
      rw [Formula.enclosesLeft, Bool.eq_false_iff.2 hb, Bool.not_false, Bool.and_true]
    rw [he] at ht ⊢
    obtain ⟨g, hg, hs⟩ := enclosed h ht hr
    exact ⟨g, hg, .operand (hs.as_operand hr)⟩

end Printed

theorem erased_join {c : Connective} {f f' g g' : Formula} {facts : NodeFacts} (hf : f'.erased = f.erased)
    (hg : g'.erased = g.erased) : (Formula.join c f' g').erased = (Formula.binary facts c f g).erased := by
  show Formula.joinAt c f'.erased g'.erased (.point 0) = _
  rw [hf, hg]
  rfl

/-- Tokens with the lexemes of a formula's text spell the formula. -/
theorem printed (f : Formula) (tokens : List Token) (h : tokens.map Token.lexeme = f.lexemes false) :
    Printed f tokens := by
  induction f generalizing tokens with
  | atom facts a =>
      exact .of_operand rfl fun c rest hr => spells_atom a h (hr .term nofun) (hr .unary nofun)
  | negation facts f ih =>
      obtain ⟨t, us, rfl, ht, hu⟩ := List.map_eq_cons_iff.1 h
      refine .of_operand rfl fun c rest hr => ?_
      obtain ⟨g, hg, hs⟩ := Printed.enclosed ih hu hr
      refine ⟨.not g (t.span.union g.span), ?_, .negation (eq_sign ht) hs⟩
      show Formula.not g.erased (.point 0) = _
      rw [hg]
      rfl
  | quantified facts q bound body ih =>
      obtain ⟨t, _, rfl, ht, h⟩ := List.map_eq_cons_iff.1 h
      obtain ⟨name, _, rfl, hb, h⟩ := List.map_eq_cons_iff.1 h
      obtain ⟨dot, us, rfl, hd, hu⟩ := List.map_eq_cons_iff.1 h
      obtain ⟨hk, hname⟩ := Prod.mk.inj hb
      refine ⟨fun c rest hc => (by cases hc), fun c rest hb => (by cases hb), fun rest hr => ?_⟩
      obtain ⟨g, hg, hs⟩ := (ih us hu).whole rest hr
      refine ⟨.quantify q ⟨name.text, name.span⟩ g (t.span.union g.span), ?_,
        (Spells.quantified q (eq_sign ht) hk (eq_sign hd) hs).formula_of_unary hr⟩
      show Formula.quantify q ⟨name.text, .point 0⟩ g.erased (.point 0) = _
      rw [hg, hname]
      rfl
  | binary facts c left right ihl ihr =>
      obtain ⟨us, t, vs, rfl, hu, ht, hv⟩ := exists_of_map_mark h
      replace ht : t.kind = c.tokenKind := eq_sign ht
      have hleft (rest : List Token) := Printed.left_chain ihl hu (onlyBy_sign ht (vs ++ rest))
      by_cases hc : c.isLeftAssociative
      · have hchain (rest : List Token) (hr : OnlyBy c rest) :
            ∃ g, g.erased = (Formula.binary facts c left right).erased ∧
              Spells NotFollowed (.chain c) (us ++ t :: vs) rest (.formula g)
                ((Formula.binary facts c left right).nesting false) := by
          obtain ⟨f, hf, hs⟩ := hleft rest
          obtain ⟨g, hg, hs'⟩ := Printed.enclosed ihr hv hr
          refine ⟨.join c f g, erased_join hf hg, ?_⟩
          rw [Formula.nesting, hc]
          exact .further hc hs ht (hs'.as_operand hr)
        refine ⟨fun c' rest hc' => (by cases hc'), fun c' rest hb hr => ?_, fun rest hr => ?_⟩
        · obtain rfl : c = c' := of_decide_eq_true (Bool.and_eq_true_iff.1 hb).1
          exact hchain rest hr
        · obtain ⟨g, hg, hs⟩ := hchain rest (onlyBy_of_stops c hr)
          exact ⟨g, hg, (Spells.whole hs (hr _)).as_formula hr⟩
      · -- Implications group to the right: none is the beginning of a chain.
        cases eq_implies_of_not hc
        refine ⟨fun c' rest hc' => (by cases hc'), fun c' rest hb hr => ?_, fun rest hr => ?_⟩
        · obtain ⟨hcc, hc'⟩ := Bool.and_eq_true_iff.1 hb
          cases of_decide_eq_true hcc
          cases hc'
        · obtain ⟨f, hf, hs⟩ := hleft rest
          obtain ⟨g, hg, hs'⟩ := Printed.enclosed ihr hv (onlyBy_of_stops .implies hr)
          have hright : Spells NotFollowed (.joined .implies) vs rest (.formula g) _ :=
            .whole (.operand (hs'.as_operand (onlyBy_of_stops .implies hr))) (hr _)
          exact ⟨.join .implies f g, erased_join hf hg,
            (Spells.implication hs.operand_of_implies ht hright).as_formula hr⟩

end FormulaDiagram.Grammar
