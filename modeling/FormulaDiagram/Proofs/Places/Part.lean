import FormulaDiagram.Formula.Source
import FormulaDiagram.Proofs.Lexing.Part
import FormulaDiagram.Proofs.Nodes.Basic
import FormulaDiagram.Proofs.Places.Respelling
import FormulaDiagram.Proofs.Printing.Spelling

/-!
The part of a source at the place of a node. Every node of a formula is spelled by a stretch of the tokens that
spells it by itself as well, with no more openings nested than there are in the whole; the part of the source where
the stretch stands consists of those tokens, further to the left; and the parser gives the same formula about them,
further to the left. So the part at a node's place is read as that node.
-/

namespace FormulaDiagram

namespace Grammar

/-- Some of the tokens, in a row, spell the formula by themselves, with at most so many openings nested. -/
def HasPart (tokens : List Token) (n : Nat) (g : Formula) : Prop :=
  ∃ within m, within <:+: tokens ∧ m ≤ n ∧ Spells NotFollowed .formula within [] (.formula g) m

/-- Some of the tokens spell each node of the phrase. -/
def Phrase.HasParts (tokens : List Token) (n : Nat) : Phrase → Prop
  | .formula f => ∀ g ∈ f.preorder, HasPart tokens n g
  | _ => True

variable {category : Category} {tokens within rest : List Token} {f : Formula} {p : Phrase} {m n : Nat}

theorem Phrase.HasParts.mono (h : (Phrase.formula f).HasParts within m) (hw : within <:+: tokens) (hm : m ≤ n) :
    (Phrase.formula f).HasParts tokens n := by
  intro g hg
  obtain ⟨within', m', hw', hm', hs⟩ := h g hg
  exact ⟨within', m', hw'.trans hw, Nat.le_trans hm' hm, hs⟩

/-- What stands on the sides of a token are stretches. -/
theorem infix_sides (ts us : List Token) (t : Token) : ts <:+: ts ++ t :: us ∧ us <:+: ts ++ t :: us :=
  ⟨(List.prefix_append ts _).isInfix, ((List.suffix_cons t us).trans (List.suffix_append ts _)).isInfix⟩

/-- The operands around a sign are spelled by the tokens on its sides. -/
theorem Phrase.HasParts.join {ts us : List Token} {f g : Formula} {k : Nat} (c : Connective) (t : Token)
    (hf : (Phrase.formula f).HasParts ts m) (hg : (Phrase.formula g).HasParts us n) (hm : m ≤ k) (hn : n ≤ k) :
    ∀ h ∈ (Formula.join c f g).children, (Phrase.formula h).HasParts (ts ++ t :: us) k := by
  obtain ⟨hleft, hright⟩ := infix_sides ts us t
  rw [show (Formula.join c f g).children = [f, g] from rfl, List.forall_mem_cons, List.forall_mem_singleton]
  exact ⟨hf.mono hleft hm, hg.mono hright hn⟩

namespace Spells

/-- What tokens spell as a part of a formula they spell by themselves. -/
theorem alone (h : Spells NotFollowed category tokens rest (.formula f) n) :
    Spells NotFollowed .formula tokens [] (.formula f) n := by
  have hs := h.of_stops stops_nil
  cases category with
  | chain c => exact as_formula (.whole hs (notFollowed_nil _ _)) stops_nil
  | joined c => exact as_formula hs stops_nil
  | unary => exact formula_of_unary hs stops_nil
  | term =>
      obtain ⟨a, ha⟩ := h.exists_term
      cases ha
  | terms =>
      obtain ⟨as, has⟩ := h.exists_terms
      cases has

/-- The root is spelled by all of the tokens, so it remains to look at what is below. -/
theorem hasParts_of_children (h : Spells NotFollowed category tokens rest (.formula f) n)
    (hc : ∀ g ∈ f.children, (Phrase.formula g).HasParts tokens n) : (Phrase.formula f).HasParts tokens n :=
  Formula.forall_mem_preorder_iff.2 ⟨⟨tokens, n, List.infix_rfl, Nat.le_refl n, h.alone⟩, hc⟩

/-- Every node is spelled by some of the tokens. -/
theorem hasParts (h : Spells NotFollowed category tokens rest p n) : p.HasParts tokens n := by
  induction h with
  | operand _ ih => exact ih
  | @further c ts t us rest f g m n hc hf ht hg ihf ihg =>
      apply (Spells.further hc hf ht hg).hasParts_of_children
      exact Phrase.HasParts.join c t ihf ihg (Nat.le_max_left m n) (Nat.le_max_right m n)
  | whole _ _ ih => exact ih
  | @implication ts t us rest f g m n hf ht hg ihf ihg =>
      have hn : n ≤ max m (n + 1) := Nat.le_trans (Nat.le_succ n) (Nat.le_max_right m (n + 1))
      apply (Spells.implication hf ht hg).hasParts_of_children
      exact Phrase.HasParts.join .implies t ihf ihg (Nat.le_max_left m (n + 1)) hn
  | @negation t ts rest f n ht hf ih =>
      apply (Spells.negation ht hf).hasParts_of_children
      simp only [Formula.not, Formula.children, List.forall_mem_singleton]
      exact ih.mono (List.suffix_cons t ts).isInfix (Nat.le_succ n)
  | @quantified t bound dot ts rest f n q ht hb hd hf ih =>
      apply (Spells.quantified q ht hb hd hf).hasParts_of_children
      simp only [Formula.quantify, Formula.children, List.forall_mem_singleton]
      exact ih.mono (List.suffix_append [t, bound, dot] ts).isInfix (Nat.le_succ n)
  | @parenthesised t ts close rest f n ht hf hc ih =>
      apply (Spells.parenthesised ht hf hc).hasParts_of_children
      intro g hg
      rw [Formula.children_withSpan] at hg
      have hgf : (Phrase.formula g).HasParts ts n := (Formula.forall_mem_preorder_iff.1 ih).2 g hg
      exact hgf.mono (List.infix_append [t] ts [close]) (Nat.le_succ n)
  | lone ha he ih => exact (Spells.lone ha he).hasParts_of_children (List.forall_mem_nil _)
  | equality negated ha ht hb iha ihb =>
      exact (Spells.equality negated ha ht hb).hasParts_of_children (List.forall_mem_nil _)
  | _ => trivial

end Spells

end Grammar

open Grammar

/-- Tokens that stand further to the right, and what is read of them. -/
def Parser.Respelling.moved (distance : Nat) : Parser.Respelling where
  token := Token.moved distance
  place := Span.moved distance
  kind_token _ := rfl
  text_token _ _ := rfl
  span_token _ := rfl
  place_union := Span.moved_union distance

/-- A source is read as a formula if it is cut into tokens all of which are read as it. -/
theorem readFormula_eq_ok_iff {source : String} {f : Formula} :
    readFormula source = .ok f ↔ ∃ tokens, tokenize source = .ok tokens ∧ Parser.whole tokens = .ok f := by
  simp only [readFormula, Formula.ofTokens, Parser.bind_eq_ok, Parser.mapError_eq_ok]

/-- The part of a source at the place of a node of its formula is itself the source of a formula. That formula is
the node, with the places of nodes, terms and bound variables counted from the beginning of the part. -/
theorem readFormula_part {source : String} {f g : Formula} (h : readFormula source = .ok f)
    (hg : g ∈ f.preorder) :
    ∃ part f', g.span.slice? source = some part ∧ readFormula part = .ok f' ∧
      f'.mapSpans (Span.moved g.span.start) = g := by
  obtain ⟨tokens, ht, hw⟩ := readFormula_eq_ok_iff.1 h
  obtain ⟨n, hn, hs⟩ := whole_eq_ok_iff.1 hw
  obtain ⟨within, m, ⟨before, after, rfl⟩, hm, hs'⟩ := hs.hasParts g hg
  have hordered : Ordered within :=
    (Lexer.tokenize_eq_ok_iff.1 ht).pairwise.sublist (List.infix_append before within after).sublist
  obtain ⟨part, tokens', hslice, htokens, hwithin⟩ := Lexer.tokenize_part ht (hs'.covered hordered)
  have hread := hs'.whole_eq_ok (Nat.le_trans hm hn)
  have hmoved := (Parser.Respelling.moved g.span.start).whole_tokens tokens'
  have hsame : (Parser.Respelling.moved g.span.start).tokens tokens' = within := hwithin.symm
  rw [hsame, hread] at hmoved
  cases hw' : Parser.whole tokens' with
  | error e =>
      rw [hw'] at hmoved
      cases hmoved
  | ok f' =>
      rw [hw'] at hmoved
      exact ⟨part, f', hslice, readFormula_eq_ok_iff.2 ⟨tokens', htokens, hw'⟩, (Except.ok.inj hmoved).symm⟩

/-- In `p ∧ (∀x.x=y)` the right operand stands six bytes behind the beginning, and `(∀x.x=y)` is read as it. -/
theorem readFormula_part_of_conjunction :
    ∃ f g f', readFormula "p ∧ (∀x.x=y)" = .ok f ∧ f.preorder[2]? = some g ∧
      readFormula "(∀x.x=y)" = .ok f' ∧ f'.mapSpans (Span.moved 6) = g := by
  have hnode : ((readFormula "p ∧ (∀x.x=y)").toOption.bind (·.preorder[2]?)).map Formula.span =
      some ⟨6, 16, by decide⟩ := by decide +kernel
  obtain ⟨g, hg, hspan⟩ := Option.map_eq_some_iff.1 hnode
  obtain ⟨f, hf, hfg⟩ := Option.bind_eq_some_iff.1 hg
  have hread : readFormula "p ∧ (∀x.x=y)" = .ok f := by
    cases hr : readFormula "p ∧ (∀x.x=y)" with
    | error e =>
        rw [hr] at hf
        cases hf
    | ok f' =>
        rw [hr] at hf
        cases hf
        rfl
  obtain ⟨part, f', hslice, hpart, hmoved⟩ := readFormula_part hread (List.mem_of_getElem? hfg)
  have hcut : (⟨6, 16, by decide⟩ : Span).slice? "p ∧ (∀x.x=y)" = some "(∀x.x=y)" := by decide +kernel
  rw [hspan, hcut] at hslice
  cases hslice
  rw [hspan] at hmoved
  exact ⟨f, g, f', hread, hfg, hpart, hmoved⟩

end FormulaDiagram
