import FormulaDiagram.Proofs.Lexing.Insertion
import FormulaDiagram.Proofs.Nodes.Reachable
import FormulaDiagram.Proofs.Places.Alike
import FormulaDiagram.Proofs.Places.Part

/-!
Brackets around a node. A formula in brackets may stand wherever a formula without them stands, and what stands around
it is read as before: the token in front of a node is never a name, so no argument list comes to be, and nothing goes
on with a closing bracket. Brackets put around the part of a source at a node's place therefore leave the formula as it
is, places apart, unless they are nested too deeply.
-/

namespace FormulaDiagram

theorem Formula.erased_places_withSpan (f : Formula) (s : Span) :
    (f.withSpan s).mapSpans .erased = f.mapSpans .erased := by
  cases f <;> rfl

namespace Grammar

/-- The tokens, in front of a rest, spell the formula but for places. -/
def SpellsAlike (category : Category) (tokens rest : List Token) (f : Formula) : Prop :=
  ∃ f' n, f'.mapSpans .erased = f.mapSpans .erased ∧ Spells NotFollowed category tokens rest (.formula f') n

/-- Some of the tokens stand at the place of the node and may be put in brackets. -/
def Enclosable (category : Category) (tokens rest : List Token) (f g : Formula) : Prop :=
  ∃ before within after, tokens = before ++ within ++ after ∧ (Ordered within → g.span.Covers within) ∧
    ∀ opening closing : Token, opening.kind = .opening → closing.kind = .closing →
      SpellsAlike category (before ++ opening :: within ++ closing :: after) rest f

/-- Each node of the phrase may be put in brackets. -/
def Phrase.Enclosable (category : Category) (tokens rest : List Token) : Phrase → Prop
  | .formula f => ∀ g ∈ f.preorder, Grammar.Enclosable category tokens rest f g
  | _ => True

variable {category category' : Category} {tokens tokens' rest rest' : List Token} {f f' g : Formula} {p : Phrase}
  {m n : Nat}

/-- Wherever a formula stands there may stand one that needs nothing of what comes behind it. -/
theorem Spells.replace (hs : Spells NotFollowed category tokens rest p n) (hc : category.isTerm = false)
    (hg : Spells NotFollowed .unary tokens' rest (.formula g) m) :
    Spells NotFollowed category tokens' rest (.formula g) m := by
  induction hs with
  | operand _ ih => exact .operand (ih (Category.isTerm_operand _) hg)
  | further _ _ _ _ _ ih => exact .operand (ih (Category.isTerm_operand _) hg)
  | whole _ he ih => exact .whole (ih rfl hg) he
  | implication _ _ _ _ ih => exact ih rfl hg
  | negation | quantified | parenthesised | lone | equality => exact hg
  | _ => cases hc

/-- The whole of a formula in brackets. -/
theorem Spells.enclosable_root (hs : Spells NotFollowed category tokens rest (.formula f) n) :
    Enclosable category tokens rest f f := by
  refine ⟨[], tokens, [], by simp, hs.covered, fun opening closing ho hc => ?_⟩
  have hinside := hs.alone.of_stops (stops_closing rest hc)
  have hnot : category.isTerm = false := by
    cases category with
    | term =>
        obtain ⟨a, ha⟩ := hs.exists_term
        cases ha
    | terms =>
        obtain ⟨as, has⟩ := hs.exists_terms
        cases has
    | _ => rfl
  exact ⟨_, _, f.erased_places_withSpan _, hs.replace hnot (.parenthesised ho hinside hc)⟩

/-- A node that may be put in brackets in a part of a formula may be in the formula, if what stands around the part can
stand around all that differs from it in places only. -/
theorem Enclosable.around (h : Enclosable category tokens rest f g) (front back : List Token)
    (hf : ∀ tokens', SpellsAlike category tokens' rest f → SpellsAlike category' (front ++ tokens' ++ back) rest' f') :
    Enclosable category' (front ++ tokens ++ back) rest' f' g := by
  obtain ⟨before, within, after, rfl, hcovers, hs⟩ := h
  refine ⟨front ++ before, within, after ++ back, by simp, hcovers, fun opening closing ho hc => ?_⟩
  have hall := hf _ (hs opening closing ho hc)
  have heq : front ++ before ++ opening :: within ++ closing :: (after ++ back) =
      front ++ (before ++ opening :: within ++ closing :: after) ++ back := by simp
  rw [heq]
  exact hall

theorem Enclosable.behind (h : Enclosable category tokens rest f g) (front : List Token)
    (hf : ∀ tokens', SpellsAlike category tokens' rest f → SpellsAlike category' (front ++ tokens') rest' f') :
    Enclosable category' (front ++ tokens) rest' f' g := by
  have hall := h.around front [] fun tokens' hs => by
    rw [List.append_nil]
    exact hf tokens' hs
  rw [List.append_nil] at hall
  exact hall

theorem Enclosable.inFront (h : Enclosable category tokens rest f g) (back : List Token)
    (hf : ∀ tokens', SpellsAlike category tokens' rest f → SpellsAlike category' (tokens' ++ back) rest' f') :
    Enclosable category' (tokens ++ back) rest' f' g :=
  h.around [] back hf

theorem Enclosable.same (h : Enclosable category tokens rest f g)
    (hf : ∀ tokens', SpellsAlike category tokens' rest f → SpellsAlike category' tokens' rest f) :
    Enclosable category' tokens rest f g :=
  h.behind [] hf

/-- Formulas that differ from the operands in places only are joined to one that differs in places only. -/
theorem erased_places_join {left left' right right' : Formula} (c : Connective)
    (hl : left'.mapSpans .erased = left.mapSpans .erased) (hr : right'.mapSpans .erased = right.mapSpans .erased) :
    (Formula.join c left' right').mapSpans .erased = (Formula.join c left right).mapSpans .erased := by
  rw [Formula.mapSpans_join _ _ _ Span.erased_union, Formula.mapSpans_join _ _ _ Span.erased_union, hl, hr]

/-- The nodes of both operands around a sign may be put in brackets, if the sign joins all that differs from the
operands in places only. -/
theorem Phrase.Enclosable.join {left right : Category} {ts us : List Token} (c : Connective) (t : Token)
    (hf : (Phrase.formula f).Enclosable left ts (t :: us ++ rest)) (hg : (Phrase.formula g).Enclosable right us rest)
    (hleft : ∀ ts', SpellsAlike left ts' (t :: us ++ rest) f →
      SpellsAlike category (ts' ++ t :: us) rest (Formula.join c f g))
    (hright : ∀ us', SpellsAlike right us' rest g →
      SpellsAlike category (ts ++ t :: us') rest (Formula.join c f g)) :
    ∀ h ∈ (Formula.join c f g).children, ∀ k ∈ h.preorder,
      Grammar.Enclosable category (ts ++ t :: us) rest (Formula.join c f g) k := by
  rw [show (Formula.join c f g).children = [f, g] from rfl, List.forall_mem_cons, List.forall_mem_singleton]
  constructor
  · exact fun k hk => (hf k hk).inFront (t :: us) hleft
  · intro k hk
    rw [List.append_cons]
    refine (hg k hk).behind (ts ++ [t]) fun us' hs => ?_
    rw [← List.append_cons]
    exact hright us' hs

namespace Spells

/-- The root may be put in brackets, so it remains to look at what is below. -/
theorem enclosable_of_children (hs : Spells NotFollowed category tokens rest (.formula f) n)
    (hc : ∀ h ∈ f.children, ∀ g ∈ h.preorder, Enclosable category tokens rest f g) :
    (Phrase.formula f).Enclosable category tokens rest :=
  Formula.forall_mem_preorder_iff.2 ⟨hs.enclosable_root, hc⟩

/-- Every node may be put in brackets. -/
theorem enclosable (hs : Spells NotFollowed category tokens rest p n) : p.Enclosable category tokens rest := by
  induction hs with
  | operand _ ih =>
      intro g hg
      refine (ih g hg).same ?_
      rintro tokens' ⟨f', m, hf, hs⟩
      exact ⟨f', m, hf, .operand hs⟩
  | @further c ts t us rest f g m n hc hf ht hg ihf ihg =>
      apply (Spells.further hc hf ht hg).enclosable_of_children
      refine Phrase.Enclosable.join c t ihf ihg ?_ ?_
      · rintro ts' ⟨f', m', he, hs⟩
        exact ⟨_, _, erased_places_join c he rfl, .further hc hs ht hg⟩
      · rintro us' ⟨g', n', he, hs⟩
        exact ⟨_, _, erased_places_join c rfl he, .further hc (hf.of_next _) ht hs⟩
  | whole _ he ih =>
      intro g hg
      refine (ih g hg).same ?_
      rintro tokens' ⟨f', m, hf, hs⟩
      exact ⟨f', m, hf, .whole hs he⟩
  | @implication ts t us rest f g m n hf ht hg ihf ihg =>
      apply (Spells.implication hf ht hg).enclosable_of_children
      refine Phrase.Enclosable.join .implies t ihf ihg ?_ ?_
      · rintro ts' ⟨f', m', he, hs⟩
        exact ⟨_, _, erased_places_join .implies he rfl, .implication hs ht hg⟩
      · rintro us' ⟨g', n', he, hs⟩
        exact ⟨_, _, erased_places_join .implies rfl he, .implication (hf.of_next _) ht hs⟩
  | @negation t ts rest f n ht hf ih =>
      apply (Spells.negation ht hf).enclosable_of_children
      simp only [Formula.not, Formula.children, List.forall_mem_singleton]
      intro g hg
      refine (ih g hg).behind [t] ?_
      rintro tokens' ⟨f', m, he, hs⟩
      refine ⟨_, _, ?_, .negation ht hs⟩
      rw [Formula.mapSpans_not, he]
      exact (Formula.mapSpans_not .erased f _).symm
  | @quantified t bound dot ts rest f n q ht hb hd hf ih =>
      apply (Spells.quantified q ht hb hd hf).enclosable_of_children
      simp only [Formula.quantify, Formula.children, List.forall_mem_singleton]
      intro g hg
      refine (ih g hg).behind [t, bound, dot] ?_
      rintro tokens' ⟨f', m, he, hs⟩
      refine ⟨_, _, ?_, .quantified q ht hb hd hs⟩
      rw [Formula.mapSpans_quantify, he]
      exact (Formula.mapSpans_quantify .erased f _ q _).symm
  | @parenthesised t ts close rest f n ht hf hc ih =>
      apply (Spells.parenthesised ht hf hc).enclosable_of_children
      intro child hchild g hg
      rw [Formula.children_withSpan] at hchild
      refine ((Formula.forall_mem_preorder_iff.1 ih).2 child hchild g hg).around [t] [close] ?_
      rintro tokens' ⟨f', m, he, hs⟩
      refine ⟨_, _, ?_, .parenthesised ht hs hc⟩
      rw [Formula.erased_places_withSpan, Formula.erased_places_withSpan, he]
  | lone ha he => exact (Spells.lone ha he).enclosable_of_children (List.forall_mem_nil _)
  | equality negated ha ht hb => exact (Spells.equality negated ha ht hb).enclosable_of_children (List.forall_mem_nil _)
  | _ => trivial

end Spells

end Grammar

/-! ### Sources -/

theorem Token.alike_moved (distance : Nat) (tokens : List Token) :
    List.Forall₂ Token.Alike tokens (tokens.map (Token.moved distance)) := by
  rw [List.forall₂_map_right_iff, List.forall₂_same]
  exact fun t _ => ⟨rfl, fun _ => rfl⟩

/-- The brackets stand between tokens that stay and others that move to the right. -/
theorem Token.alike_enclosed {before within after : List Token} (opening closing : Token) (m n : Nat) :
    List.Forall₂ Token.Alike (before ++ opening :: within ++ closing :: after)
      (before ++ opening :: within.map (Token.moved m) ++ closing :: after.map (Token.moved n)) := by
  have hbefore : List.Forall₂ Token.Alike before before := List.forall₂_same.2 fun t _ => ⟨rfl, fun _ => rfl⟩
  have hbracket (t : Token) : t.Alike t := ⟨rfl, fun _ => rfl⟩
  have hwithin := List.Forall₂.cons (hbracket opening) (Token.alike_moved m within)
  have hafter := List.Forall₂.cons (hbracket closing) (Token.alike_moved n after)
  exact List.rel_append (List.rel_append hbefore hwithin) hafter

/-- A source with tokens like those that spell a formula is parsed as that formula, places apart, unless the openings
among them are nested too deeply. -/
theorem parse_of_spells {source : String} {tokens tokens' : List Token} {f : Formula} {n : Nat}
    (h : tokenize source = .ok tokens') (halike : List.Forall₂ Token.Alike tokens tokens')
    (hs : Grammar.Spells Grammar.NotFollowed .formula tokens [] (.formula f) n) :
    (∃ a, parse source = .ok a ∧ a.formula.mapSpans .erased = (f.annotate 0 []).mapSpans .erased ∧
        a.warnings.map (Diagnostic.mapSpans .erased) = (f.warningsOnto [] []).map (Diagnostic.mapSpans .erased)) ∨
      ∃ e, parse source = .error (.grammatical e) ∧ e.expected = .nestingLimit maxNesting := by
  have hsame := Parser.sameOutcome_whole halike
  by_cases hn : n ≤ maxNesting
  · rw [hs.whole_eq_ok hn] at hsame
    generalize hw : Parser.whole tokens' = x at hsame
    cases hsame with
    | ok hf =>
        obtain ⟨hformula, hwarnings⟩ := Formula.validated_alike hf
        exact .inl ⟨_, parse_of_whole h hw, hformula.symm, hwarnings.symm⟩
  · obtain ⟨rest, hlimit⟩ := hs.whole_eq_error (Nat.lt_of_not_le hn)
    rw [hlimit] at hsame
    generalize hw : Parser.whole tokens' = x at hsame
    cases hsame with
    | @error _ e hexpected _ =>
        refine .inr ⟨_, parse_of_failure h hw, ?_⟩
        rw [Parser.Failure.error]
        cases e.rest <;> exact hexpected.symm

/-- Brackets of any kind put around the part of a source at the place of a node leave the formula as it is, places
apart, with its annotations and its warnings, unless that makes openings nest too deeply, which is then the error. -/
theorem parse_enclosed {source : String} {a : AnnotatedFormula} {g : Formula} {o c : Char}
    (h : parse source = .ok a) (hg : g ∈ a.formula.preorder) (ho : TokenKind.ofChar? o = some .opening)
    (hc : TokenKind.ofChar? c = some .closing) :
    ∃ text, g.span.enclose? source o c = some text ∧
      ((∃ a', parse text = .ok a' ∧ a'.formula.mapSpans .erased = a.formula.mapSpans .erased ∧
          a'.warnings.map (Diagnostic.mapSpans .erased) = a.warnings.map (Diagnostic.mapSpans .erased)) ∨
        ∃ e, parse text = .error (.grammatical e) ∧ e.expected = .nestingLimit maxNesting) := by
  obtain ⟨tokens, f, ht, hw, rfl⟩ := exists_whole_of_parse h
  obtain ⟨n, -, hs⟩ := Grammar.whole_eq_ok_iff.1 hw
  have hmem : g.span ∈ (f.annotate 0 []).preorder.map Formula.span := List.mem_map_of_mem hg
  rw [Formula.spans_annotate] at hmem
  obtain ⟨g', hg', hspan⟩ := List.mem_map.1 hmem
  obtain ⟨before, within, after, rfl, hcovers, henclosed⟩ := hs.enclosable g' hg'
  have hordered : Ordered within :=
    (Lexer.tokenize_eq_ok_iff.1 ht).pairwise.sublist (List.infix_append before within after).sublist
  obtain ⟨text, opening, closing, htext, hopening, hclosing, htokens⟩ :=
    Lexer.tokenize_enclosed ht (hspan ▸ hcovers hordered) ho hc
  obtain ⟨f', n', hf', hs'⟩ := henclosed opening closing hopening hclosing
  obtain ⟨hformula, hwarnings⟩ := Formula.validated_alike hf'
  have hparse := parse_of_spells htokens (Token.alike_enclosed opening closing o.utf8Size (o.utf8Size + c.utf8Size)) hs'
  rw [hformula, hwarnings] at hparse
  exact ⟨text, htext, hparse⟩

/-- In `p ∧ q ∧ r` the left operand may be put in brackets. -/
theorem parse_enclosed_of_conjunction :
    ∃ a g a', parse "p ∧ q ∧ r" = .ok a ∧ a.formula.preorder[1]? = some g ∧
      g.span.enclose? "p ∧ q ∧ r" '(' ']' = some "(p ∧ q] ∧ r" ∧ parse "(p ∧ q] ∧ r" = .ok a' ∧
      a'.formula.mapSpans .erased = a.formula.mapSpans .erased := by
  have hnode : (parse "p ∧ q ∧ r").toOption.map (fun a => a.formula.preorder[1]?.map Formula.span) =
      some (some ⟨0, 7, by decide⟩) := by decide +kernel
  obtain ⟨a, hparse, -, hnode⟩ := exists_parse_of_map hnode
  obtain ⟨g, hg, hspan⟩ := Option.map_eq_some_iff.1 hnode
  have hcut : (⟨0, 7, by decide⟩ : Span).enclose? "p ∧ q ∧ r" '(' ']' = some "(p ∧ q] ∧ r" := by decide +kernel
  obtain ⟨text, htext, hsame⟩ := parse_enclosed (o := '(') (c := ']') hparse (List.mem_of_getElem? hg) rfl rfl
  rw [hspan, hcut] at htext
  cases htext
  have hsome : (parse "(p ∧ q] ∧ r").toOption.isSome := by decide +kernel
  rcases hsame with ⟨a', ha', hformula, -⟩ | ⟨e, he, -⟩
  · exact ⟨a, g, a', hparse, hg, hspan ▸ hcut, ha', hformula⟩
  · rw [he] at hsome
    cases hsome

end FormulaDiagram
