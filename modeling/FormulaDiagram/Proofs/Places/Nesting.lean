import FormulaDiagram.Proofs.Nodes.Reachable
import FormulaDiagram.Proofs.Places.Diagnostics

/-!
Places nest as the tree does. Each phrase stands where its tokens do, and the tokens of its parts are stretches of its
own ones with a token between any two of them, so the parts stand inside the phrase, one behind the other. Brackets
only add tokens at the ends of a stretch. The argument is made about the tokens, of which the source's characters show
in that each token stands where its text does.
-/

namespace FormulaDiagram

/-- The parts lie inside the range, from left to right and with room between them. -/
structure Span.Holds (s : Span) (parts : List Span) : Prop where
  within : ∀ p ∈ parts, p.Within s
  ordered : parts.Pairwise fun p q => p.stop < q.start

/-- The term stands at a place in the source that holds its arguments, and wherever a variable stands in it, there
stands the variable's name. -/
inductive Term.WellPlaced (source : String) : Term → Prop where
  | variable {name : String} {span : Span} : span.slice? source = some name → WellPlaced source (.variable name span)
  | function {name : String} {arguments : List Term} {span : Span} : (∃ part, span.slice? source = some part) →
      span.Holds (arguments.map Term.span) → (∀ t ∈ arguments, WellPlaced source t) →
      WellPlaced source (.function name arguments span)

namespace Formula

/-- The terms that stand right below the node, from left to right. -/
def terms : Formula → List Term
  | .atom _ a => a.terms
  | _ => []

/-- The places of all that stands right below the node, from left to right: of the terms of an atom, of operands, or of
the variable and the body of a quantifier. -/
def partSpans (f : Formula) : List Span :=
  f.terms.map Term.span ++ f.bound?.toList.map BoundVariable.span ++ f.children.map span

/-- The node stands at a place in the source that holds all that stands right below it. The variable that it binds and
those in its terms are what the source has at their places. -/
structure WellPlaced (source : String) (f : Formula) : Prop where
  exists_part : ∃ part, f.span.slice? source = some part
  holds : f.span.Holds f.partSpans
  bound : ∀ bound, f.bound? = some bound → bound.span.slice? source = some bound.name
  terms : ∀ t ∈ f.terms, t.WellPlaced source

end Formula

/-! ### Stretches of tokens -/

/-- The tokens are some of the source's tokens, in a row. -/
def Stretch (source : String) (tokens : List Token) : Prop := ∃ all, tokenize source = .ok all ∧ tokens <:+: all

namespace Stretch

variable {source : String} {tokens within : List Token} {t : Token} {s : Span}

theorem mono (h : Stretch source tokens) (hw : within <:+: tokens) : Stretch source within := by
  obtain ⟨all, hall, htokens⟩ := h
  exact ⟨all, hall, hw.trans htokens⟩

theorem ordered (h : Stretch source tokens) : Ordered tokens := by
  obtain ⟨all, hall, htokens⟩ := h
  exact (Lexer.tokenize_eq_ok_iff.1 hall).pairwise.sublist htokens.sublist

/-- The text of a token stands at its place, which is not empty. -/
theorem slice?_token (h : Stretch source tokens) (ht : t ∈ tokens) :
    t.span.slice? source = some t.text ∧ t.span.start < t.span.stop := by
  obtain ⟨all, hall, htokens⟩ := h
  have hlex : lex source = ⟨all, none⟩ := Lexer.lex_eq_iff.2 (Lexer.tokenize_eq_ok_iff.1 hall)
  refine Lexer.slice?_token ?_
  rw [hlex]
  exact htokens.subset ht

/-- What stands on the sides of a token. -/
theorem sides {ts us : List Token} (h : Stretch source (ts ++ t :: us)) : Stretch source ts ∧ Stretch source us :=
  (Grammar.infix_sides ts us t).imp h.mono h.mono

/-- There is a part of the source where the tokens stand. -/
theorem exists_part (h : Stretch source tokens) (hs : s.Covers tokens) : ∃ part, s.slice? source = some part := by
  obtain ⟨all, hall, before, after, rfl⟩ := h
  obtain ⟨part, -, hpart, -⟩ := Lexer.tokenize_part hall hs
  exact ⟨part, hpart⟩

end Stretch

/-! ### Places that hold others -/

namespace Span

variable {source : String} {s s' s'' : Span} {tokens before after ts us : List Token} {t : Token} {parts : List Span}

theorem Within.trans (h : s.Within s') (h' : s'.Within s'') : s.Within s'' :=
  ⟨Nat.le_trans h'.1 h.1, Nat.le_trans h.2 h'.2⟩

theorem Holds.self (s : Span) : s.Holds [s] :=
  ⟨List.forall_mem_singleton.2 ⟨Nat.le_refl _, Nat.le_refl _⟩, List.pairwise_singleton _ s⟩

theorem Holds.mono (h : s'.Holds parts) (hs : s'.Within s) : s.Holds parts :=
  ⟨fun p hp => (h.within p hp).trans hs, h.ordered⟩

/-- A token of the stretch stands inside the place of the stretch. -/
theorem Covers.within_token (hs : s.Covers tokens) (ho : Ordered tokens) (ht : t ∈ tokens) : t.span.Within s := by
  obtain ⟨⟨first, ts, hfirst, hstart⟩, ⟨us, last, hlast, hstop⟩⟩ := hs
  constructor
  · rw [hfirst] at ht ho
    rcases List.mem_cons.1 ht with rfl | ht
    · exact Nat.le_of_eq hstart.symm
    · have hle := (List.pairwise_cons.1 ho).1 t ht
      have := first.span.start_le_stop
      omega
  · rw [hlast] at ht ho
    rcases List.mem_append.1 ht with ht | ht
    · have hle := (List.pairwise_append.1 ho).2.2 t ht last (List.mem_singleton_self last)
      have := last.span.start_le_stop
      omega
    · obtain rfl := List.mem_singleton.1 ht
      exact Nat.le_of_eq hstop

/-- A stretch inside another one stands inside its place. -/
theorem Covers.within (hs : s.Covers tokens) (hs' : s'.Covers ts) (ho : Ordered tokens) (hts : ts <:+: tokens) :
    s'.Within s := by
  obtain ⟨⟨first, us, hfirst, hstart⟩, ⟨us', last, hlast, hstop⟩⟩ := hs'
  have hmem : first ∈ ts ∧ last ∈ ts := ⟨by simp [hfirst], by simp [hlast]⟩
  have hw := hs.within_token ho (hts.subset hmem.1)
  have hw' := hs.within_token ho (hts.subset hmem.2)
  exact ⟨hstart ▸ hw.1, hstop ▸ hw'.2⟩

/-- The parts in two stretches with a token between them stand in a row. -/
theorem Covers.holds_cons (hs : s.Covers (ts ++ t :: us)) (hs' : s'.Covers ts) (hs'' : s''.Covers us)
    (hparts : s''.Holds parts) (h : Stretch source (ts ++ t :: us)) : s.Holds (s' :: parts) := by
  obtain ⟨hleft, hright⟩ := Grammar.infix_sides ts us t
  have hw' := hs.within hs' h.ordered hleft
  have hw'' := hs.within hs'' h.ordered hright
  have hlt : s'.stop < s''.start := by
    obtain ⟨-, ts', last, hlast, hstop⟩ := hs'
    obtain ⟨⟨first, us', hfirst, hstart⟩, -⟩ := hs''
    have ht := (h.slice?_token (t := t) (by simp)).2
    obtain ⟨-, htus, hcross⟩ := List.pairwise_append.1 h.ordered
    have hbefore := hcross last (by simp [hlast]) t List.mem_cons_self
    have hbehind := (List.pairwise_cons.1 htus).1 first (by simp [hfirst])
    omega
  have hfirst (p : Span) (hp : p ∈ parts) : s'.stop < p.start := Nat.lt_of_lt_of_le hlt (hparts.within p hp).1
  exact ⟨List.forall_mem_cons.2 ⟨hw', (hparts.mono hw'').within⟩, List.pairwise_cons.2 ⟨hfirst, hparts.ordered⟩⟩

end Span

namespace Formula

variable {source : String} {f : Formula}

theorem terms_withSpan (f : Formula) (s : Span) : (f.withSpan s).terms = f.terms := by
  cases f <;> rfl

/-- A node stays well placed in a wider place. -/
theorem WellPlaced.withSpan (h : f.WellPlaced source) {s : Span} (hs : f.span.Within s)
    (hpart : ∃ part, s.slice? source = some part) : (f.withSpan s).WellPlaced source where
  exists_part := by
    rw [span_withSpan]
    exact hpart
  holds := by
    rw [span_withSpan, partSpans, terms_withSpan, bound?_withSpan, children_withSpan]
    exact h.holds.mono hs
  bound := by
    rw [bound?_withSpan]
    exact h.bound
  terms := by
    rw [terms_withSpan]
    exact h.terms

/-- Annotations do not matter to where a node stands. -/
theorem WellPlaced.annotate (h : f.WellPlaced source) (depth : Nat) (scope : List BoundVariable) :
    (f.annotate depth scope).WellPlaced source := by
  have hterms : (f.annotate depth scope).terms = f.terms := by
    cases f <;> rfl
  have hspan (g : Formula) (depth : Nat) (scope : List BoundVariable) : (g.annotate depth scope).span = g.span := by
    cases g <;> rfl
  have hparts : (f.annotate depth scope).partSpans = f.partSpans := by
    rw [partSpans, partSpans, hterms, bound?_annotate, children_annotate, List.map_map]
    exact congrArg _ (List.map_congr_left fun g _ => hspan g _ _)
  refine ⟨?_, ?_, ?_, ?_⟩
  · rw [hspan]
    exact h.exists_part
  · rw [hspan, hparts]
    exact h.holds
  · rw [bound?_annotate]
    exact h.bound
  · rw [hterms]
    exact h.terms

/-- What annotations do not matter to holds of the nodes of an annotated formula if it holds of those of the formula. -/
theorem forall_preorder_annotate {P : Formula → Prop} (hP : ∀ g depth scope, P g → P (annotate depth scope g))
    (h : ∀ g ∈ f.preorder, P g) (depth : Nat) (scope : List BoundVariable) :
    ∀ g ∈ (f.annotate depth scope).preorder, P g := by
  induction f using induction_children generalizing depth scope with
  | h f ih =>
    obtain ⟨hroot, hchildren⟩ := forall_mem_preorder_iff.1 h
    refine forall_mem_preorder_iff.2 ⟨hP f depth scope hroot, ?_⟩
    rw [children_annotate]
    exact List.forall_mem_map.2 fun g hg => ih g hg (hchildren g hg) _ _

end Formula

/-! ### What tokens spell -/

namespace Grammar

/-- The phrase is well placed, down to its last part. Terms in a row stand where their tokens do. -/
def Phrase.WellPlaced (source : String) (tokens : List Token) : Phrase → Prop
  | .formula f => ∀ g ∈ f.preorder, g.WellPlaced source
  | .term a => a.WellPlaced source
  | .terms as => (∀ a ∈ as, a.WellPlaced source) ∧ ∃ s : Span, s.Covers tokens ∧ s.Holds (as.map Term.span)

variable {source : String} {category : Category} {ends : Category → List Token → List Token → Prop}
  {tokens rest : List Token} {p : Phrase} {f g : Formula} {n : Nat}

/-- The atom that a term alone stands for is placed as the term is. -/
theorem wellPlaced_lone {a : Term} (h : a.WellPlaced source) : (lone a).WellPlaced source := by
  cases h with
  | @«variable» name span hname => exact ⟨⟨name, hname⟩, ⟨List.forall_mem_nil _, .nil⟩, nofun, nofun⟩
  | @function name arguments span hpart hholds hargs =>
      have hparts : (lone (.function name arguments span)).partSpans = arguments.map Term.span := by
        rw [Formula.partSpans]
        exact (List.append_nil _).trans (List.append_nil _)
      exact ⟨hpart, hparts ▸ hholds, nofun, hargs⟩

/-- Terms around a sign make a well placed atom. -/
theorem wellPlaced_equality {ts us : List Token} {t : Token} {a b : Term} (negated : Bool)
    (h : Stretch source (ts ++ t :: us)) (ha : a.span.Covers ts) (hb : b.span.Covers us)
    (hwa : a.WellPlaced source) (hwb : b.WellPlaced source) : (equality a b negated).WellPlaced source := by
  have hs : (equality a b negated).span.Covers (ts ++ t :: us) := .joined (fun _ => ha) (fun _ => hb) h.ordered
  exact ⟨h.exists_part hs, hs.holds_cons ha hb (.self b.span) h, nofun,
    List.forall_mem_cons.2 ⟨hwa, List.forall_mem_singleton.2 hwb⟩⟩

/-- Operands around a sign make a well placed formula. -/
theorem Phrase.WellPlaced.join {ts us : List Token} {t : Token} (c : Connective) (h : Stretch source (ts ++ t :: us))
    (hf : f.span.Covers ts) (hg : g.span.Covers us) (hwf : (Phrase.formula f).WellPlaced source ts)
    (hwg : (Phrase.formula g).WellPlaced source us) :
    (Phrase.formula (.join c f g)).WellPlaced source (ts ++ t :: us) := by
  have hs : (Formula.join c f g).span.Covers (ts ++ t :: us) := .joined (fun _ => hf) (fun _ => hg) h.ordered
  have hroot : (Formula.join c f g).WellPlaced source :=
    ⟨h.exists_part hs, hs.holds_cons hf hg (.self g.span) h, nofun, nofun⟩
  exact Formula.forall_mem_preorder_iff.2 ⟨hroot, List.forall_mem_cons.2 ⟨hwf, List.forall_mem_singleton.2 hwg⟩⟩

/-- What tokens of a source spell is well placed. -/
theorem Spells.wellPlaced (hs : Spells ends category tokens rest p n) (h : Stretch source tokens) :
    p.WellPlaced source tokens := by
  have hcovered := hs.covered h.ordered
  induction hs with
  | operand _ ih => exact ih h hcovered
  | further _ hf _ hg ihf ihg | implication hf _ hg ihf ihg =>
      obtain ⟨hleft, hright⟩ := h.sides
      have hcf := hf.covered hleft.ordered
      have hcg := hg.covered hright.ordered
      exact .join _ h hcf hcg (ihf hleft hcf) (ihg hright hcg)
  | whole _ _ ih => exact ih h hcovered
  | @negation t ts rest f n ht hf ih =>
      have hinfix : ts <:+: t :: ts := (List.suffix_cons t ts).isInfix
      have hcf := hf.covered (h.mono hinfix).ordered
      have hwithin := Span.Covers.within hcovered hcf h.ordered hinfix
      refine Formula.forall_mem_preorder_iff.2 ⟨?_, List.forall_mem_singleton.2 (ih (h.mono hinfix) hcf)⟩
      exact ⟨h.exists_part hcovered, (Span.Holds.self f.span).mono hwithin, nofun, nofun⟩
  | @quantified t bound dot ts rest f n q ht hb hd hf ih =>
      -- The variable and the body stand around the dot, and the sign only widens the place of both.
      have hrow : bound :: dot :: ts <:+: t :: bound :: dot :: ts := (List.suffix_cons t _).isInfix
      have hin : Stretch source ([bound] ++ dot :: ts) := h.mono hrow
      have hcf := hf.covered hin.sides.2.ordered
      have hcrow : (bound.span.union f.span).Covers ([bound] ++ dot :: ts) :=
        .union (.single bound) hcf [dot] hin.ordered
      have hholds := hcrow.holds_cons (.single bound) hcf (.self f.span) hin
      have hwithin := Span.Covers.within hcovered hcrow h.ordered hrow
      refine Formula.forall_mem_preorder_iff.2 ⟨?_, List.forall_mem_singleton.2 (ih hin.sides.2 hcf)⟩
      refine ⟨h.exists_part hcovered, hholds.mono hwithin, ?_, nofun⟩
      rintro _ ⟨⟩
      exact (h.slice?_token (by simp)).1
  | @parenthesised t ts close rest f n ht hf hc ih =>
      have hinfix : ts <:+: t :: ts ++ [close] := List.infix_append [t] ts [close]
      have hcf := hf.covered (h.mono hinfix).ordered
      obtain ⟨hroot, hchildren⟩ := Formula.forall_mem_preorder_iff.1 (ih (h.mono hinfix) hcf)
      rw [Phrase.Covered, Formula.span_withSpan] at hcovered
      have hwithin := Span.Covers.within hcovered hcf h.ordered hinfix
      refine Formula.forall_mem_preorder_iff.2 ⟨hroot.withSpan hwithin (h.exists_part hcovered), ?_⟩
      rw [Formula.children_withSpan]
      exact hchildren
  | lone ha _ ih =>
      exact Formula.forall_mem_preorder_iff.2 ⟨wellPlaced_lone (ih h hcovered), List.forall_mem_nil _⟩
  | equality negated ha ht hb iha ihb =>
      obtain ⟨hleft, hright⟩ := h.sides
      have hca := ha.covered hleft.ordered
      have hcb := hb.covered hright.ordered
      refine Formula.forall_mem_preorder_iff.2 ⟨?_, List.forall_mem_nil _⟩
      exact wellPlaced_equality negated h hca hcb (iha hleft hca) (ihb hright hcb)
  | @name t rest ht _ => exact .variable (h.slice?_token (List.mem_singleton_self t)).1
  | constant ht hopen hc =>
      exact .function (h.exists_part hcovered) ⟨List.forall_mem_nil _, .nil⟩ (List.forall_mem_nil _)
  | @application t opening ts close rest as n ht hopen has hc ih =>
      have hinfix : ts <:+: t :: opening :: ts ++ [close] := List.infix_append [t, opening] ts [close]
      obtain ⟨hargs, s, hs, hholds⟩ := ih (h.mono hinfix) trivial
      have hwithin := Span.Covers.within hcovered hs h.ordered hinfix
      exact .function (h.exists_part hcovered) (hholds.mono hwithin) hargs
  | @last ts rest a n ha _ ih =>
      have hca := ha.covered h.ordered
      exact ⟨List.forall_mem_singleton.2 (ih h hca), a.span, hca, .self a.span⟩
  | @more ts t us rest a as m n ha ht has iha ihas =>
      obtain ⟨hleft, hright⟩ := h.sides
      have hca := ha.covered hleft.ordered
      obtain ⟨hargs, s, hs, hholds⟩ := ihas hright trivial
      have hboth : (a.span.union s).Covers (ts ++ t :: us) := .joined (fun _ => hca) (fun _ => hs) h.ordered
      exact ⟨List.forall_mem_cons.2 ⟨iha hleft hca, hargs⟩, _, hboth, hboth.holds_cons hca hs hholds h⟩

end Grammar

/-- In every source that is parsed, places nest as the tree does. Every node stands at a place between characters that
holds the places of what is right below it (its terms, its operands, or its bound variable and its body), in their
order and apart from one another, and so does every term with its arguments. Bound variables and variables in terms are
what the source has at their places. -/
theorem places_nest {source : String} {a : AnnotatedFormula} (h : parse source = .ok a) :
    ∀ g ∈ a.formula.preorder, g.WellPlaced source := by
  obtain ⟨tokens, f, ht, hw, rfl⟩ := exists_whole_of_parse h
  obtain ⟨n, -, hs⟩ := Grammar.whole_eq_ok_iff.1 hw
  have hplaced := hs.wellPlaced ⟨tokens, ht, List.infix_rfl⟩
  exact Formula.forall_preorder_annotate (fun _ depth scope hg => hg.annotate depth scope) hplaced 0 []

/-- The bound variable of `∀ä.(p(ä, f(ä)))` stands behind the sign and in front of the body, and is called `ä`. -/
theorem places_nest_of_quantifier :
    ∃ a, parse "∀ä.(p(ä, f(ä)))" = .ok a ∧ a.formula.partSpans = [⟨3, 5, by decide⟩, ⟨6, 20, by decide⟩] ∧
      a.formula.WellPlaced "∀ä.(p(ä, f(ä)))" := by
  have hparts : (parse "∀ä.(p(ä, f(ä)))").toOption.map (fun a => a.formula.partSpans) =
      some [⟨3, 5, by decide⟩, ⟨6, 20, by decide⟩] := by decide +kernel
  obtain ⟨a, hparse, -, hparts⟩ := exists_parse_of_map hparts
  exact ⟨a, hparse, hparts, places_nest hparse _ (Formula.mem_preorder_iff.2 (.inl rfl))⟩

end FormulaDiagram
