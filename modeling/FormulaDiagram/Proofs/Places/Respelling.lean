import FormulaDiagram.Proofs.Grammar.LongestMatch
import FormulaDiagram.Proofs.Places.Basic

/-!
What the parser does not see. It looks at the kinds of tokens and at the texts of identifiers, and it unites the
places that it is given. A `Respelling` changes tokens in any way that leaves kinds and names as they are and
respects unions of places; the parser's answer about changed tokens is then its answer about the tokens themselves,
changed in the same way. This holds of failures as well: the same is expected, at the token of the same index.
-/

namespace FormulaDiagram.Parser

open Grammar (NotFollowed Category followed notFollowed_cons)

/-- A change of tokens that leaves their kinds and the texts of identifiers as they are, with the change of the
places of what is read. -/
structure Respelling where
  token : Token → Token
  place : Span → Span
  kind_token (t : Token) : (token t).kind = t.kind
  text_token (t : Token) : t.kind = .identifier → (token t).text = t.text
  span_token (t : Token) : (token t).span = place t.span
  place_union (s t : Span) : place (s.union t) = (place s).union (place t)

theorem kind_of_expect {kind : TokenKind} {expected : Expected} {tokens rest : List Token} {t : Token}
    (h : expect kind expected tokens = .ok (t, rest)) : t.kind = kind := by
  cases tokens with
  | nil => cases h
  | cons u us =>
      rw [expect] at h
      split at h
      · cases h
        assumption
      · cases h

namespace Respelling

variable (r : Respelling) {α β : Type}

def tokens (ts : List Token) : List Token := ts.map r.token

@[simp] theorem tokens_cons (t : Token) (ts : List Token) : r.tokens (t :: ts) = r.token t :: r.tokens ts := rfl

def failure (e : Failure) : Failure := ⟨e.expected, r.tokens e.rest⟩

/-- The same answer about changed tokens. -/
def answer (φ : α → α) : Except Failure (Reading α) → Except Failure (Reading α)
  | .ok (a, rest) => .ok (φ a, r.tokens rest)
  | .error e => .error (r.failure e)

/-- The change of what is read. -/
def formula : Formula → Formula := Formula.mapSpans r.place

def term : Term → Term := Term.mapSpans r.place

def terms : List Term → List Term := List.map r.term

theorem notFollowed_tokens {category : Category} {tokens : List Token} (h : NotFollowed category [] tokens) :
    NotFollowed category [] (r.tokens tokens) := by
  cases tokens with
  | nil => exact h
  | cons t rest =>
      rw [notFollowed_cons] at h
      rw [tokens_cons, notFollowed_cons, r.kind_token]
      exact h

/-! ### Steps of a reader -/

/-- One reader after another. -/
theorem answer_bind {φ : α → α} {ψ : β → β} {x y : Except Failure (Reading α)}
    {f g : Reading α → Except Failure (Reading β)} (hx : y = r.answer φ x)
    (h : ∀ a rest, x = .ok (a, rest) → g (φ a, r.tokens rest) = r.answer ψ (f (a, rest))) :
    y >>= g = r.answer ψ (x >>= f) := by
  subst hx
  cases x with
  | error e => rfl
  | ok q => exact h q.1 q.2 rfl

theorem answer_expect (kind : TokenKind) (expected : Expected) (tokens : List Token) :
    expect kind expected (r.tokens tokens) = r.answer r.token (expect kind expected tokens) := by
  cases tokens with
  | nil => rfl
  | cons t rest =>
      rw [tokens_cons, expect, expect, r.kind_token]
      split <;> rfl

theorem answer_nested {ψ : β → β} {levels : Nat} {t : Token} {rest : List Token}
    {f g : Level → Except Failure (Reading β)}
    (h : ∀ left, levels = left + 1 → g (level left) = r.answer ψ (f (level left))) :
    nested (inside levels) (r.token t :: r.tokens rest) >>= g =
      r.answer ψ (nested (inside levels) (t :: rest) >>= f) := by
  cases levels with
  | zero => rfl
  | succ left => exact h left rfl

/-! ### The readers of a level -/

/-- The readers with a number of levels left answer about changed tokens as they should. -/
structure Respects (levels : Nat) : Prop where
  joined (c : Connective) (tokens : List Token) :
    (joinedReader (inside levels) c).read (r.tokens tokens) =
      r.answer r.formula ((joinedReader (inside levels) c).read tokens)
  unary (tokens : List Token) :
    (unary (inside levels)).read (r.tokens tokens) = r.answer r.formula ((unary (inside levels)).read tokens)
  term (tokens : List Token) :
    (Parser.term (inside levels)).read (r.tokens tokens) =
      r.answer r.term ((Parser.term (inside levels)).read tokens)

section

variable {levels : Nat} (hi : ∀ left, levels = left + 1 → r.Respects left)

theorem formula_join (c : Connective) (f g : Formula) :
    r.formula (Formula.join c f g) = Formula.join c (r.formula f) (r.formula g) :=
  Formula.mapSpans_join r.place f g r.place_union c

/-- A row that groups to the left. -/
theorem answer_goOn {c : Connective} (hc : c.isLeftAssociative)
    (ho : ∀ tokens, (operandReader (inside levels) c).read (r.tokens tokens) =
      r.answer r.formula ((operandReader (inside levels) c).read tokens))
    (left : Formula) (tokens : List Token) :
    goOn (inside levels) c (r.formula left) (r.tokens tokens) =
      r.answer r.formula (goOn (inside levels) c left tokens) := by
  induction hl : tokens.length using Nat.strongRecOn generalizing tokens left with
  | ind length ih =>
      subst hl
      by_cases hn : NotFollowed (.joined c) [] tokens
      · rw [Grammar.goOn_of_joined hn, Grammar.goOn_of_joined (r.notFollowed_tokens hn)]
        rfl
      · obtain ⟨t, rest, rfl, ht⟩ := followed hn
        replace ht : t.kind = c.tokenKind := of_decide_eq_true ht
        rw [tokens_cons, goOn_of_operand hc ((r.kind_token t).trans ht), goOn_of_operand hc ht]
        refine r.answer_bind (ho rest) fun g rest' hr => ?_
        have hlt : rest'.length < (t :: rest).length :=
          Nat.lt_succ_of_lt ((operandReader (inside levels) c).shorter hr)
        rw [← formula_join]
        exact ih _ hlt _ rest' rfl

include hi in
theorem answer_consequent (left : Formula) (tokens : List Token) :
    consequent (inside levels) (r.formula left) (r.tokens tokens) =
      r.answer r.formula (consequent (inside levels) left tokens) := by
  by_cases hn : NotFollowed (.joined .implies) [] tokens
  · rw [Grammar.consequent_of_joined hn, Grammar.consequent_of_joined (r.notFollowed_tokens hn)]
    rfl
  · obtain ⟨t, rest, rfl, ht⟩ := followed hn
    replace ht : t.kind = .implies := of_decide_eq_true ht
    rw [tokens_cons, consequent, consequent, if_pos ((r.kind_token t).trans ht), if_pos ht]
    refine r.answer_nested fun inner hl => ?_
    rw [level_eq]
    refine r.answer_bind ((hi inner hl).joined .implies rest) fun g rest' _ => ?_
    show Except.ok (Formula.join .implies (r.formula left) (r.formula g), r.tokens rest') =
      Except.ok (r.formula (Formula.join .implies left g), r.tokens rest')
    rw [formula_join]

/-- The terms of a list behind those in `before`. -/
theorem answer_separated
    (ht : ∀ tokens, (Parser.term (inside levels)).read (r.tokens tokens) =
      r.answer r.term ((Parser.term (inside levels)).read tokens))
    (before : List Term) (tokens : List Token) :
    separated (Parser.term (inside levels)) (r.terms before) (r.tokens tokens) =
      r.answer r.terms (separated (Parser.term (inside levels)) before tokens) := by
  induction hl : tokens.length using Nat.strongRecOn generalizing tokens before with
  | ind length ih =>
      subst hl
      rw [separated_eq, separated_eq]
      refine r.answer_bind (ht tokens) fun a rest hr => ?_
      have hshort := (Parser.term (inside levels)).shorter hr
      show goOnTerms _ (r.terms (a :: before)) (r.tokens rest) = r.answer r.terms (goOnTerms _ (a :: before) rest)
      by_cases hn : NotFollowed .terms [] rest
      · rw [goOnTerms_of_notFollowed hn, goOnTerms_of_notFollowed (r.notFollowed_tokens hn)]
        show Except.ok ((r.terms (a :: before)).reverse, _) = Except.ok (r.terms (a :: before).reverse, _)
        rw [terms, List.map_reverse]
      · obtain ⟨t, rest, rfl, hk⟩ := followed hn
        replace hk : t.kind = .comma := of_decide_eq_true hk
        rw [tokens_cons, goOnTerms, goOnTerms, if_pos ((r.kind_token t).trans hk), if_pos hk]
        exact ih _ (Nat.lt_of_succ_lt hshort) (a :: before) rest rfl

/-- The terms of an argument list with the token that closes it. -/
def closedTerms (p : List Term × Token) : List Term × Token := (r.terms p.1, r.token p.2)

theorem answer_arguments
    (ht : ∀ tokens, (Parser.term (inside levels)).read (r.tokens tokens) =
      r.answer r.term ((Parser.term (inside levels)).read tokens)) (tokens : List Token) :
    arguments (Parser.term (inside levels)) (r.tokens tokens) =
      r.answer r.closedTerms (arguments (Parser.term (inside levels)) tokens) := by
  rcases closing_or tokens with ⟨close, rest, rfl, hk⟩ | hc
  · rw [tokens_cons, arguments_of_closing ((r.kind_token close).trans hk), arguments_of_closing hk]
    rfl
  · have hc' : ∀ t ∈ (r.tokens tokens).head?, t.kind ≠ .closing := by
      intro t ht
      rw [Respelling.tokens, List.head?_map, Option.mem_def, Option.map_eq_some_iff] at ht
      obtain ⟨u, hu, rfl⟩ := ht
      rw [r.kind_token]
      exact hc u hu
    rw [arguments_of_not_closing hc', arguments_of_not_closing hc]
    refine r.answer_bind (r.answer_separated ht [] tokens) fun as rest _ => ?_
    exact r.answer_bind (r.answer_expect .closing (.token .closing) rest) fun close rest' _ => rfl

include hi in
theorem answer_application {name : Token} (hname : name.kind = .identifier) (tokens : List Token) :
    application (inside levels) (r.token name) (r.tokens tokens) =
      r.answer r.term (application (inside levels) name tokens) := by
  by_cases hn : NotFollowed .term [] tokens
  · rw [application_of_notFollowed hn, application_of_notFollowed (r.notFollowed_tokens hn), r.text_token name hname,
      r.span_token]
    rfl
  · obtain ⟨t, rest, rfl, ht⟩ := followed hn
    replace ht : t.kind = .opening := of_decide_eq_true ht
    rw [tokens_cons, application, application, if_pos ((r.kind_token t).trans ht), if_pos ht]
    refine r.answer_nested fun inner hl => ?_
    rw [level_eq]
    refine r.answer_bind (r.answer_arguments (hi inner hl).term rest) fun q rest' _ => ?_
    obtain ⟨as, close⟩ := q
    show Except.ok (Term.function (r.token name).text (r.terms as)
      ((r.token name).span.union (r.token close).span), r.tokens rest') = _
    rw [r.text_token name hname, r.span_token, r.span_token, ← r.place_union, terms, term,
      ← Term.mapSpansAll_eq_map]
    rfl

include hi in
theorem answer_term (tokens : List Token) :
    (Parser.term (inside levels)).read (r.tokens tokens) =
      r.answer r.term ((Parser.term (inside levels)).read tokens) := by
  refine r.answer_bind (r.answer_expect .identifier .term tokens) fun name rest hr => ?_
  exact r.answer_application hi (kind_of_expect hr) rest

theorem formula_lone (a : Term) : r.formula (Grammar.lone a) = Grammar.lone (r.term a) :=
  Grammar.mapSpans_lone r.place a

theorem formula_equality (a b : Term) (negated : Bool) :
    r.formula (Grammar.equality a b negated) = Grammar.equality (r.term a) (r.term b) negated :=
  Grammar.mapSpans_equality r.place r.place_union a b negated

theorem answer_related
    (ht : ∀ tokens, (Parser.term (inside levels)).read (r.tokens tokens) =
      r.answer r.term ((Parser.term (inside levels)).read tokens)) (a : Term) (tokens : List Token) :
    related (inside levels) (r.term a) (r.tokens tokens) = r.answer r.formula (related (inside levels) a tokens) := by
  by_cases hn : NotFollowed .unary [] tokens
  · rw [related_of_notFollowed hn, related_of_notFollowed (r.notFollowed_tokens hn), ← formula_lone]
    rfl
  · obtain ⟨t, rest, rfl, hk⟩ := followed hn
    obtain ⟨negated, hk⟩ : ∃ negated : Bool, t.kind = if negated then .notEquals else .equals := by
      rcases Bool.or_eq_true_iff.1 hk with hk | hk
      · exact ⟨false, of_decide_eq_true hk⟩
      · exact ⟨true, of_decide_eq_true hk⟩
    rw [tokens_cons, related_of_sign ((r.kind_token t).trans hk), related_of_sign hk]
    refine r.answer_bind (ht rest) fun b rest' _ => ?_
    rw [← formula_equality]
    rfl

include hi in
theorem answer_negated {t : Token} (ht : t.kind = .not) (tokens : List Token) :
    (Parser.unary (inside levels)).read (r.token t :: r.tokens tokens) =
      r.answer r.formula ((Parser.unary (inside levels)).read (t :: tokens)) := by
  rw [readUnary_not ht, readUnary_not ((r.kind_token t).trans ht)]
  refine r.answer_nested fun inner hl => ?_
  rw [level_eq]
  refine r.answer_bind ((hi inner hl).unary tokens) fun f rest _ => ?_
  show Except.ok (Formula.not (r.formula f) ((r.token t).span.union (r.formula f).span), r.tokens rest) =
    Except.ok (r.formula (Formula.not f (t.span.union f.span)), r.tokens rest)
  rw [formula, Formula.span_mapSpans, r.span_token, ← r.place_union, ← Formula.mapSpans_not]

include hi in
theorem answer_quantified {t : Token} {q : Quantifier} (ht : t.kind = q.tokenKind) (tokens : List Token) :
    (Parser.unary (inside levels)).read (r.token t :: r.tokens tokens) =
      r.answer r.formula ((Parser.unary (inside levels)).read (t :: tokens)) := by
  rw [readUnary_quantifier ht, readUnary_quantifier ((r.kind_token t).trans ht)]
  refine r.answer_nested fun inner hl => ?_
  rw [level_eq]
  refine r.answer_bind (r.answer_expect .identifier .boundVariable tokens) fun bound rest hb => ?_
  refine r.answer_bind (r.answer_expect .dot (.token .dot) rest) fun dot rest' _ => ?_
  refine r.answer_bind ((hi inner hl).joined .iff rest') fun f rest'' _ => ?_
  show Except.ok (Formula.quantify q ⟨(r.token bound).text, (r.token bound).span⟩ (r.formula f)
      ((r.token t).span.union (r.formula f).span), r.tokens rest'') =
    Except.ok (r.formula (Formula.quantify q ⟨bound.text, bound.span⟩ f (t.span.union f.span)), r.tokens rest'')
  rw [r.text_token bound (kind_of_expect hb), r.span_token, r.span_token, formula, Formula.span_mapSpans,
    ← r.place_union, Formula.mapSpans_quantify]
  rfl

include hi in
theorem answer_parenthesised {t : Token} (ht : t.kind = .opening) (tokens : List Token) :
    (Parser.unary (inside levels)).read (r.token t :: r.tokens tokens) =
      r.answer r.formula ((Parser.unary (inside levels)).read (t :: tokens)) := by
  rw [readUnary_opening ht, readUnary_opening ((r.kind_token t).trans ht)]
  refine r.answer_nested fun inner hl => ?_
  rw [level_eq]
  refine r.answer_bind ((hi inner hl).joined .iff tokens) fun f rest _ => ?_
  refine r.answer_bind (r.answer_expect .closing (.token .closing) rest) fun close rest' _ => ?_
  show Except.ok ((r.formula f).withSpan ((r.token t).span.union (r.token close).span), r.tokens rest') =
    Except.ok (r.formula (f.withSpan (t.span.union close.span)), r.tokens rest')
  rw [r.span_token, r.span_token, ← r.place_union, formula, Formula.mapSpans_withSpan]

include hi in
theorem answer_unary (tokens : List Token) :
    (Parser.unary (inside levels)).read (r.tokens tokens) =
      r.answer r.formula ((Parser.unary (inside levels)).read tokens) := by
  cases tokens with
  | nil => rfl
  | cons t rest =>
      rw [tokens_cons]
      cases hk : t.kind with
      | not => exact r.answer_negated hi hk rest
      | forAll => exact r.answer_quantified (q := .forAll) hi hk rest
      | forSome => exact r.answer_quantified (q := .forSome) hi hk rest
      | opening => exact r.answer_parenthesised hi hk rest
      | identifier =>
          rw [readUnary_name hk, readUnary_name ((r.kind_token t).trans hk)]
          refine r.answer_bind (r.answer_term hi (t :: rest)) fun a rest' _ => ?_
          exact r.answer_related (r.answer_term hi) a rest'
      | _ =>
          show readUnary (inside levels) (r.token t :: r.tokens rest) =
            r.answer r.formula (readUnary (inside levels) (t :: rest))
          rw [readUnary, readUnary, r.kind_token, hk]
          rfl

include hi in
theorem answer_joined (c : Connective) (tokens : List Token) :
    (joinedReader (inside levels) c).read (r.tokens tokens) =
      r.answer r.formula ((joinedReader (inside levels) c).read tokens) := by
  have step (c : Connective) (hc : c.isLeftAssociative)
      (ho : ∀ tokens, (operandReader (inside levels) c).read (r.tokens tokens) =
        r.answer r.formula ((operandReader (inside levels) c).read tokens)) (tokens : List Token) :
      (joinedReader (inside levels) c).read (r.tokens tokens) =
        r.answer r.formula ((joinedReader (inside levels) c).read tokens) := by
    rw [read_joined, read_joined]
    exact r.answer_bind (ho tokens) fun f rest _ => r.answer_goOn hc ho f rest
  have hor := step .or rfl (step .and rfl (r.answer_unary hi))
  have himplies (tokens : List Token) :
      (joinedReader (inside levels) .implies).read (r.tokens tokens) =
        r.answer r.formula ((joinedReader (inside levels) .implies).read tokens) := by
    rw [read_joined, read_joined]
    exact r.answer_bind (hor tokens) fun f rest _ => r.answer_consequent hi f rest
  cases c with
  | and => exact step .and rfl (r.answer_unary hi) tokens
  | or => exact hor tokens
  | implies => exact himplies tokens
  | iff => exact step .iff rfl himplies tokens

end

/-- At every level the readers answer about changed tokens as they should. -/
theorem respects (levels : Nat) : r.Respects levels :=
  level_induction (fun _ hi => ⟨r.answer_joined hi, r.answer_unary hi, r.answer_term hi⟩) levels

/-- The same formula or failure about changed tokens. -/
def outcome : Except Failure Formula → Except Failure Formula
  | .ok f => .ok (r.formula f)
  | .error e => .error (r.failure e)

/-- All of the changed tokens are read as the formula of the tokens themselves, changed, or there is the same
failure. -/
theorem whole_tokens (tokens : List Token) : whole (r.tokens tokens) = r.outcome (whole tokens) := by
  rw [Grammar.whole_eq, Grammar.whole_eq, (r.respects maxNesting).joined .iff tokens]
  cases (joinedReader (inside maxNesting) .iff).read tokens with
  | error e => rfl
  | ok q =>
      obtain ⟨f, rest⟩ := q
      cases rest <;> rfl

end Respelling

end FormulaDiagram.Parser
