import FormulaDiagram.Proofs.Grammar.Reading

/-!
How far the readers look. Whatever a reader answers, it has looked at the tokens that it took and at the first
one that it left, and at no other. If something else stands behind that one, what is read or what is expected
stays the same, and so does the place where the reader stands.
-/

namespace FormulaDiagram.Parser

open Grammar (NotFollowed followed Category)

/-- The tokens that an answer leaves. -/
def remaining {α : Type} : Except Failure (Reading α) → List Token
  | .ok r => r.2
  | .error e => e.rest

/-- The same answer in front of other tokens. -/
def inFrontOf {α : Type} (rest : List Token) : Except Failure (Reading α) → Except Failure (Reading α)
  | .ok r => .ok (r.1, rest)
  | .error e => .error ⟨e.expected, rest⟩

/-- The answer about the tokens is settled by those that are taken and the next one. -/
def Settled {α : Type} (read : List Token → Except Failure (Reading α)) (tokens : List Token) : Prop :=
  ∃ taken, tokens = taken ++ remaining (read tokens) ∧ ∀ t left others, remaining (read tokens) = t :: left →
    read (taken ++ t :: others) = inFrontOf (t :: others) (read tokens)

namespace Settled

variable {α β : Type} {read read' : List Token → Except Failure (Reading α)} {tokens : List Token}

/-- An answer for which nothing is taken, and which the next token decides on. -/
theorem stop (x : Except Failure (Reading α))
    (h : ∀ us : List Token, us.head? = tokens.head? → read us = inFrontOf us x) : Settled read tokens := by
  have hr (us : List Token) : remaining (inFrontOf us x) = us := by
    cases x <;> rfl
  refine ⟨[], ?_, fun t left others ht => ?_⟩
  · rw [h tokens rfl, hr]
    rfl
  · rw [h tokens rfl, hr] at ht
    subst ht
    rw [List.nil_append, h (t :: others) rfl, h (t :: left) rfl]
    cases x <;> rfl

/-- What is done with the tokens may depend on the next one. -/
theorem of_eq (h : Settled read' tokens) (hr : ∀ us : List Token, us.head? = tokens.head? → read us = read' us) :
    Settled read tokens := by
  obtain ⟨taken, ht, hl⟩ := h
  rw [Settled, hr tokens rfl]
  refine ⟨taken, ht, fun t left others hrem => ?_⟩
  rw [hr _ ?_]
  · exact hl t left others hrem
  · rw [hrem] at ht
    rw [ht]
    cases taken <;> rfl

/-- The first token is taken. -/
theorem behind {t : Token} (h : Settled read' tokens) (hr : ∀ us, read (t :: us) = read' us) :
    Settled read (t :: tokens) := by
  obtain ⟨taken, ht, hl⟩ := h
  rw [Settled, hr tokens]
  refine ⟨t :: taken, ?_, fun u left others hrem => ?_⟩
  · rw [List.cons_append, ← ht]
  · rw [List.cons_append, hr]
    exact hl u left others hrem

/-- One reader after another. -/
theorem bind {f : Reading α → Except Failure (Reading β)} (h : Settled read tokens)
    (hf : ∀ a rest, read tokens = .ok (a, rest) → Settled (fun us => f (a, us)) rest) :
    Settled (fun us => read us >>= f) tokens := by
  obtain ⟨taken, ht, hl⟩ := h
  cases hx : read tokens with
  | error e =>
      rw [hx] at ht hl
      have he : (read tokens >>= f) = .error e := by
        rw [hx]
        rfl
      rw [Settled, he]
      refine ⟨taken, ht, fun t left others hrem => ?_⟩
      rw [hl t left others hrem]
      rfl
  | ok r =>
      obtain ⟨a, rest⟩ := r
      obtain ⟨taken', ht', hl'⟩ := hf a rest hx
      rw [hx] at ht hl
      have he : (read tokens >>= f) = f (a, rest) := by
        rw [hx]
        rfl
      rw [Settled, he]
      refine ⟨taken ++ taken', ?_, fun t left others hrem => ?_⟩
      · rw [List.append_assoc, ← ht']
        exact ht
      · -- What the first reader leaves begins with the same token as before.
        rw [← hl' t left others hrem]
        rw [hrem] at ht'
        cases taken' with
        | nil =>
            rw [List.append_nil, hl t left others ht']
            rfl
        | cons u us =>
            rw [List.append_assoc, List.cons_append, hl u (us ++ t :: left) (us ++ t :: others) ht']
            rfl

theorem done (a : α) (tokens : List Token) : Settled (fun us => .ok (a, us)) tokens :=
  .stop (.ok (a, [])) fun _ _ => rfl

theorem map (h : Settled read tokens) (g : α → β) :
    Settled (fun us => read us >>= fun r => .ok (g r.1, r.2)) tokens :=
  h.bind fun a rest _ => .done (g a) rest

theorem expect (kind : TokenKind) (expected : Expected) (tokens : List Token) :
    Settled (Parser.expect kind expected) tokens := by
  cases tokens with
  | nil =>
      apply Settled.stop (.error ⟨expected, []⟩)
      intro us hu
      rw [List.head?_eq_none_iff.1 hu]
      rfl
  | cons t rest =>
      by_cases ht : t.kind = kind
      · exact .behind (.done t rest) (expect_of_kind ht expected)
      · apply Settled.stop (.error ⟨expected, []⟩)
        intro us hu
        obtain ⟨us, rfl⟩ := List.head?_eq_some_iff.1 hu
        exact if_neg ht

/-- An opening token, and what comes then a level further inside. -/
theorem nested {levels : Nat} {t : Token} (f : Level → List Token → Except Failure (Reading α))
    (hr : ∀ us, read (t :: us) = Parser.nested (inside levels) (t :: us) >>= fun level => f level us)
    (hf : ∀ left, levels = left + 1 → Settled (f (level left)) tokens) : Settled read (t :: tokens) := by
  cases levels with
  | zero =>
      apply Settled.stop (.error ⟨.nestingLimit maxNesting, []⟩)
      intro us hu
      obtain ⟨us, rfl⟩ := List.head?_eq_some_iff.1 hu
      exact hr us
  | succ left => exact (hf left rfl).behind hr

end Settled

/-! ### The readers of a level -/

/-- The answers of the readers with a number of levels left are settled by what they look at. -/
structure Foresees (levels : Nat) : Prop where
  joined (c : Connective) (tokens : List Token) : Settled (joinedReader (inside levels) c).read tokens
  unary (tokens : List Token) : Settled (unary (inside levels)).read tokens
  term (tokens : List Token) : Settled (term (inside levels)).read tokens

section

variable {levels : Nat} (hi : ∀ left, levels = left + 1 → Foresees left)

theorem notFollowed_of_head {category : Category} {before us tokens : List Token}
    (h : NotFollowed category before tokens) (hu : us.head? = tokens.head?) : NotFollowed category before us := by
  rw [NotFollowed, hu]
  exact h

theorem settled_goOn {c : Connective} (hc : c.isLeftAssociative)
    (ho : ∀ tokens, Settled (operandReader (inside levels) c).read tokens) (left : Formula) (tokens : List Token) :
    Settled (goOn (inside levels) c left) tokens := by
  induction hl : tokens.length using Nat.strongRecOn generalizing tokens left with
  | ind length ih =>
      subst hl
      by_cases hn : NotFollowed (.joined c) [] tokens
      · exact .stop (.ok (left, [])) fun us hu => Grammar.goOn_of_joined (notFollowed_of_head hn hu)
      · obtain ⟨t, rest, rfl, ht⟩ := followed hn
        refine .behind (.bind (ho rest) fun g rest' hr => ?_) (goOn_of_operand hc (of_decide_eq_true ht) left)
        exact ih _ (Nat.lt_succ_of_lt ((operandReader (inside levels) c).shorter hr)) _ _ rfl

include hi in
theorem settled_consequent (left : Formula) (tokens : List Token) :
    Settled (consequent (inside levels) left) tokens := by
  by_cases hn : NotFollowed (.joined .implies) [] tokens
  · exact .stop (.ok (left, [])) fun us hu => Grammar.consequent_of_joined (notFollowed_of_head hn hu)
  · obtain ⟨t, rest, rfl, ht⟩ := followed hn
    apply Settled.nested (fun level us => level.implication.read us >>= fun r =>
      .ok (Formula.join .implies left r.1, r.2)) fun us => if_pos (of_decide_eq_true ht)
    intro inner hl
    rw [level_eq]
    exact ((hi inner hl).joined .implies rest).map _

theorem settled_separated (ht : ∀ tokens, Settled (term (inside levels)).read tokens) (before : List Term)
    (tokens : List Token) : Settled (separated (term (inside levels)) before) tokens := by
  induction hl : tokens.length using Nat.strongRecOn generalizing tokens before with
  | ind length ih =>
      subst hl
      refine .of_eq (.bind (ht tokens) fun a rest hr => ?_) fun us _ => separated_eq _ _ _
      have hshort := (term (inside levels)).shorter hr
      by_cases hn : NotFollowed .terms [] rest
      · exact .stop (.ok ((a :: before).reverse, [])) fun us hu =>
          goOnTerms_of_notFollowed (notFollowed_of_head hn hu)
      · obtain ⟨t, rest, rfl, hk⟩ := followed hn
        apply Settled.behind (ih _ (Nat.lt_of_succ_lt hshort) (a :: before) rest rfl)
        intro us
        exact if_pos (of_decide_eq_true hk)

theorem settled_arguments (ht : ∀ tokens, Settled (term (inside levels)).read tokens) (tokens : List Token) :
    Settled (arguments (term (inside levels))) tokens := by
  rcases closing_or tokens with ⟨close, rest, rfl, hk⟩ | hc
  · exact .behind (.done ([], close) rest) fun us => arguments_of_closing hk
  · refine .of_eq ?_ fun us hu => arguments_of_not_closing (by rw [hu]; exact hc)
    apply Settled.bind (settled_separated ht [] tokens)
    intro as rest _
    exact .map (.expect .closing (.token .closing) rest) fun close => (as, close)

include hi in
theorem settled_application (name : Token) (tokens : List Token) :
    Settled (application (inside levels) name) tokens := by
  by_cases hn : NotFollowed .term [] tokens
  · exact .stop (.ok (.variable name.text name.span, [])) fun us hu =>
      application_of_notFollowed (notFollowed_of_head hn hu)
  · obtain ⟨t, rest, rfl, ht⟩ := followed hn
    apply Settled.nested (fun level us => arguments level.term us >>= fun r =>
      .ok (.function name.text r.1.1 (name.span.union r.1.2.span), r.2)) fun us => if_pos (of_decide_eq_true ht)
    intro inner hl
    rw [level_eq]
    exact (settled_arguments (hi inner hl).term rest).map fun r =>
      Term.function name.text r.1 (name.span.union r.2.span)

include hi in
theorem settled_term (tokens : List Token) : Settled (term (inside levels)).read tokens :=
  .bind (.expect .identifier .term tokens) fun name rest _ => settled_application hi name rest

theorem settled_related (ht : ∀ tokens, Settled (term (inside levels)).read tokens) (left : Term)
    (tokens : List Token) : Settled (related (inside levels) left) tokens := by
  by_cases hn : NotFollowed .unary [] tokens
  · exact .stop (.ok (Grammar.lone left, [])) fun us hu => related_of_notFollowed (notFollowed_of_head hn hu)
  · obtain ⟨t, rest, rfl, hk⟩ := followed hn
    have hs : t.kind = .equals ∨ t.kind = .notEquals :=
      (Bool.or_eq_true_iff.1 hk).imp of_decide_eq_true of_decide_eq_true
    exact .behind (.map (ht rest) fun b => Grammar.equality left b (t.kind = .notEquals)) fun us => if_pos hs

include hi in
theorem settled_negated {t : Token} (ht : t.kind = .not) (tokens : List Token) :
    Settled (unary (inside levels)).read (t :: tokens) := by
  apply Settled.nested (fun level us => level.unary.read us >>= fun r =>
    .ok (.not r.1 (t.span.union r.1.span), r.2)) fun us => readUnary_not ht
  intro inner hl
  rw [level_eq]
  exact ((hi inner hl).unary tokens).map fun f => Formula.not f (t.span.union f.span)

include hi in
theorem settled_quantified {t : Token} {q : Quantifier} (ht : t.kind = q.tokenKind) (tokens : List Token) :
    Settled (unary (inside levels)).read (t :: tokens) := by
  apply Settled.nested (fun level us => Parser.expect .identifier .boundVariable us >>= fun bound =>
    Parser.expect .dot (.token .dot) bound.2 >>= fun dot => level.formula.read dot.2 >>= fun r =>
      .ok (.quantify q ⟨bound.1.text, bound.1.span⟩ r.1 (t.span.union r.1.span), r.2))
    fun us => readUnary_quantifier ht
  intro inner hl
  rw [level_eq]
  apply Settled.bind (.expect _ _ tokens)
  intro bound rest _
  apply Settled.bind (.expect _ _ rest)
  intro dot rest' _
  exact ((hi inner hl).joined .iff rest').map fun f =>
    Formula.quantify q ⟨bound.text, bound.span⟩ f (t.span.union f.span)

include hi in
theorem settled_parenthesised {t : Token} (ht : t.kind = .opening) (tokens : List Token) :
    Settled (unary (inside levels)).read (t :: tokens) := by
  apply Settled.nested (fun level us => level.formula.read us >>= fun r =>
    Parser.expect .closing (.token .closing) r.2 >>= fun close =>
      .ok (r.1.withSpan (t.span.union close.1.span), close.2)) fun us => readUnary_opening ht
  intro inner hl
  rw [level_eq]
  apply Settled.bind ((hi inner hl).joined .iff tokens)
  intro f rest _
  exact .map (.expect _ _ rest) fun close => f.withSpan (t.span.union close.span)

include hi in
theorem settled_unary (tokens : List Token) : Settled (unary (inside levels)).read tokens := by
  cases tokens with
  | nil =>
      apply Settled.stop (.error ⟨.formula, []⟩)
      intro us hu
      rw [List.head?_eq_none_iff.1 hu]
      rfl
  | cons t rest =>
      cases hk : t.kind with
      | not => exact settled_negated hi hk rest
      | forAll => exact settled_quantified (q := .forAll) hi hk rest
      | forSome => exact settled_quantified (q := .forSome) hi hk rest
      | opening => exact settled_parenthesised hi hk rest
      | identifier =>
          have hr : Settled (fun us => (term (inside levels)).read us >>= fun r => related (inside levels) r.1 r.2)
              (t :: rest) :=
            .bind (settled_term hi (t :: rest)) fun a rest' _ => settled_related (settled_term hi) a rest'
          apply hr.of_eq
          intro us hu
          obtain ⟨us, rfl⟩ := List.head?_eq_some_iff.1 hu
          exact readUnary_name hk us
      | _ =>
          apply Settled.stop (.error ⟨.formula, []⟩)
          intro us hu
          obtain ⟨us, rfl⟩ := List.head?_eq_some_iff.1 hu
          show readUnary (inside levels) (t :: us) = _
          rw [readUnary, hk]
          rfl

include hi in
theorem settled_joined (c : Connective) (tokens : List Token) :
    Settled (joinedReader (inside levels) c).read tokens := by
  have step (c : Connective) (hc : c.isLeftAssociative)
      (ho : ∀ tokens, Settled (operandReader (inside levels) c).read tokens) (tokens : List Token) :
      Settled (joinedReader (inside levels) c).read tokens :=
    .of_eq (.bind (ho tokens) fun f rest _ => settled_goOn hc ho f rest) fun us _ => read_joined _ _ us
  have hor := step .or rfl (step .and rfl (settled_unary hi))
  have himplies (tokens : List Token) : Settled (joinedReader (inside levels) .implies).read tokens :=
    .bind (hor tokens) fun f rest _ => settled_consequent hi f rest
  cases c with
  | and => exact step .and rfl (settled_unary hi) tokens
  | or => exact hor tokens
  | implies => exact himplies tokens
  | iff => exact step .iff rfl himplies tokens

end

/-- At every level the readers look no further than the next token. -/
theorem foresees (levels : Nat) : Foresees levels :=
  level_induction (fun _ hi => ⟨settled_joined hi, settled_unary hi, settled_term hi⟩) levels

end FormulaDiagram.Parser
