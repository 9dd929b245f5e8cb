import FormulaDiagram.Proofs.Grammar.Outcome

/-!
Going as far to the right as possible is the same as not stopping in front of one's own sign. A chain in front of
which its sign stands could be longer, because an operand follows the sign in every derivation of a whole text.
Conversely, whatever the grammar derives is derived with every chain and every body taken as far as it goes, by
handing what follows a body to the body; and a phrase that its sign does not follow is all that can be read. So
the parser returns a formula exactly for the tokens that the grammar derives within the limit of nesting, and
returns the tree of the derivation in which everything goes as far to the right as it can.
-/

namespace FormulaDiagram.Grammar

open FormulaDiagram.Parser
open Category (operand right)

theorem tokenKind_injective {c c' : Connective} (h : c.tokenKind = c'.tokenKind) : c = c' := by
  cases c <;> cases c' <;> first | rfl | cases h

theorem right_of_isLeftAssociative {c : Connective} (hc : c.isLeftAssociative) : right c = operand c := by
  cases c <;> first | rfl | cases hc

theorem eq_implies_of_not {c : Connective} (hc : ¬c.isLeftAssociative) : c = .implies := by
  cases c <;> first | rfl | exact absurd rfl hc

theorem tokenKind_ne_opening (c : Connective) : c.tokenKind ≠ .opening := by
  cases c <;> decide

/-- A connective goes on with nothing but what it joins. -/
theorem goesOn_connective {category : Category} (c : Connective) (hc : category ≠ .joined c) :
    category.goesOn c.tokenKind = false := by
  cases category with
  | joined c' => exact decide_eq_false fun h => hc (congrArg _ (tokenKind_injective h).symm)
  | _ => cases c <;> rfl

/-! ### Handing what follows to the body -/

namespace Spells

variable {category : Category} {ts us rest : List Token} {t : Token} {c : Connective} {f g : Formula} {m n : Nat}

/-- Implications are not rows, so what may be the beginning of one is an operand. -/
theorem operand_of_implies {ends : Category → List Token → List Token → Prop}
    (h : Spells ends (.chain .implies) ts rest (.formula f) n) :
    Spells ends (.joined .or) ts rest (.formula f) n := by
  cases h with
  | operand h => exact h
  | further hc => cases hc

/-- A row of operands behind which its sign and another operand stand is a longer row. -/
theorem further_right (hs : Spells NotFollowed (.chain c) ts (t :: us) (.formula f) m) (ht : t.kind = c.tokenKind)
    (hu : Spells NotFollowed (right c) us [] (.formula g) n) :
    ∃ n', Spells NotFollowed (.joined c) (ts ++ t :: us) [] (.formula (.join c f g)) n' := by
  by_cases hc : c.isLeftAssociative
  · rw [right_of_isLeftAssociative hc] at hu
    exact ⟨_, .whole (.further hc (hs.of_next _) ht hu) (notFollowed_nil _ _)⟩
  · cases eq_implies_of_not hc
    exact ⟨_, .implication (hs.operand_of_implies.of_next _) ht hu⟩

/-- A term ends in front of everything but an opening parenthesis. -/
theorem term_of_next {a : Term} (h : Spells NotFollowed .term ts [] (.term a) n) (ht : t.kind ≠ .opening)
    (rest : List Token) : Spells NotFollowed .term ts (t :: rest) (.term a) n := by
  refine h.of_rest fun category hc _ => ?_
  cases of_decide_eq_true hc
  rw [notFollowed_cons]
  exact decide_eq_false ht

/-- A formula in front of a connective and what belongs to its right either ends there, or it ends in a body
that takes them in. The induction is on the formula; only its last part matters, so the rest is empty. -/
theorem absorbs {p : Phrase} (hs : Spells NotFollowed category ts rest p m) (hc : category.isTerm = false)
    (hr : rest = []) (ht : t.kind = c.tokenKind) (hu : Spells NotFollowed (right c) us [] (.formula g) n) :
    (∃ f n', Spells NotFollowed category (ts ++ t :: us) [] (.formula f) n') ∨
      ∀ rest', Spells NotFollowed category ts (t :: rest') p m := by
  induction hs with
  | operand _ ih =>
      rcases ih (Category.isTerm_operand _) hr with ⟨f, n', h⟩ | h
      · exact .inl ⟨f, n', .operand h⟩
      · exact .inr fun rest' => .operand (h rest')
  | further hc' hf ht' _ _ ih =>
      rcases ih (Category.isTerm_operand _) hr with ⟨f, n', h⟩ | h
      · have h' := Spells.further hc' (hf.of_next _) ht' h
        rw [← List.cons_append, ← List.append_assoc] at h'
        exact .inl ⟨_, _, h'⟩
      · exact .inr fun rest' => .further hc' (hf.of_next _) ht' (h rest')
  | @whole c' _ _ f _ _ _ ih =>
      rcases ih rfl hr with ⟨f, n', h⟩ | h
      · exact .inl ⟨f, n', .whole h (notFollowed_nil _ _)⟩
      · -- Either the sign is that of the row, which goes on with it, or it belongs to a row further out.
        by_cases hcc : c' = c
        · subst hcc
          obtain ⟨n', h'⟩ := (h us).further_right ht hu
          exact .inl ⟨_, n', h'⟩
        · refine .inr fun rest' => .whole (h rest') ?_
          rw [notFollowed_cons, ht]
          exact goesOn_connective c fun h => hcc (Category.joined.inj h)
  | implication hf ht' _ _ ih =>
      rcases ih rfl hr with ⟨f, n', h⟩ | h
      · have h' := Spells.implication (hf.of_next _) ht' h
        rw [← List.cons_append, ← List.append_assoc] at h'
        exact .inl ⟨_, _, h'⟩
      · exact .inr fun rest' => .implication (hf.of_next _) ht' (h rest')
  | negation ht' _ ih =>
      rcases ih rfl hr with ⟨f, n', h⟩ | h
      · exact .inl ⟨_, _, .negation ht' h⟩
      · exact .inr fun rest' => .negation ht' (h rest')
  | quantified q ht' hb hd _ ih =>
      rcases ih rfl hr with ⟨f, n', h⟩ | h
      · exact .inl ⟨_, _, .quantified q ht' hb hd h⟩
      · exact .inr fun rest' => .quantified q ht' hb hd (h rest')
  | parenthesised ht' hf hc' _ => exact .inr fun rest' => .parenthesised ht' (hf.of_next _) hc'
  | lone ha _ _ =>
      subst hr
      refine .inr fun rest' => .lone (ha.term_of_next (ht ▸ tokenKind_ne_opening c) rest') ?_
      rw [notFollowed_cons, ht]
      exact goesOn_connective c nofun
  | equality negated ha ht' hb _ _ =>
      subst hr
      have hne : t.kind ≠ .opening := ht ▸ tokenKind_ne_opening c
      exact .inr fun rest' => .equality negated (ha.of_next _) ht' (hb.term_of_next hne rest')
  | _ => cases hc

end Spells

/-- Every derivation of a text can be brought into the form in which nothing stops in front of its own sign. -/
theorem Derives.spells {category : Category} {kinds : List TokenKind} (h : Derives category kinds)
    (ts : List Token) (ht : ts.map Token.kind = kinds) : ∃ p n, Spells NotFollowed category ts [] p n := by
  induction h generalizing ts with
  | @operand c _ _ ih =>
      obtain ⟨p, n, hs⟩ := ih ts ht
      obtain ⟨f, rfl⟩ := hs.exists_formula (Category.isTerm_operand c)
      exact ⟨_, n, .operand hs⟩
  | @further c _ _ hc _ _ ihf ihg =>
      obtain ⟨us, t, vs, rfl, hu, hk, hv⟩ := exists_of_map_mark ht
      obtain ⟨p, m, hf⟩ := ihf us hu
      obtain ⟨q, n, hg⟩ := ihg vs hv
      obtain ⟨f, rfl⟩ := hf.exists_formula rfl
      obtain ⟨g, rfl⟩ := hg.exists_formula (Category.isTerm_operand c)
      -- The last body on the left may take the sign and the operand, and is then the longest it can be.
      rcases hf.absorbs rfl rfl hk (right_of_isLeftAssociative hc ▸ hg) with ⟨f', n', h⟩ | h
      · exact ⟨_, n', h⟩
      · exact ⟨_, _, .further hc (h _) hk hg⟩
  | whole _ ih =>
      obtain ⟨p, n, hs⟩ := ih ts ht
      obtain ⟨f, rfl⟩ := hs.exists_formula rfl
      exact ⟨_, n, .whole hs (notFollowed_nil _ _)⟩
  | implication _ _ ihf ihg =>
      obtain ⟨us, t, vs, rfl, hu, hk, hv⟩ := exists_of_map_mark ht
      obtain ⟨p, m, hf⟩ := ihf us hu
      obtain ⟨q, n, hg⟩ := ihg vs hv
      obtain ⟨f, rfl⟩ := hf.exists_formula rfl
      obtain ⟨g, rfl⟩ := hg.exists_formula rfl
      rcases hf.absorbs (c := .implies) rfl rfl hk hg with ⟨f', n', h⟩ | h
      · exact ⟨_, n', .whole (.operand (c := .implies) h) (notFollowed_nil _ _)⟩
      · exact ⟨_, _, .implication (h _) hk hg⟩
  | negation _ ih =>
      obtain ⟨t, us, rfl, hk, hu⟩ := List.map_eq_cons_iff.1 ht
      obtain ⟨p, n, hs⟩ := ih us hu
      obtain ⟨f, rfl⟩ := hs.exists_formula rfl
      exact ⟨_, _, .negation hk hs⟩
  | quantified q _ ih =>
      obtain ⟨t, _, rfl, hk, ht⟩ := List.map_eq_cons_iff.1 ht
      obtain ⟨bound, _, rfl, hb, ht⟩ := List.map_eq_cons_iff.1 ht
      obtain ⟨dot, us, rfl, hd, hu⟩ := List.map_eq_cons_iff.1 ht
      obtain ⟨p, n, hs⟩ := ih us hu
      obtain ⟨f, rfl⟩ := hs.exists_formula rfl
      exact ⟨_, _, .quantified q hk hb hd hs⟩
  | parenthesised _ ih =>
      obtain ⟨t, us, close, rfl, hk, hu, hc⟩ := exists_of_map_enclosed ht
      obtain ⟨p, n, hs⟩ := ih us hu
      obtain ⟨f, rfl⟩ := hs.exists_formula rfl
      exact ⟨_, _, .parenthesised hk (hs.of_stops (stops_closing [] hc)) hc⟩
  | lone _ ih =>
      obtain ⟨p, n, hs⟩ := ih ts ht
      obtain ⟨a, rfl⟩ := hs.exists_term
      exact ⟨_, n, .lone hs (notFollowed_nil _ _)⟩
  | equality negated _ _ iha ihb =>
      obtain ⟨us, t, vs, rfl, hu, hk, hv⟩ := exists_of_map_mark ht
      obtain ⟨p, m, ha⟩ := iha us hu
      obtain ⟨q, n, hb⟩ := ihb vs hv
      obtain ⟨a, rfl⟩ := ha.exists_term
      obtain ⟨b, rfl⟩ := hb.exists_term
      refine ⟨_, _, .equality negated (ha.term_of_next ?_ _) hk hb⟩
      rw [hk]
      cases negated <;> decide
  | name =>
      obtain ⟨t, rfl, hk⟩ := List.map_eq_singleton_iff.1 ht
      exact ⟨_, _, .name hk (notFollowed_nil _ _)⟩
  | constant =>
      obtain ⟨t, _, rfl, hk, ht⟩ := List.map_eq_cons_iff.1 ht
      obtain ⟨opening, _, rfl, ho, ht⟩ := List.map_eq_cons_iff.1 ht
      obtain ⟨close, rfl, hc⟩ := List.map_eq_singleton_iff.1 ht
      exact ⟨_, _, .constant hk ho hc⟩
  | application _ ih =>
      obtain ⟨t, _, rfl, hk, ht⟩ := List.map_eq_cons_iff.1 ht
      obtain ⟨opening, us, close, rfl, ho, hu, hc⟩ := exists_of_map_enclosed ht
      obtain ⟨p, n, hs⟩ := ih us hu
      obtain ⟨as, rfl⟩ := hs.exists_terms
      exact ⟨_, _, .application hk ho (hs.of_stops (stops_closing [] hc)) hc⟩
  | last _ ih =>
      obtain ⟨p, n, hs⟩ := ih ts ht
      obtain ⟨a, rfl⟩ := hs.exists_term
      exact ⟨_, n, .last hs (notFollowed_nil _ _)⟩
  | more _ _ iha ihas =>
      obtain ⟨us, t, vs, rfl, hu, hk, hv⟩ := exists_of_map_mark ht
      obtain ⟨p, m, ha⟩ := iha us hu
      obtain ⟨q, n, has⟩ := ihas vs hv
      obtain ⟨a, rfl⟩ := ha.exists_term
      obtain ⟨as, rfl⟩ := has.exists_terms
      refine ⟨_, _, .more (ha.term_of_next ?_ _) hk has⟩
      rw [hk]
      decide

/-! ### The two conditions on ends -/

/-- What the next token does not go on with is as long as it can be. -/
theorem longest_of_notFollowed {c : Connective} {ts rest : List Token} {f : Formula} {n : Nat}
    (h : Spells NotFollowed (.joined c) ts rest (.formula f) n) : Longest (.joined c) ts rest := by
  intro more hne hpre hd
  obtain ⟨rest', rfl⟩ := hpre
  obtain ⟨p, m, hs⟩ := hd.spells _ rfl
  obtain ⟨g, rfl⟩ := hs.exists_formula rfl
  cases more with
  | nil => exact hne rfl
  | cons t more =>
      -- In front of nothing the shorter and the longer phrase would both be what is read.
      have h' := h.of_next more
      obtain ⟨-, hrest, -⟩ := h'.unique hs (List.append_nil _).symm
      cases hrest

/-- Spelling with the look at the next token is spelling with the longest stretches. -/
theorem Spells.longest {category : Category} {ts rest : List Token} {p : Phrase} {n : Nat}
    (h : Spells NotFollowed category ts rest p n) : Spells Longest category ts rest p n := by
  induction h with
  | operand _ ih => exact .operand ih
  | further hc _ ht _ ihf ihg => exact .further hc ihf ht ihg
  | whole hs he ih => exact .whole ih (longest_of_notFollowed (.whole hs he))
  | implication _ ht _ ihf ihg => exact .implication ihf ht ihg
  | negation ht _ ih => exact .negation ht ih
  | quantified q ht hb hd _ ih => exact .quantified q ht hb hd ih
  | parenthesised ht _ hc ih => exact .parenthesised ht ih hc
  | lone _ _ ih => exact .lone ih trivial
  | equality negated _ ht _ iha ihb => exact .equality negated iha ht ihb
  | name ht _ => exact .name ht trivial
  | constant ht ho hc => exact .constant ht ho hc
  | application ht ho _ hc ih => exact .application ht ho ih hc
  | last _ _ ih => exact .last ih trivial
  | more _ ht _ iha ihas => exact .more iha ht ihas

/-- The rest could follow a phrase of the category in a derivation: only connectives go on with what may end the
phrase, and what belongs to the right of a connective follows it. -/
structure Continues (category : Category) (rest : List Token) : Prop where
  ends (c : Category) : c.endsIn category → (∀ d, c ≠ .joined d) → NotFollowed c [] rest
  connective (c : Connective) (t : Token) (more : List Token) : rest = t :: more → t.kind = c.tokenKind →
    ∃ us rest', more = us ++ rest' ∧ Derives (right c) (us.map Token.kind)

namespace Continues

variable {category category' : Category} {rest : List Token} {c : Connective} {t : Token}

theorem of_stops (h : Stops rest) : Continues category rest where
  ends c _ _ := h c
  connective c t more hr ht := by
    have hn := h (.joined c)
    rw [hr, notFollowed_cons] at hn
    exact absurd (decide_eq_true ht) (Bool.eq_false_iff.1 hn)

theorem mono (h : Continues category rest)
    (hc : ∀ c : Category, c.endsIn category' → c.endsIn category) : Continues category' rest :=
  ⟨fun c hc' => h.ends c (hc c hc'), h.connective⟩

/-- In front of a connective and what belongs to its right. -/
theorem of_connective {us : List Token} (ht : t.kind = c.tokenKind) (hu : Derives (right c) (us.map Token.kind)) :
    Continues category (t :: us ++ rest) where
  ends c' _ hc := by
    rw [List.cons_append, notFollowed_cons, ht]
    exact goesOn_connective c (hc c)
  connective c' u more hr hk := by
    cases hr
    cases tokenKind_injective (ht.symm.trans hk)
    exact ⟨us, rest, rfl, hu⟩

/-- A term in front of anything that is not an opening parenthesis and not a connective. -/
theorem of_ne_opening (ht : t.kind ≠ .opening) (hc : ∀ c : Connective, t.kind ≠ c.tokenKind) :
    Continues .term (t :: rest) where
  ends c h _ := by
    cases of_decide_eq_true h
    rw [notFollowed_cons]
    exact decide_eq_false ht
  connective c u more hr hk := by
    cases hr
    exact absurd hk (hc c)

end Continues

/-- A row that is as long as it can be does not stop in front of its sign. -/
theorem notFollowed_of_longest {c : Connective} {ts rest : List Token} {f : Formula} {n : Nat}
    (hs : Spells Longest (.chain c) ts rest (.formula f) n) (hl : Longest (.joined c) ts rest)
    (hr : Continues (.joined c) rest) : NotFollowed (.joined c) ts rest := by
  by_cases hn : NotFollowed (.joined c) ts rest
  · exact hn
  obtain ⟨t, more, rfl, ht⟩ := followed hn
  replace ht : t.kind = c.tokenKind := of_decide_eq_true ht
  obtain ⟨us, rest', rfl, hu⟩ := hr.connective c t more rfl ht
  refine (hl (t :: us) (List.cons_ne_nil _ _) ⟨rest', rfl⟩ ?_).elim
  rw [List.map_append, List.map_cons, ht]
  by_cases hc : c.isLeftAssociative
  · rw [right_of_isLeftAssociative hc] at hu
    exact .whole (.further hc hs.derives hu)
  · cases eq_implies_of_not hc
    exact .implication hs.operand_of_implies.derives hu

/-- Where the rest could follow in a derivation, the longest stretches are those that the look at the next token
ends. -/
theorem Spells.notFollowed {category : Category} {ts rest : List Token} {p : Phrase} {n : Nat}
    (h : Spells Longest category ts rest p n) (hr : Continues category rest) :
    Spells NotFollowed category ts rest p n := by
  induction h with
  | operand _ ih => exact .operand (ih (hr.mono fun _ _ => rfl))
  | further hc _ ht hg ihf ihg =>
      refine .further hc (ihf (.of_connective ht ?_)) ht (ihg (hr.mono fun _ _ => rfl))
      rw [right_of_isLeftAssociative hc]
      exact hg.derives
  | whole hs he ih => exact .whole (ih (hr.mono fun _ _ => rfl)) (notFollowed_of_longest hs he hr)
  | implication _ ht hg ihf ihg =>
      exact .implication (ihf (.of_connective (c := .implies) ht hg.derives)) ht (ihg hr)
  | negation ht _ ih => exact .negation ht (ih hr)
  | quantified q ht hb hd _ ih => exact .quantified q ht hb hd (ih (hr.mono fun _ _ => rfl))
  | parenthesised ht _ hc ih => exact .parenthesised ht (ih (.of_stops (stops_closing _ hc))) hc
  | lone _ _ ih => exact .lone (ih (hr.mono fun _ _ => rfl)) (hr.ends .unary rfl nofun)
  | equality negated _ ht _ iha ihb =>
      refine .equality negated (iha (.of_ne_opening ?_ fun c => ?_)) ht (ihb (hr.mono fun _ _ => rfl))
      · rw [ht]
        cases negated <;> decide
      · rw [ht]
        cases negated <;> cases c <;> decide
  | name ht _ => exact .name ht (hr.ends .term rfl nofun)
  | constant ht ho hc => exact .constant ht ho hc
  | application ht ho _ hc ih => exact .application ht ho (ih (.of_stops (stops_closing _ hc))) hc
  | last _ _ ih =>
      refine .last (ih (hr.mono fun c hc => ?_)) (hr.ends .terms rfl nofun)
      cases of_decide_eq_true hc
      rfl
  | more _ ht _ iha ihas =>
      refine .more (iha (.of_ne_opening ?_ fun c => ?_)) ht (ihas hr)
      · rw [ht]
        decide
      · rw [ht]
        cases c <;> decide

theorem spells_longest_iff {tokens : List Token} {f : Formula} {n : Nat} :
    Spells Longest .formula tokens [] (.formula f) n ↔ Spells NotFollowed .formula tokens [] (.formula f) n :=
  ⟨fun h => h.notFollowed (.of_stops stops_nil), Spells.longest⟩

/-! ### All the tokens -/

/-- The whole is read as a formula behind which there may be no tokens. -/
theorem whole_eq (tokens : List Token) :
    Parser.whole tokens = (joinedReader (inside maxNesting) .iff).read tokens >>= fun r =>
      match r.2 with
      | [] => .ok r.1
      | t :: rest => .error ⟨.endOfInput, t :: rest⟩ := by
  rw [Parser.whole, level_eq]
  rfl

/-- Tokens that spell a formula are read as it if no more openings are nested than there may be. -/
theorem Spells.whole_eq_ok {tokens : List Token} {f : Formula} {n : Nat}
    (h : Spells NotFollowed .formula tokens [] (.formula f) n) (hn : n ≤ maxNesting) :
    Parser.whole tokens = .ok f := by
  have hr := (h.reads maxNesting).1 hn
  rw [List.append_nil] at hr
  rw [whole_eq, hr]
  rfl

/-- If more openings are nested, the error is that the limit is exceeded. -/
theorem Spells.whole_eq_error {tokens : List Token} {f : Formula} {n : Nat}
    (h : Spells NotFollowed .formula tokens [] (.formula f) n) (hn : maxNesting < n) :
    ∃ rest, Parser.whole tokens = .error ⟨.nestingLimit maxNesting, rest⟩ := by
  obtain ⟨rest, hr⟩ := (h.reads maxNesting).2 hn
  rw [List.append_nil] at hr
  refine ⟨rest, ?_⟩
  rw [whole_eq, hr]
  rfl

theorem whole_eq_ok_iff {tokens : List Token} {f : Formula} :
    whole tokens = .ok f ↔ ∃ n, n ≤ maxNesting ∧ Spells NotFollowed .formula tokens [] (.formula f) n := by
  constructor
  · intro h
    rw [whole_eq, bind_eq_ok] at h
    obtain ⟨⟨g, rest⟩, hg, h⟩ := h
    have hs := (sound maxNesting).joined .iff tokens
    rw [hg] at hs
    obtain ⟨ts, n, rfl, hn, hs⟩ := hs
    cases rest with
    | nil =>
        cases h
        rw [List.append_nil]
        exact ⟨n, hn, hs⟩
    | cons t rest => cases h
  · rintro ⟨n, hn, h⟩
    exact h.whole_eq_ok hn

theorem ofTokens_iff (tokens : List Token) (sourceLength : Nat) (f : Formula) :
    Formula.ofTokens tokens sourceLength = .ok f ↔
      ∃ n, n ≤ maxNesting ∧ Spells Longest .formula tokens [] (.formula f) n := by
  simp only [spells_longest_iff, ← whole_eq_ok_iff, Formula.ofTokens]
  cases Parser.whole tokens with
  | ok g => exact ⟨fun h => by cases h; rfl, fun h => by cases h; rfl⟩
  | error e => exact ⟨nofun, nofun⟩

/-- Whatever the grammar derives as a formula has a derivation in which everything goes as far as it can. -/
theorem derives_iff {tokens : List Token} :
    Derives .formula (tokens.map Token.kind) ↔ ∃ f n, Spells Longest .formula tokens [] (.formula f) n := by
  constructor
  · intro h
    obtain ⟨p, n, hs⟩ := h.spells tokens rfl
    obtain ⟨f, rfl⟩ := hs.exists_formula rfl
    exact ⟨f, n, hs.longest⟩
  · rintro ⟨f, n, h⟩
    exact h.derives

/-- The parser returns a formula exactly for the tokens that have a derivation of it from the grammar in which
every row and every body goes as far to the right as it can, with no more openings nested in one another than
there may be. Tokens whose kinds the grammar derives have such a derivation apart from the limit, of one formula
only. -/
theorem ofTokens_eq_ok_iff (tokens : List Token) (sourceLength : Nat) :
    (∀ f, Formula.ofTokens tokens sourceLength = .ok f ↔
      ∃ n, n ≤ maxNesting ∧ Spells Longest .formula tokens [] (.formula f) n) ∧
    (Derives .formula (tokens.map Token.kind) ↔ ∃ f n, Spells Longest .formula tokens [] (.formula f) n) ∧
    ∀ f g m n, Spells Longest .formula tokens [] (.formula f) m →
      Spells Longest .formula tokens [] (.formula g) n → f = g ∧ m = n := by
  refine ⟨ofTokens_iff tokens sourceLength, derives_iff, fun f g m n hf hg => ?_⟩
  obtain ⟨hfg, -, hmn⟩ := (spells_longest_iff.1 hf).unique (spells_longest_iff.1 hg) rfl
  exact ⟨hfg, hmn⟩

end FormulaDiagram.Grammar
