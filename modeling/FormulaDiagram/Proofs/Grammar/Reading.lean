import FormulaDiagram.Proofs.Grammar.Basic

/-!
The parser reads what the grammar spells. In front of any rest that does not go on with it, a phrase is read by
the reader of its category exactly if no more openings are nested in it than there are levels left. If more are
nested, the answer is that the limit is exceeded, and not another error or another phrase. The readers of the
four connectives are treated as one: an operand is read, and then the row goes on behind it.
-/

namespace FormulaDiagram

namespace Parser

/-- The level inside, if a number of levels may still be opened. -/
def inside : Nat → Option Level
  | 0 => none
  | levels + 1 => some (level levels)

theorem level_eq (levels : Nat) : level levels = levelAround (inside levels) := by
  cases levels <;> rfl

/-- The readers of a level are built from those of the next level inwards, if there may be one. -/
theorem level_induction {P : Nat → Prop} (h : ∀ levels, (∀ left, levels = left + 1 → P left) → P levels)
    (levels : Nat) : P levels := by
  induction levels with
  | zero => exact h 0 fun left hl => by cases hl
  | succ levels ih =>
      apply h (levels + 1)
      intro left hl
      cases hl
      exact ih

/-- The reader of what a connective joins. -/
def joinedReader (inner : Option Level) : Connective → Reader Formula
  | .iff => formula inner
  | .implies => implication inner
  | .or => disjunction inner
  | .and => conjunction inner

/-- The reader of what stands between the signs of a connective. -/
def operandReader (inner : Option Level) : Connective → Reader Formula
  | .iff => implication inner
  | .implies => disjunction inner
  | .or => conjunction inner
  | .and => unary inner

/-- What is read behind the operands of a connective that were read so far. -/
def goOn (inner : Option Level) (c : Connective) (left : Formula) (tokens : List Token) :
    Except Failure (Reading Formula) :=
  if c.isLeftAssociative then chain c (operandReader inner c) left tokens else consequent inner left tokens

theorem read_joined (inner : Option Level) (c : Connective) (tokens : List Token) :
    (joinedReader inner c).read tokens =
      (operandReader inner c).read tokens >>= fun r => goOn inner c r.1 r.2 := by
  cases c <;> rfl

/-- A row ends where its sign does not follow. -/
theorem goOn_of_notFollowed {inner : Option Level} {c : Connective} {left : Formula} {rest : List Token}
    (h : ∀ t ∈ rest.head?, t.kind ≠ c.tokenKind) : goOn inner c left rest = .ok (left, rest) := by
  cases rest with
  | nil =>
      rw [goOn, chain]
      split <;> rfl
  | cons t rest =>
      have ht : t.kind ≠ c.tokenKind := h t rfl
      rw [goOn]
      split
      · rw [chain, if_neg ht]
      · have hc : c = .implies := by
          cases c <;> first | rfl | contradiction
        subst hc
        exact if_neg ht

/-- A row that groups to the left takes the operand behind its sign. -/
theorem goOn_of_operand {inner : Option Level} {c : Connective} (hc : c.isLeftAssociative) {t : Token}
    (ht : t.kind = c.tokenKind) (left : Formula) (tokens : List Token) :
    goOn inner c left (t :: tokens) =
      (operandReader inner c).read tokens >>= fun r => goOn inner c (.join c left r.1) r.2 := by
  simp only [goOn, if_pos hc]
  rw [chain, if_pos ht]
  split <;> rename_i h <;> rw [h] <;> rfl

/-- What follows a name that begins an atom is read as a term, and then perhaps a relation and another term. -/
def related (inner : Option Level) (left : Term) (tokens : List Token) : Except Failure (Reading Formula) :=
  match tokens with
  | [] => .ok (Grammar.lone left, [])
  | t :: rest =>
    if t.kind = .equals ∨ t.kind = .notEquals then do
      let (right, rest) ← (term inner).read rest
      .ok (Grammar.equality left right (t.kind = .notEquals), rest)
    else .ok (Grammar.lone left, t :: rest)

theorem atom_eq {inner : Option Level} {t : Token} (ht : t.kind = .identifier) (rest : List Token) :
    atom inner t rest = (term inner).read (t :: rest) >>= fun r => related inner r.1 r.2 := by
  have hn : (term inner).read (t :: rest) = application inner t rest := by
    simp only [term, expect, ht, if_pos]
    rfl
  rw [hn]
  rfl

theorem readUnary_name {inner : Option Level} {t : Token} (ht : t.kind = .identifier) (rest : List Token) :
    (unary inner).read (t :: rest) = (term inner).read (t :: rest) >>= fun r => related inner r.1 r.2 := by
  rw [← atom_eq ht]
  simp only [unary, readUnary, ht]

theorem related_of_notFollowed {inner : Option Level} {a : Term} {rest : List Token}
    (h : Grammar.NotFollowed .unary [] rest) : related inner a rest = .ok (Grammar.lone a, rest) := by
  cases rest with
  | nil => rfl
  | cons t rest =>
      have ht := Grammar.notFollowed_cons.1 h
      simp only [Grammar.Category.goesOn, Bool.or_eq_false_iff, decide_eq_false_iff_not] at ht
      exact if_neg (not_or.2 ht)

theorem related_of_sign {inner : Option Level} {t : Token} {negated : Bool}
    (ht : t.kind = if negated then .notEquals else .equals) (a : Term) (tokens : List Token) :
    related inner a (t :: tokens) =
      (term inner).read tokens >>= fun r => .ok (Grammar.equality a r.1 negated, r.2) := by
  have hs : t.kind = .equals ∨ t.kind = .notEquals := by
    cases negated with
    | false => exact .inl ht
    | true => exact .inr ht
  have hn : decide (t.kind = .notEquals) = negated := by
    rw [ht]
    cases negated <;> rfl
  rw [related, if_pos hs, hn]

/-- What is read behind the terms of a list that were read so far, the last of them first. -/
def goOnTerms (reader : Reader Term) (before : List Term) (tokens : List Token) :
    Except Failure (Reading (List Term)) :=
  match tokens with
  | [] => .ok (before.reverse, [])
  | t :: rest =>
    if t.kind = .comma then separated reader before rest else .ok (before.reverse, t :: rest)

theorem separated_eq (reader : Reader Term) (before : List Term) (tokens : List Token) :
    separated reader before tokens = reader.read tokens >>= fun r => goOnTerms reader (r.1 :: before) r.2 := by
  rw [separated]
  split <;> rename_i h <;> rw [h] <;> rfl

theorem goOnTerms_of_notFollowed {reader : Reader Term} {before : List Term} {tokens : List Token}
    (h : Grammar.NotFollowed .terms [] tokens) :
    goOnTerms reader before tokens = .ok (before.reverse, tokens) := by
  cases tokens with
  | nil => rfl
  | cons t rest =>
      have ht := Grammar.notFollowed_cons.1 h
      simp only [Grammar.Category.goesOn, decide_eq_false_iff_not] at ht
      exact if_neg ht

/-! ### The readers by the kind of the next token -/

theorem expect_of_kind {kind : TokenKind} {t : Token} (ht : t.kind = kind) (expected : Expected)
    (tokens : List Token) : expect kind expected (t :: tokens) = .ok (t, tokens) :=
  if_pos ht

section

variable {inner : Option Level} {t : Token} {tokens : List Token}

theorem readUnary_not (ht : t.kind = .not) : (unary inner).read (t :: tokens) = negated inner t tokens := by
  simp only [unary, readUnary, ht]

theorem readUnary_quantifier {q : Quantifier} (ht : t.kind = q.tokenKind) :
    (unary inner).read (t :: tokens) = quantified inner q t tokens := by
  cases q <;> simp only [unary, readUnary, ht, Quantifier.tokenKind]

theorem readUnary_opening (ht : t.kind = .opening) :
    (unary inner).read (t :: tokens) = parenthesised inner t tokens := by
  simp only [unary, readUnary, ht]

theorem quantified_of_head {q : Quantifier} {bound dot : Token} (hb : bound.kind = .identifier)
    (hd : dot.kind = .dot) :
    quantified inner q t (bound :: dot :: tokens) =
      nested inner (t :: bound :: dot :: tokens) >>= fun level => level.formula.read tokens >>= fun r =>
        .ok (.quantify q ⟨bound.text, bound.span⟩ r.1 (t.span.union r.1.span), r.2) := by
  rw [quantified, expect_of_kind hb]
  refine congrArg (nested inner _ >>= ·) (funext fun level => ?_)
  show (expect .dot (.token .dot) (dot :: tokens) >>= _) = _
  rw [expect_of_kind hd]
  rfl

theorem read_term (ht : t.kind = .identifier) :
    (term inner).read (t :: tokens) = application inner t tokens := by
  simp only [term, expect_of_kind ht]
  rfl

theorem application_of_notFollowed (h : Grammar.NotFollowed .term [] tokens) :
    application inner t tokens = .ok (.variable t.text t.span, tokens) := by
  cases tokens with
  | nil => rfl
  | cons u us =>
      have hu := Grammar.notFollowed_cons.1 h
      simp only [Grammar.Category.goesOn, decide_eq_false_iff_not] at hu
      exact if_neg hu

/-- An argument list is empty or it is not. -/
theorem closing_or (tokens : List Token) :
    (∃ close rest, tokens = close :: rest ∧ close.kind = .closing) ∨ ∀ t ∈ tokens.head?, t.kind ≠ .closing := by
  cases tokens with
  | nil => exact .inr fun t ht => by cases ht
  | cons close rest =>
      by_cases hc : close.kind = .closing
      · exact .inl ⟨close, rest, rfl, hc⟩
      · refine .inr fun t ht => ?_
        cases ht
        exact hc

theorem arguments_of_closing {reader : Reader Term} (ht : t.kind = .closing) :
    arguments reader (t :: tokens) = .ok (([], t), tokens) := by
  rw [arguments, expect_of_kind ht]

theorem arguments_of_not_closing {reader : Reader Term} (h : ∀ t ∈ tokens.head?, t.kind ≠ .closing) :
    arguments reader tokens = separated reader [] tokens >>= fun r =>
      expect .closing (.token .closing) r.2 >>= fun q => .ok ((r.1, q.1), q.2) := by
  cases tokens with
  | nil => rfl
  | cons t rest =>
      have ht : t.kind ≠ .closing := h t rfl
      rw [arguments, expect, if_neg ht]

end

/-! ### Outcomes within the limit -/

/-- The outcome `x` is `y` if the nesting is within the levels, and else that the limit is exceeded. -/
def Within {α : Type} (levels nesting : Nat) (x y : Except Failure α) : Prop :=
  (nesting ≤ levels → x = y) ∧ (levels < nesting → ∃ rest, x = .error ⟨.nestingLimit maxNesting, rest⟩)

namespace Within

variable {α β : Type} {levels m n : Nat} {x y z : Except Failure α}

theorem of_eq (h : x = y) : Within levels 0 x y :=
  ⟨fun _ => h, fun hn => absurd hn (Nat.not_lt_zero _)⟩

theorem trans (h : Within levels m x y) (h' : Within levels n y z) : Within levels (max m n) x z := by
  refine ⟨fun hn => ?_, fun hn => ?_⟩
  · rw [h.1 (by omega), h'.1 (by omega)]
  · by_cases hm : m ≤ levels
    · rw [h.1 hm]
      exact h'.2 (by omega)
    · exact h.2 (by omega)

theorem bind {a : α} (h : Within levels n x (.ok a)) (f : α → Except Failure β) :
    Within levels n (x >>= f) (f a) := by
  refine ⟨fun hn => ?_, fun hn => ?_⟩
  · rw [h.1 hn]
    rfl
  · obtain ⟨rest, hx⟩ := h.2 hn
    rw [hx]
    exact ⟨rest, rfl⟩

theorem bind_eq {a : α} {f : α → Except Failure β} {w : Except Failure β} (h : Within levels n x (.ok a))
    (hf : f a = w) : Within levels n (x >>= f) w :=
  hf ▸ h.bind f

/-- An opening takes one level. -/
theorem nested {opening : List Token} {f : Level → Except Failure β} {w : Except Failure β}
    (h : ∀ left, levels = left + 1 → Within left n (f (level left)) w) :
    Within levels (n + 1) (Parser.nested (inside levels) opening >>= f) w := by
  cases levels with
  | zero => exact ⟨fun hn => absurd hn (Nat.not_succ_le_zero n), fun _ => ⟨opening, rfl⟩⟩
  | succ left =>
      obtain ⟨hle, hlt⟩ := h left rfl
      exact ⟨fun hn => hle (Nat.le_of_succ_le_succ hn), fun hn => hlt (Nat.lt_of_succ_lt_succ hn)⟩

end Within

end Parser

namespace Grammar

open FormulaDiagram.Parser

/-- The reader of the category, with a number of levels left, reads the tokens as the phrase if the nesting is
within the levels. Behind a row that may go on, it stands where the row goes on. -/
def Reads (levels nesting : Nat) : Category → List Token → List Token → Phrase → Prop
  | .chain c, ts, rest, .formula f =>
    Within levels nesting ((joinedReader (inside levels) c).read (ts ++ rest)) (goOn (inside levels) c f rest)
  | .joined c, ts, rest, .formula f =>
    Within levels nesting ((joinedReader (inside levels) c).read (ts ++ rest)) (.ok (f, rest))
  | .unary, ts, rest, .formula f =>
    Within levels nesting ((unary (inside levels)).read (ts ++ rest)) (.ok (f, rest))
  | .term, ts, rest, .term a => Within levels nesting ((term (inside levels)).read (ts ++ rest)) (.ok (a, rest))
  | .terms, ts, rest, .terms as =>
    ∀ before, Within levels nesting (separated (term (inside levels)) before (ts ++ rest))
      (.ok (before.reverse ++ as, rest))
  | _, _, _, _ => False

theorem reads_operand {levels nesting : Nat} {c : Connective} {ts rest : List Token} {f : Formula} :
    Reads levels nesting (Category.operand c) ts rest (.formula f) ↔
      Within levels nesting ((operandReader (inside levels) c).read (ts ++ rest)) (.ok (f, rest)) := by
  cases c <;> exact Iff.rfl

theorem goOn_of_joined {levels : Nat} {c : Connective} {f : Formula} {ts rest : List Token}
    (h : NotFollowed (.joined c) ts rest) : goOn (inside levels) c f rest = .ok (f, rest) :=
  goOn_of_notFollowed fun t ht hk => by
    have := h t ht
    simp only [Category.goesOn, hk, decide_true] at this
    cases this

theorem consequent_of_joined {levels : Nat} {f : Formula} {ts rest : List Token}
    (h : NotFollowed (.joined .implies) ts rest) : consequent (inside levels) f rest = .ok (f, rest) := by
  have hg : goOn (inside levels) .implies f rest = .ok (f, rest) := goOn_of_joined h
  rw [goOn, if_neg (by decide)] at hg
  exact hg

/-- The reading of an argument list that is not empty. -/
theorem arguments_of_terms {levels n : Nat} {ts rest : List Token} {as : List Term} {close : Token}
    (hs : Spells NotFollowed .terms ts (close :: rest) (.terms as) n)
    (h : Reads levels n .terms ts (close :: rest) (.terms as)) (hc : close.kind = .closing) :
    Within levels n (arguments (term (inside levels)) (ts ++ close :: rest)) (.ok ((as, close), rest)) := by
  obtain ⟨t, us, rfl, ht⟩ := hs.exists_name rfl
  have hne : ∀ u ∈ (t :: us ++ close :: rest).head?, u.kind ≠ .closing := by
    intro u hu
    cases hu
    rw [ht]
    decide
  rw [arguments_of_not_closing hne]
  refine (h []).bind_eq ?_
  rw [expect_of_kind hc]
  rfl

/-- A phrase is read in front of whatever does not go on with it. The induction is on the derivation; an opening
hands a level less to what it opens, so the levels vary. -/
theorem Spells.reads {category : Category} {ts rest : List Token} {p : Phrase} {n : Nat}
    (h : Spells NotFollowed category ts rest p n) (levels : Nat) : Reads levels n category ts rest p := by
  induction h generalizing levels with
  | operand _ ih =>
      rw [Reads, read_joined]
      exact (reads_operand.1 (ih levels)).bind _
  | further hc _ ht _ ihf ihg =>
      rw [Reads, List.append_assoc]
      refine (ihf levels).trans ?_
      rw [List.cons_append, goOn_of_operand hc ht]
      exact (reads_operand.1 (ihg levels)).bind _
  | whole _ he ih =>
      have := ih levels
      rw [Reads, goOn_of_joined he] at this
      exact this
  | implication _ ht _ ihf ihg =>
      rw [Reads, List.append_assoc, read_joined]
      refine ((ihf levels).bind _).trans ?_
      rw [goOn, if_neg (by decide), List.cons_append, consequent, if_pos ht]
      apply Within.nested
      intro left _
      rw [level_eq]
      exact (ihg left).bind _
  | negation ht _ ih =>
      rw [Reads, List.cons_append, readUnary_not ht, negated]
      apply Within.nested
      intro left _
      rw [level_eq]
      exact (ih left).bind _
  | quantified q ht hb hd _ ih =>
      rw [Reads, List.cons_append, List.cons_append, List.cons_append, readUnary_quantifier ht,
        quantified_of_head hb hd]
      apply Within.nested
      intro left _
      rw [level_eq]
      exact (ih left).bind _
  | parenthesised ht _ hc ih =>
      rw [Reads, List.append_assoc, List.singleton_append, List.cons_append, readUnary_opening ht,
        Parser.parenthesised]
      apply Within.nested
      intro left _
      rw [level_eq]
      refine (ih left).bind_eq ?_
      simp only [expect_of_kind hc]
      rfl
  | lone hs he ih =>
      obtain ⟨t, us, rfl, ht⟩ := hs.exists_name rfl
      rw [Reads, List.cons_append, readUnary_name ht]
      exact (ih levels).bind_eq (related_of_notFollowed he)
  | equality negated hs ht _ iha ihb =>
      obtain ⟨t, us, rfl, hn⟩ := hs.exists_name rfl
      rw [Reads, List.append_assoc, List.cons_append, readUnary_name hn]
      refine ((iha levels).bind _).trans ?_
      rw [List.cons_append, related_of_sign ht]
      exact (ihb levels).bind _
  | name ht he =>
      refine .of_eq ?_
      rw [List.singleton_append, read_term ht]
      exact application_of_notFollowed he
  | constant ht ho hc =>
      rw [Reads, List.cons_append, read_term ht, List.cons_append, Parser.application, if_pos ho]
      refine .nested fun left _ => .of_eq ?_
      rw [List.singleton_append, arguments_of_closing hc]
      rfl
  | application ht ho hs hc ih =>
      rw [Reads, List.append_assoc, List.singleton_append, List.cons_append, read_term ht, List.cons_append,
        Parser.application, if_pos ho]
      apply Within.nested
      intro left _
      rw [level_eq]
      exact (arguments_of_terms hs (ih left) hc).bind _
  | last _ he ih =>
      intro before
      rw [separated_eq]
      refine (ih levels).bind_eq ?_
      rw [goOnTerms_of_notFollowed he, List.reverse_cons]
  | more _ ht _ iha ihas =>
      intro before
      rw [List.append_assoc, separated_eq]
      refine ((iha levels).bind _).trans ?_
      rw [List.cons_append, goOnTerms, if_pos ht, List.append_cons, ← List.reverse_cons]
      exact ihas levels _

/-- What a connective joins at the head of some tokens is one phrase, with one extent and one nesting. -/
theorem Spells.unique {c : Connective} {ts us rest rest' : List Token} {f g : Formula} {m n : Nat}
    (h : Spells NotFollowed (.joined c) ts rest (.formula f) m)
    (h' : Spells NotFollowed (.joined c) us rest' (.formula g) n) (ht : ts ++ rest = us ++ rest') :
    f = g ∧ rest = rest' ∧ m = n := by
  have hmn : m = n := by
    rcases Nat.lt_trichotomy m n with hlt | heq | hlt
    · obtain ⟨stop, hx⟩ := (h'.reads m).2 hlt
      rw [← ht, (h.reads m).1 (Nat.le_refl m)] at hx
      cases hx
    · exact heq
    · obtain ⟨stop, hx⟩ := (h.reads n).2 hlt
      rw [ht, (h'.reads n).1 (Nat.le_refl n)] at hx
      cases hx
  have hx := (h.reads m).1 (Nat.le_refl m)
  rw [ht, (h'.reads m).1 (Nat.le_of_eq hmn.symm)] at hx
  cases hx
  exact ⟨rfl, rfl, hmn⟩

end Grammar

end FormulaDiagram
