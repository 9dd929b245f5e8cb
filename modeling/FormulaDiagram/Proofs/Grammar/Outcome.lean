import FormulaDiagram.Proofs.Grammar.Reading

/-!
What the parser's answers mean. If a reader succeeds, the tokens it took spell what it read, with no more
openings nested in one another than there were levels left. If it fails, the tokens in front of the place that it
names are the beginning of something that spells a phrase of its category within those levels: what is missing is
at most some names, dots and closing parentheses, none of which opens a level.
-/

namespace FormulaDiagram.Grammar

open FormulaDiagram.Parser

/-- The tokens are the beginning of a phrase of the category that has at most so many openings nested in one
another. -/
def Viable (levels : Nat) (category : Category) (ts : List Token) : Prop :=
  ∃ more p n, n ≤ levels ∧ Spells NotFollowed category (ts ++ more) [] p n

/-- The meaning of an answer about some tokens, when other tokens of the phrase were taken before them. -/
def Explained {α : Type} (levels : Nat) (category : Category) (phrase : α → Phrase) (before tokens : List Token) :
    Except Failure (Reading α) → Prop
  | .ok (a, rest) =>
    ∃ ts n, tokens = ts ++ rest ∧ n ≤ levels ∧ Spells NotFollowed category (before ++ ts) rest (phrase a) n
  | .error e => ∃ ts, tokens = ts ++ e.rest ∧ Viable levels category (before ++ ts)

/-! ### Completing what was begun -/

/-- A name, with which every phrase that lacks an end can be ended. -/
def someName : Token := ⟨.identifier, "x", .point 0⟩

def someDot : Token := ⟨.dot, ".", .point 0⟩

def someClosing : Token := ⟨.closing, ")", .point 0⟩

theorem kind_someClosing : someClosing.kind = .closing := rfl

theorem spells_someName (category : Category) (hc : ∀ c, category ≠ .chain c) :
    ∃ p, Spells NotFollowed category [someName] [] p 0 := by
  have ha : Spells NotFollowed .term [someName] [] _ 0 := .name rfl (notFollowed_nil _ _)
  have hu : Spells NotFollowed .unary [someName] [] _ 0 := .lone ha (notFollowed_nil _ _)
  have hand := Spells.whole (c := .and) (.operand hu) (notFollowed_nil _ _)
  have hor := Spells.whole (c := .or) (.operand hand) (notFollowed_nil _ _)
  have himplies := Spells.whole (c := .implies) (.operand hor) (notFollowed_nil _ _)
  cases category with
  | chain c => exact absurd rfl (hc c)
  | joined c =>
      cases c with
      | and => exact ⟨_, hand⟩
      | or => exact ⟨_, hor⟩
      | implies => exact ⟨_, himplies⟩
      | iff => exact ⟨_, .whole (.operand himplies) (notFollowed_nil _ _)⟩
  | unary => exact ⟨_, hu⟩
  | term => exact ⟨_, ha⟩
  | terms => exact ⟨_, .last ha (notFollowed_nil _ _)⟩

namespace Viable

variable {levels : Nat} {category : Category} {c : Connective} {t : Token} {ts us rest : List Token}

theorem of_spells {p : Phrase} {n : Nat} (h : Spells NotFollowed category ts rest p n) (hn : n ≤ levels) :
    Viable levels category ts :=
  ⟨[], p, n, hn, by rw [List.append_nil]; exact h.of_stops stops_nil⟩

theorem of_eq {more all : List Token} {p : Phrase} {n : Nat} (hs : Spells NotFollowed category all [] p n)
    (hn : n ≤ levels) (h : ts ++ more = all) : Viable levels category ts := by
  subst h
  exact ⟨more, p, n, hn, hs⟩

theorem of_append (h : Viable levels category (ts ++ us)) : Viable levels category ts := by
  obtain ⟨more, p, n, hn, hs⟩ := h
  rw [List.append_assoc] at hs
  exact ⟨us ++ more, p, n, hn, hs⟩

theorem nil (hc : ∀ c, category ≠ .chain c) : Viable levels category [] := by
  obtain ⟨p, hs⟩ := spells_someName category hc
  exact ⟨[someName], p, 0, Nat.zero_le _, hs⟩

theorem operand (h : Viable levels (Category.operand c) ts) : Viable levels (.joined c) ts := by
  obtain ⟨more, p, n, hn, hs⟩ := h
  obtain ⟨f, rfl⟩ := hs.exists_formula (Category.isTerm_operand c)
  exact ⟨more, _, n, hn, .whole (.operand hs) (notFollowed_nil _ _)⟩

theorem further {f : Formula} {m : Nat} (hc : c.isLeftAssociative)
    (hf : Spells NotFollowed (.chain c) ts (t :: rest) (.formula f) m) (hm : m ≤ levels)
    (ht : t.kind = c.tokenKind) (h : Viable levels (Category.operand c) us) :
    Viable levels (.joined c) (ts ++ t :: us) := by
  obtain ⟨more, p, n, hn, hs⟩ := h
  obtain ⟨g, rfl⟩ := hs.exists_formula (Category.isTerm_operand c)
  exact of_eq (.whole (.further hc (hf.of_next _) ht hs) (notFollowed_nil _ _)) (Nat.max_le.2 ⟨hm, hn⟩)
    (List.append_assoc ts (t :: us) more)

theorem implication {f : Formula} {m : Nat} (hf : Spells NotFollowed (.joined .or) ts (t :: rest) (.formula f) m)
    (hm : m ≤ levels + 1) (ht : t.kind = .implies) (h : Viable levels (.joined .implies) us) :
    Viable (levels + 1) (.joined .implies) (ts ++ t :: us) := by
  obtain ⟨more, p, n, hn, hs⟩ := h
  obtain ⟨g, rfl⟩ := hs.exists_formula rfl
  exact of_eq (.implication (hf.of_next _) ht hs) (Nat.max_le.2 ⟨hm, Nat.succ_le_succ hn⟩)
    (List.append_assoc ts (t :: us) more)

theorem negation (ht : t.kind = .not) (h : Viable levels .unary ts) : Viable (levels + 1) .unary (t :: ts) := by
  obtain ⟨more, p, n, hn, hs⟩ := h
  obtain ⟨f, rfl⟩ := hs.exists_formula rfl
  exact ⟨more, _, n + 1, Nat.succ_le_succ hn, .negation ht hs⟩

theorem quantified {q : Quantifier} {bound dot : Token} (ht : t.kind = q.tokenKind)
    (hb : bound.kind = .identifier) (hd : dot.kind = .dot) (h : Viable levels .formula ts) :
    Viable (levels + 1) .unary (t :: bound :: dot :: ts) := by
  obtain ⟨more, p, n, hn, hs⟩ := h
  obtain ⟨f, rfl⟩ := hs.exists_formula rfl
  exact ⟨more, _, n + 1, Nat.succ_le_succ hn, .quantified q ht hb hd hs⟩

theorem parenthesised (ht : t.kind = .opening) (h : Viable levels .formula ts) :
    Viable (levels + 1) .unary (t :: ts) := by
  obtain ⟨more, p, n, hn, hs⟩ := h
  obtain ⟨f, rfl⟩ := hs.exists_formula rfl
  exact of_eq (.parenthesised ht (hs.of_stops (stops_closing [] kind_someClosing)) kind_someClosing)
    (Nat.succ_le_succ hn) (List.append_assoc (t :: ts) more [someClosing]).symm

theorem lone (h : Viable levels .term ts) : Viable levels .unary ts := by
  obtain ⟨more, p, n, hn, hs⟩ := h
  obtain ⟨a, rfl⟩ := hs.exists_term
  exact ⟨more, _, n, hn, .lone hs (notFollowed_nil _ _)⟩

theorem equality {a : Term} {m : Nat} {negated : Bool}
    (ha : Spells NotFollowed .term ts (t :: rest) (.term a) m) (hm : m ≤ levels)
    (ht : t.kind = if negated then .notEquals else .equals) (h : Viable levels .term us) :
    Viable levels .unary (ts ++ t :: us) := by
  obtain ⟨more, p, n, hn, hs⟩ := h
  obtain ⟨b, rfl⟩ := hs.exists_term
  exact of_eq (.equality negated (ha.of_next _) ht hs) (Nat.max_le.2 ⟨hm, hn⟩)
    (List.append_assoc ts (t :: us) more)

theorem application {opening : Token} (ht : t.kind = .identifier) (ho : opening.kind = .opening)
    (h : Viable levels .terms ts) : Viable (levels + 1) .term (t :: opening :: ts) := by
  obtain ⟨more, p, n, hn, hs⟩ := h
  obtain ⟨as, rfl⟩ := hs.exists_terms
  exact of_eq (.application ht ho (hs.of_stops (stops_closing [] kind_someClosing)) kind_someClosing)
    (Nat.succ_le_succ hn) (List.append_assoc (t :: opening :: ts) more [someClosing]).symm

theorem last (h : Viable levels .term ts) : Viable levels .terms ts := by
  obtain ⟨more, p, n, hn, hs⟩ := h
  obtain ⟨a, rfl⟩ := hs.exists_term
  exact ⟨more, _, n, hn, .last hs (notFollowed_nil _ _)⟩

theorem more {a : Term} {m : Nat} (ha : Spells NotFollowed .term ts (t :: rest) (.term a) m) (hm : m ≤ levels)
    (ht : t.kind = .comma) (h : Viable levels .terms us) : Viable levels .terms (ts ++ t :: us) := by
  obtain ⟨more, p, n, hn, hs⟩ := h
  obtain ⟨as, rfl⟩ := hs.exists_terms
  exact of_eq (.more (ha.of_next _) ht hs) (Nat.max_le.2 ⟨hm, hn⟩) (List.append_assoc ts (t :: us) more)

end Viable

/-! ### Answers, step by step -/

namespace Explained

variable {α β : Type} {levels inner : Nat} {category category' : Category} {phrase : α → Phrase}
  {phrase' : β → Phrase} {before before' tokens : List Token}

/-- What is said of the tokens behind some others may be said of all of them. -/
theorem behind (ts : List Token) {x : Except Failure (Reading α)}
    (h : Explained levels category phrase (before ++ ts) tokens x) :
    Explained levels category phrase before (ts ++ tokens) x := by
  cases x with
  | ok r =>
      obtain ⟨us, n, rfl, hn, hs⟩ := h
      rw [List.append_assoc] at hs
      exact ⟨ts ++ us, n, (List.append_assoc ..).symm, hn, hs⟩
  | error e =>
      obtain ⟨us, ht, hv⟩ := h
      rw [List.append_assoc] at hv
      refine ⟨ts ++ us, ?_, hv⟩
      rw [ht, List.append_assoc]

/-- An error right where one stands, when what was taken so far can be completed. -/
theorem failure (h : Viable levels category before) (expected : Expected) :
    Explained levels category phrase before tokens (.error ⟨expected, tokens⟩) :=
  ⟨[], rfl, by rwa [List.append_nil]⟩

theorem success {a : α} {n : Nat} (hn : n ≤ levels)
    (h : Spells NotFollowed category before tokens (phrase a) n) :
    Explained levels category phrase before tokens (.ok (a, tokens)) :=
  ⟨[], n, rfl, hn, by rwa [List.append_nil]⟩

/-- One reader after another. -/
theorem bind {x : Except Failure (Reading α)} {f : Reading α → Except Failure (Reading β)}
    (hx : Explained inner category phrase before tokens x)
    (hv : ∀ ts, Viable inner category (before ++ ts) → Viable levels category' (before' ++ ts))
    (hf : ∀ a ts rest n, tokens = ts ++ rest → n ≤ inner →
      Spells NotFollowed category (before ++ ts) rest (phrase a) n →
      Explained levels category' phrase' (before' ++ ts) rest (f (a, rest))) :
    Explained levels category' phrase' before' tokens (x >>= f) := by
  cases x with
  | ok r =>
      obtain ⟨ts, n, rfl, hn, hs⟩ := hx
      exact (hf r.1 ts r.2 n rfl hn hs).behind ts
  | error e =>
      obtain ⟨ts, ht, h⟩ := hx
      exact ⟨ts, ht, hv ts h⟩

/-- A token of a kind, and what comes then. -/
theorem expect {kind : TokenKind} {expected : Expected} {f : Reading Token → Except Failure (Reading β)}
    (hv : Viable levels category' before)
    (hf : ∀ t rest, tokens = t :: rest → t.kind = kind →
      Explained levels category' phrase' (before ++ [t]) rest (f (t, rest))) :
    Explained levels category' phrase' before tokens (Parser.expect kind expected tokens >>= f) := by
  cases tokens with
  | nil => exact failure hv expected
  | cons t rest =>
      rw [Parser.expect]
      split
      · exact (hf t rest rfl ‹_›).behind [t]
      · exact failure hv expected

/-- A level opened, and what comes then. -/
theorem nested {f : Level → Except Failure (Reading β)} (hv : Viable levels category' before)
    (hf : ∀ left, levels = left + 1 → Explained levels category' phrase' before tokens (f (level left))) :
    Explained levels category' phrase' before tokens (Parser.nested (inside levels) tokens >>= f) := by
  cases levels with
  | zero => exact failure hv _
  | succ left => exact hf left rfl

end Explained

/-! ### The readers of a level -/

/-- The answers of the readers with a number of levels left mean what they should. -/
structure Sound (levels : Nat) : Prop where
  joined (c : Connective) (tokens : List Token) :
    Explained levels (.joined c) .formula [] tokens ((joinedReader (inside levels) c).read tokens)
  unary (tokens : List Token) : Explained levels .unary .formula [] tokens ((unary (inside levels)).read tokens)
  term (tokens : List Token) : Explained levels .term .term [] tokens ((term (inside levels)).read tokens)

section

variable {levels : Nat} (hi : ∀ left, levels = left + 1 → Sound left)

/-- A row that groups to the left, behind the operands read so far. -/
theorem explained_goOn {c : Connective} (hc : c.isLeftAssociative)
    (ho : ∀ tokens, Explained levels (.operand c) .formula [] tokens
      ((operandReader (inside levels) c).read tokens))
    {before : List Token} {left : Formula} {m : Nat} (tokens : List Token)
    (hs : Spells NotFollowed (.chain c) before tokens (.formula left) m) (hm : m ≤ levels) :
    Explained levels (.joined c) .formula before tokens (goOn (inside levels) c left tokens) := by
  -- A row has any number of operands, so the induction is on how many tokens are left.
  induction hl : tokens.length using Nat.strongRecOn generalizing tokens before left m with
  | ind length ih =>
      subst hl
      by_cases hn : NotFollowed (.joined c) before tokens
      · rw [goOn_of_joined hn]
        exact .success hm (.whole hs hn)
      · obtain ⟨t, rest, rfl, ht⟩ := followed hn
        replace ht : t.kind = c.tokenKind := of_decide_eq_true ht
        rw [goOn_of_operand hc ht]
        refine .behind [t] (.bind (ho rest) (fun ts hv => ?_) fun g ts rest' n hr hn' hg => ?_)
        · rw [List.append_assoc]
          exact .further hc hs hm ht hv
        · subst hr
          have hlt : rest'.length < (t :: (ts ++ rest')).length := by
            rw [List.length_cons, List.length_append]
            omega
          rw [List.append_assoc]
          exact ih _ hlt rest' (.further hc hs ht hg) (Nat.max_le.2 ⟨hm, hn'⟩) rfl

include hi in
theorem explained_consequent {before : List Token} {left : Formula} {m : Nat} (tokens : List Token)
    (hs : Spells NotFollowed (.joined .or) before tokens (.formula left) m) (hm : m ≤ levels) :
    Explained levels (.joined .implies) .formula before tokens (consequent (inside levels) left tokens) := by
  by_cases hn : NotFollowed (.joined .implies) before tokens
  · rw [consequent_of_joined hn]
    exact .success hm (.whole (.operand hs) hn)
  · obtain ⟨t, rest, rfl, ht⟩ := followed hn
    replace ht : t.kind = .implies := of_decide_eq_true ht
    rw [consequent, if_pos ht]
    have hv : Viable levels (.joined .implies) before := .operand (c := .implies) (.of_spells hs hm)
    apply Explained.nested hv
    intro left hl
    subst hl
    rw [level_eq]
    refine .behind [t] (.bind ((hi left rfl).joined .implies rest) (fun ts hv => ?_)
      fun g ts rest' n hr hn' hg => ?_)
    · rw [List.append_assoc]
      exact .implication hs hm ht hv
    · subst hr
      rw [List.append_assoc]
      exact .success (Nat.max_le.2 ⟨hm, Nat.succ_le_succ hn'⟩) (.implication hs ht hg)

/-- The terms read before a list stand in front of it and have no other effect on its reading. -/
theorem separated_behind (reader : Reader Term) (before : List Term) (tokens : List Token) :
    separated reader before tokens =
      separated reader [] tokens >>= fun r => .ok (before.reverse ++ r.1, r.2) := by
  induction hl : tokens.length using Nat.strongRecOn generalizing tokens before with
  | ind length ih =>
      subst hl
      rw [separated_eq, separated_eq reader []]
      cases hr : reader.read tokens with
      | error e => rfl
      | ok r =>
          obtain ⟨a, rest⟩ := r
          have hshort := reader.shorter hr
          show goOnTerms reader (a :: before) rest =
            goOnTerms reader [a] rest >>= fun r => .ok (before.reverse ++ r.1, r.2)
          cases rest with
          | nil =>
              show Except.ok ((a :: before).reverse, []) = Except.ok (before.reverse ++ [a], [])
              rw [List.reverse_cons]
          | cons t rest =>
              by_cases ht : t.kind = .comma
              · have hlt : rest.length < tokens.length := Nat.lt_of_succ_lt hshort
                rw [goOnTerms, goOnTerms, if_pos ht, if_pos ht, ih _ hlt (a :: before) rest rfl,
                  ih _ hlt [a] rest rfl]
                cases separated reader [] rest with
                | error e => rfl
                | ok r =>
                    show Except.ok ((a :: before).reverse ++ r.1, r.2) =
                      Except.ok (before.reverse ++ ([a] ++ r.1), r.2)
                    rw [List.reverse_cons, List.append_assoc]
              · rw [goOnTerms, goOnTerms, if_neg ht, if_neg ht, List.reverse_cons]
                rfl

theorem explained_separated
    (ht : ∀ tokens, Explained levels .term .term [] tokens ((Parser.term (inside levels)).read tokens))
    (tokens : List Token) :
    Explained levels .terms .terms [] tokens (separated (Parser.term (inside levels)) [] tokens) := by
  induction hl : tokens.length using Nat.strongRecOn generalizing tokens with
  | ind length ih =>
      subst hl
      rw [separated_eq]
      apply Explained.bind (ht tokens) (fun ts hv => .last hv)
      intro a ts rest m hr hm hs
      by_cases hn : NotFollowed .terms [] rest
      · rw [goOnTerms_of_notFollowed hn]
        exact .success hm (.last hs hn)
      · obtain ⟨t, rest, rfl, hk⟩ := followed hn
        replace hk : t.kind = .comma := of_decide_eq_true hk
        have hlt : rest.length < tokens.length := by
          rw [hr, List.length_append, List.length_cons]
          omega
        rw [goOnTerms, if_pos hk, separated_behind]
        refine .behind [t] (.bind (ih _ hlt rest rfl) (fun us hv => ?_) fun as us rest' n hu hn' has => ?_)
        · rw [List.append_assoc]
          exact .more hs hm hk hv
        · subst hu
          rw [List.append_assoc]
          exact .success (Nat.max_le.2 ⟨hm, hn'⟩) (.more hs hk has)

/-- What follows the opening parenthesis of an argument list. -/
theorem explained_arguments {left : Nat} (hi : Sound left) {t opening : Token} (ht : t.kind = .identifier)
    (ho : opening.kind = .opening) (tokens : List Token) :
    Explained (left + 1) .term .term [t, opening] tokens
      (arguments (level left).term tokens >>= fun r =>
        .ok (.function t.text r.1.1 (t.span.union r.1.2.span), r.2)) := by
  have hv : Viable (left + 1) .term [t, opening] := .application ht ho (.nil fun c hc => by cases hc)
  rw [level_eq]
  rcases closing_or tokens with ⟨close, rest, rfl, hk⟩ | hc
  · rw [arguments_of_closing hk]
    exact .behind [close] (.success (Nat.succ_le_succ (Nat.zero_le _)) (.constant ht ho hk))
  · rw [arguments_of_not_closing hc, bind_assoc]
    refine .bind (explained_separated hi.term tokens) (fun ts hv => .application ht ho hv)
      fun as ts rest n hr hn hs => ?_
    rw [bind_assoc]
    apply Explained.expect (.application ht ho (.of_spells hs hn))
    intro close rest' hr' hk
    subst hr'
    exact .success (Nat.succ_le_succ hn) (.application ht ho hs hk)

include hi in
theorem explained_application {t : Token} (ht : t.kind = .identifier) (tokens : List Token) :
    Explained levels .term .term [t] tokens (application (inside levels) t tokens) := by
  by_cases hn : NotFollowed .term [t] tokens
  · rw [application_of_notFollowed hn]
    exact .success (Nat.zero_le _) (.name ht hn)
  · obtain ⟨opening, rest, rfl, ho⟩ := followed hn
    replace ho : opening.kind = .opening := of_decide_eq_true ho
    rw [application, if_pos ho]
    apply Explained.nested (.of_spells (.name ht (notFollowed_nil _ _)) (Nat.zero_le _))
    intro left hl
    subst hl
    exact .behind [opening] (explained_arguments (hi left rfl) ht ho rest)

include hi in
theorem explained_term (tokens : List Token) :
    Explained levels .term .term [] tokens ((Parser.term (inside levels)).read tokens) := by
  apply Explained.expect (.nil fun c hc => by cases hc)
  intro t rest _ ht
  exact explained_application hi ht rest

theorem explained_related
    (ht : ∀ tokens, Explained levels .term .term [] tokens ((Parser.term (inside levels)).read tokens))
    {before : List Token} {a : Term} {m : Nat} (tokens : List Token)
    (hs : Spells NotFollowed .term before tokens (.term a) m) (hm : m ≤ levels) :
    Explained levels .unary .formula before tokens (related (inside levels) a tokens) := by
  by_cases hn : NotFollowed .unary before tokens
  · rw [related_of_notFollowed hn]
    exact .success hm (.lone hs hn)
  · obtain ⟨t, rest, rfl, hk⟩ := followed hn
    obtain ⟨negated, hk⟩ : ∃ negated : Bool, t.kind = if negated then .notEquals else .equals := by
      rcases Bool.or_eq_true_iff.1 hk with hk | hk
      · exact ⟨false, of_decide_eq_true hk⟩
      · exact ⟨true, of_decide_eq_true hk⟩
    rw [related_of_sign hk]
    refine .behind [t] (.bind (ht rest) (fun ts hv => ?_) fun b ts rest' n hr hn' hb => ?_)
    · rw [List.append_assoc]
      exact .equality hs hm hk hv
    · subst hr
      rw [List.append_assoc]
      exact .success (Nat.max_le.2 ⟨hm, hn'⟩) (.equality negated hs hk hb)

include hi in
theorem explained_negated {t : Token} (ht : t.kind = .not) (tokens : List Token) :
    Explained levels .unary .formula [] (t :: tokens) (negated (inside levels) t tokens) := by
  apply Explained.nested (.nil fun c hc => by cases hc)
  intro left hl
  subst hl
  rw [level_eq]
  refine .behind [t] (.bind ((hi left rfl).unary tokens) (fun ts hv => .negation ht hv)
    fun f ts rest n _ hn hf => ?_)
  exact .success (Nat.succ_le_succ hn) (.negation ht hf)

include hi in
theorem explained_quantified {t : Token} {q : Quantifier} (ht : t.kind = q.tokenKind) (tokens : List Token) :
    Explained levels .unary .formula [] (t :: tokens) (Parser.quantified (inside levels) q t tokens) := by
  refine .nested (.nil fun c hc => by cases hc) fun left hl => .behind [t] ?_
  subst hl
  rw [level_eq]
  have hname (bound : Token) (hb : bound.kind = .identifier) : Viable (left + 1) .unary [t, bound, someDot] :=
    .quantified ht hb rfl (.nil fun c hc => by cases hc)
  apply Explained.expect (.of_append (hname someName rfl))
  intro bound rest _ hb
  apply Explained.expect (.of_append (hname bound hb))
  intro dot rest' _ hd
  refine .bind ((hi left rfl).joined .iff rest') (fun ts hv => .quantified ht hb hd hv)
    fun f ts rest'' n _ hn hf => ?_
  exact .success (Nat.succ_le_succ hn) (.quantified q ht hb hd hf)

include hi in
theorem explained_parenthesised {t : Token} (ht : t.kind = .opening) (tokens : List Token) :
    Explained levels .unary .formula [] (t :: tokens) (Parser.parenthesised (inside levels) t tokens) := by
  refine .nested (.nil fun c hc => by cases hc) fun left hl => .behind [t] ?_
  subst hl
  rw [level_eq]
  refine .bind ((hi left rfl).joined .iff tokens) (fun ts hv => .parenthesised ht hv)
    fun f ts rest n _ hn hf => ?_
  apply Explained.expect (.parenthesised ht (.of_spells hf hn))
  intro close rest' hr hc
  subst hr
  exact .success (Nat.succ_le_succ hn) (.parenthesised ht hf hc)

include hi in
theorem explained_unary (tokens : List Token) :
    Explained levels .unary .formula [] tokens ((Parser.unary (inside levels)).read tokens) := by
  have hv : Viable levels .unary [] := .nil fun c hc => by cases hc
  cases tokens with
  | nil => exact .failure hv _
  | cons t rest =>
      show Explained levels .unary .formula [] (t :: rest) (readUnary (inside levels) (t :: rest))
      rw [readUnary]
      split
      · exact explained_negated hi ‹_› rest
      · exact explained_quantified hi ‹_› rest
      · exact explained_quantified hi ‹_› rest
      · exact explained_parenthesised hi ‹_› rest
      · rw [atom_eq ‹_›]
        apply Explained.bind (explained_term hi (t :: rest)) (fun ts hv => .lone hv)
        intro a ts rest' n _ hn hs
        exact explained_related (explained_term hi) rest' hs hn
      · exact .failure hv _

include hi in
theorem explained_joined (c : Connective) (tokens : List Token) :
    Explained levels (.joined c) .formula [] tokens ((joinedReader (inside levels) c).read tokens) := by
  have step (c : Connective) (hc : c.isLeftAssociative)
      (ho : ∀ tokens, Explained levels (.operand c) .formula [] tokens
        ((operandReader (inside levels) c).read tokens)) (tokens : List Token) :
      Explained levels (.joined c) .formula [] tokens ((joinedReader (inside levels) c).read tokens) := by
    rw [read_joined]
    exact .bind (ho tokens) (fun ts hv => .operand hv)
      fun f ts rest n _ hn hs => explained_goOn hc ho rest (.operand hs) hn
  have hand := step .and rfl (explained_unary hi)
  have hor := step .or rfl hand
  have himplies (tokens : List Token) :
      Explained levels (.joined .implies) .formula [] tokens
        ((joinedReader (inside levels) .implies).read tokens) := by
    rw [read_joined]
    exact .bind (hor tokens) (fun ts hv => .operand (c := .implies) hv)
      fun f ts rest n _ hn hs => explained_consequent hi rest hs hn
  cases c with
  | and => exact hand tokens
  | or => exact hor tokens
  | implies => exact himplies tokens
  | iff => exact step .iff rfl himplies tokens

end

/-- At every level the answers mean what they should. -/
theorem sound (levels : Nat) : Sound levels :=
  level_induction (fun _ hi => ⟨explained_joined hi, explained_unary hi, explained_term hi⟩) levels

end FormulaDiagram.Grammar
