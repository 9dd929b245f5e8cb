import FormulaDiagram.Proofs.Grammar.Basic

/-!
Where the phrases of a formula stand. The place of a term or of a formula goes from the beginning of the first of
its tokens to the end of the last one, whether it is the place of one token, the union of the places of two parts,
of a sign and an operand or of two parentheses. This needs nothing of the tokens but that they follow one another.
-/

namespace FormulaDiagram

/-- The tokens follow one another in the source. -/
def Ordered (tokens : List Token) : Prop := tokens.Pairwise fun t u => t.span.stop ≤ u.span.start

/-- The range goes from the beginning of the first token to the end of the last one. -/
structure Span.Covers (s : Span) (tokens : List Token) : Prop where
  first : ∃ t ts, tokens = t :: ts ∧ t.span.start = s.start
  last : ∃ ts t, tokens = ts ++ [t] ∧ t.span.stop = s.stop

namespace Span.Covers

variable {s s' : Span} {ts us : List Token}

theorem single (t : Token) : t.span.Covers [t] := ⟨⟨t, [], rfl, rfl⟩, ⟨[], t, rfl, rfl⟩⟩

/-- The union of the ranges of two rows of tokens goes from the beginning of the one to the end of the other. -/
theorem union (hs : s.Covers ts) (hs' : s'.Covers us) (between : List Token) (ho : Ordered (ts ++ between ++ us)) :
    (s.union s').Covers (ts ++ between ++ us) := by
  obtain ⟨⟨first, ts', hfirst, hstart⟩, ⟨ts'', last, hlast, hstop⟩⟩ := hs
  obtain ⟨⟨first', us', hfirst', hstart'⟩, ⟨us'', last', hlast', hstop'⟩⟩ := hs'
  have hle : last.span.stop ≤ first'.span.start := by
    apply (List.pairwise_append.1 ho).2.2
    · rw [hlast]
      simp
    · rw [hfirst']
      simp
  have hs := s.start_le_stop
  have hs' := s'.start_le_stop
  refine ⟨⟨first, ts' ++ between ++ us, ?_, ?_⟩, ⟨ts ++ between ++ us'', last', ?_, ?_⟩⟩
  · rw [hfirst]
    simp
  · show _ = min s.start s'.start
    omega
  · rw [hlast']
    simp
  · show _ = max s.stop s'.stop
    omega

/-- Where two parts stand around a sign, the union of their places is the place of the whole. -/
theorem joined {t : Token} (hs : Ordered ts → s.Covers ts) (hs' : Ordered us → s'.Covers us)
    (ho : Ordered (ts ++ t :: us)) : (s.union s').Covers (ts ++ t :: us) := by
  rw [List.append_cons] at ho ⊢
  refine union (hs ?_) (hs' ?_) [t] ho
  · rw [List.append_assoc] at ho
    exact ho.sublist (List.sublist_append_left _ _)
  · exact ho.sublist (List.sublist_append_right _ _)

end Span.Covers

theorem Formula.span_withSpan (f : Formula) (s : Span) : (f.withSpan s).span = s := by
  cases f <;> rfl

namespace Grammar

/-- The tokens stand at the place of the phrase, if it has one. -/
def Phrase.Covered (tokens : List Token) : Phrase → Prop
  | .formula f => f.span.Covers tokens
  | .term a => a.span.Covers tokens
  | .terms _ => True

variable {ends : Category → List Token → List Token → Prop} {category : Category} {tokens rest : List Token}
  {p : Phrase} {n : Nat}

/-- What tokens spell stands where they stand. -/
theorem Spells.covered (h : Spells ends category tokens rest p n) (ho : Ordered tokens) : p.Covered tokens := by
  induction h with
  | operand _ ih => exact ih ho
  | @further c ts t us rest f g m n hc _ ht _ ihf ihg => exact Span.Covers.joined ihf ihg ho
  | whole _ _ ih => exact ih ho
  | @implication ts t us rest f g m n _ ht _ ihf ihg => exact Span.Covers.joined ihf ihg ho
  | @negation t ts rest f n ht _ ih =>
      have hf := ih (ho.sublist (List.sublist_append_right [t] ts))
      exact Span.Covers.union (.single t) hf [] ho
  | @quantified t bound dot ts rest f n q ht hb hd _ ih =>
      have hf := ih (ho.sublist (List.sublist_append_right [t, bound, dot] ts))
      exact Span.Covers.union (.single t) hf [bound, dot] ho
  | @parenthesised t ts close rest f n ht _ hc ih =>
      show (f.withSpan _).span.Covers _
      rw [Formula.span_withSpan]
      exact Span.Covers.union (.single t) (.single close) ts ho
  | lone _ _ ih => exact ih ho
  | @equality ts t us rest a b m n negated _ ht _ iha ihb => exact Span.Covers.joined iha ihb ho
  | @name t rest ht _ => exact .single t
  | @constant t opening close rest ht hopen hc => exact Span.Covers.union (.single t) (.single close) [opening] ho
  | @application t opening ts close rest as n ht hopen _ hc ih =>
      exact Span.Covers.union (.single t) (.single close) (opening :: ts) ho
  | last _ _ ih => trivial
  | more _ _ _ iha ihas => trivial

end Grammar

end FormulaDiagram
