import Mathlib.Data.List.DropRight
import FormulaDiagram.Proofs.Lexing.Iteration

/-!
White space at the end of a text. No spelling has white space in it, so what is the longest spelling somewhere stays so
if white space is put at the end of the text, and where no spelling stands none comes to be. White space is what the
lexer passes over, too. So a text with white space at its end has the tokens of the text without it, at the same places,
and fails at the same character if it does.
-/

namespace FormulaDiagram

namespace Text

/-- A text is what is left of it without the white space at its end, with that white space behind. -/
theorem exists_trimmed (t : String) : ∃ space, Lexer.Blank space ∧ t.toList = (trimEnd t).toList ++ space := by
  refine ⟨t.toList.rtakeWhile isWhiteSpace, fun c hc => List.mem_rtakeWhile_imp hc, ?_⟩
  rw [trimEnd, String.toList_ofList]
  exact List.rdropWhile_append_rtakeWhile.symm

end Text

namespace TokenKind

variable {kind : TokenKind} {text : String} {cs space : List Char}

/-- Spellings have no white space in them. -/
theorem IsSpelling.forall_not_isWhiteSpace (h : kind.IsSpelling text) :
    ∀ c ∈ text.toList, Text.isWhiteSpace c = false := by
  rcases h with h | ⟨-, -, hall⟩
  · rcases mem_signs_iff.1 h with ⟨c, hc, hkind⟩ | hcompound
    · rw [hc]
      exact List.forall_mem_singleton.2 (excluded_of_ofChar? hkind).2
    · have hcompounds : ∀ p ∈ compounds, p.2.any Text.isWhiteSpace = false := by decide
      exact fun c hc => Bool.eq_false_iff.2 (List.any_eq_false.1 (hcompounds _ hcompound) c hc)
  · exact fun c hc => Text.not_isWhiteSpace (hall c hc)

/-- A spelling that stands at the head of a text with white space behind stands at the head of the text. -/
theorem IsSpelling.isPrefix_of_blank (h : kind.IsSpelling text) (hs : Lexer.Blank space)
    (hp : text.toList <+: cs ++ space) : text.toList <+: cs := by
  rcases List.prefix_or_prefix_of_prefix hp (List.prefix_append cs space) with hshort | ⟨more, hmore⟩
  · exact hshort
  · cases more with
    | nil => exact (List.append_nil cs ▸ hmore) ▸ List.prefix_rfl
    | cons c more =>
        rw [← hmore, List.prefix_append_right_inj] at hp
        have hc := h.forall_not_isWhiteSpace c (by simp [← hmore])
        exact absurd (hs c (hp.subset List.mem_cons_self)) (Bool.eq_false_iff.1 hc)

/-- What is the longest spelling where a text ends stays so in front of white space. -/
theorem LongestSpelling.before_blank (h : kind.LongestSpelling text (text.toList ++ cs)) (hs : Lexer.Blank space) :
    kind.LongestSpelling text (text.toList ++ (cs ++ space)) := by
  refine ⟨h.isSpelling, List.prefix_append _ _, fun kind' text' h' hp => ?_⟩
  rw [← List.append_assoc] at hp
  exact h.longest kind' text' h' (h'.isPrefix_of_blank hs hp)

end TokenKind

namespace Lexer

/-- White space may stand at the end of what is tiled. -/
theorem Tiles.before_blank {offset : Nat} {text space : List Char} {tokens : List Token} {failure : Option LexError}
    (h : Tiles offset text tokens failure) (hs : Blank space) : Tiles offset (text ++ space) tokens failure := by
  induction h with
  | finished hspace => exact .finished (List.forall_mem_append.2 ⟨hspace, hs⟩)
  | stuck hspace hc hn =>
      rw [List.append_assoc]
      exact .stuck hspace hc fun kind text hp h => hn kind text (h.isPrefix_of_blank hs hp) h
  | token hspace hl _ ih =>
      rw [List.append_assoc]
      exact .token hspace (hl.before_blank hs) ih

/-- White space at the end of a text does not matter to what the lexer answers. -/
theorem lex_trimEnd (t : String) : lex (Text.trimEnd t) = lex t := by
  obtain ⟨space, hs, ht⟩ := Text.exists_trimmed t
  have htiles := (tiles_lex (Text.trimEnd t)).before_blank hs
  rw [← ht] at htiles
  exact (lex_eq_iff.2 htiles).symm

end Lexer

end FormulaDiagram
