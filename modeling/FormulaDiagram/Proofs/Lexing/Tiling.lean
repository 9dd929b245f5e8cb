import FormulaDiagram.Proofs.Lexing.Slice
import FormulaDiagram.Proofs.Lexing.Spelling

/-!
What a text consists of. `Tiles` cuts it without loss: white space and the longest spellings stand one behind the
other, up to the end or up to a character that is not white space and where no spelling stands. Every text has
such a tiling. The token's place is where its spelling stands, so the part of the text at the place is the
spelling, and the places follow one another.
-/

namespace FormulaDiagram.Lexer

/-- The text is white space only. -/
def Blank (cs : List Char) : Prop := ∀ c ∈ cs, Text.isWhiteSpace c

/-- The place of a text that stands at an offset. -/
def spanAt (offset : Nat) (cs : List Char) : Span :=
  ⟨offset, offset + Text.utf8Length cs, Nat.le_add_right _ _⟩

/-- The text at an offset consists of the tokens, with white space around them, up to its end or up to where no
token stands. -/
inductive Tiles : Nat → List Char → List Token → Option LexError → Prop where
  | finished {offset space} : Blank space → Tiles offset space [] none
  | stuck {offset space c rest} : Blank space → Text.isWhiteSpace c = false →
      (∀ (kind : TokenKind) (text : String), text.toList <+: c :: rest → ¬kind.IsSpelling text) →
      Tiles offset (space ++ c :: rest) [] (some ⟨offset + Text.utf8Length space, c⟩)
  | token {offset space rest tokens failure} {kind : TokenKind} {text : String} : Blank space →
      kind.LongestSpelling text (text.toList ++ rest) →
      Tiles (offset + Text.utf8Length space + Text.utf8Length text.toList) rest tokens failure →
      Tiles offset (space ++ text.toList ++ rest)
        (⟨kind, text, spanAt (offset + Text.utf8Length space) text.toList⟩ :: tokens) failure

theorem blank_nil : Blank [] := fun c hc => by cases hc

theorem blank_cons {c : Char} {cs : List Char} (hc : Text.isWhiteSpace c) (h : Blank cs) : Blank (c :: cs) :=
  List.forall_mem_cons.2 ⟨hc, h⟩

/-! ### What the lexer takes -/

/-- The lexer takes a spelling that is the longest. -/
theorem lexeme?_of_longestSpelling {kind : TokenKind} {c : Char} {cs rest : List Char} {text : String}
    (h : kind.LongestSpelling text (c :: rest)) (hc : text.toList = c :: cs) :
    lexeme? c rest = some (kind, cs.length) := by
  cases hl : lexeme? c rest with
  | none => exact absurd h.isSpelling (TokenKind.not_isSpelling_of_lexeme? hl h.isPrefix)
  | some p =>
      obtain ⟨kind', further⟩ := p
      obtain ⟨htext, rfl⟩ := h.unique (TokenKind.longestSpelling_of_lexeme? hl)
      have hle := (TokenKind.isSpelling_of_lexeme? hl).1
      rw [htext, String.toList_ofList] at hc
      obtain ⟨-, htake⟩ := List.cons.inj hc
      rw [← htake, List.length_take, Nat.min_eq_left hle]

/-- Where no spelling stands the lexer takes nothing. -/
theorem lexeme?_of_not_isSpelling {c : Char} {rest : List Char}
    (hn : ∀ (kind : TokenKind) (text : String), text.toList <+: c :: rest → ¬kind.IsSpelling text) :
    lexeme? c rest = none := by
  cases hl : lexeme? c rest with
  | none => rfl
  | some p =>
      have hlong := TokenKind.longestSpelling_of_lexeme? hl
      exact absurd hlong.isSpelling (hn _ _ hlong.isPrefix)

/-! ### Every text has a tiling -/

section

variable {offset : Nat} {text : List Char} {tokens : List Token} {failure : Option LexError}

/-- White space may stand in front of what is tiled. -/
theorem Tiles.space {c : Char} (hc : Text.isWhiteSpace c) (h : Tiles (offset + c.utf8Size) text tokens failure) :
    Tiles offset (c :: text) tokens failure := by
  cases h with
  | finished hs => exact .finished (blank_cons hc hs)
  | stuck hs hd hn =>
      rw [Nat.add_assoc]
      exact .stuck (blank_cons hc hs) hd hn
  | token hs hl h =>
      rw [Nat.add_assoc offset] at h ⊢
      exact .token (blank_cons hc hs) hl h

/-- What the lexer takes may stand in front of what is tiled. -/
theorem Tiles.of_lexeme? {c : Char} {rest : List Char} {kind : TokenKind} {further : Nat}
    (hl : lexeme? c rest = some (kind, further))
    (h : Tiles (offset + Text.utf8Length (c :: rest.take further)) (rest.drop further) tokens failure) :
    Tiles offset (c :: rest)
      (⟨kind, String.ofList (c :: rest.take further), spanAt offset (c :: rest.take further)⟩ :: tokens)
      failure := by
  have hlong := TokenKind.longestSpelling_of_lexeme? hl
  have hrest : (String.ofList (c :: rest.take further)).toList ++ rest.drop further = c :: rest := by
    rw [String.toList_ofList, List.cons_append, List.take_append_drop]
  rw [← hrest] at hlong
  have htile : Tiles offset ([] ++ (String.ofList (c :: rest.take further)).toList ++ rest.drop further) _ _ :=
    .token blank_nil hlong (by rw [String.toList_ofList]; exact h)
  rw [String.toList_ofList] at htile hrest
  rw [List.nil_append, hrest] at htile
  exact htile

/-- Every text has a tiling. -/
theorem exists_tiles (offset : Nat) (text : List Char) : ∃ tokens failure, Tiles offset text tokens failure := by
  match text with
  | [] => exact ⟨[], none, .finished blank_nil⟩
  | c :: rest =>
    by_cases hc : Text.isWhiteSpace c
    · obtain ⟨tokens, failure, h⟩ := exists_tiles (offset + c.utf8Size) rest
      exact ⟨tokens, failure, h.space hc⟩
    · cases hl : lexeme? c rest with
      | none =>
          have hnone : ∀ (kind : TokenKind) (text : String), text.toList <+: c :: rest → ¬kind.IsSpelling text :=
            fun kind text => TokenKind.not_isSpelling_of_lexeme? hl
          exact ⟨[], _, .stuck blank_nil (Bool.eq_false_iff.2 hc) hnone⟩
      | some p =>
          obtain ⟨kind, further⟩ := p
          obtain ⟨tokens, failure, h⟩ :=
            exists_tiles (offset + Text.utf8Length (c :: rest.take further)) (rest.drop further)
          exact ⟨_, failure, .of_lexeme? hl h⟩
termination_by text.length
decreasing_by
  · exact Nat.lt_succ_self _
  · simp only [List.length_cons, List.length_drop]
    omega

/-! ### Where the tokens stand -/

/-- A token's place is where its text stands. -/
theorem Tiles.exists_text (h : Tiles offset text tokens failure) {t : Token} (ht : t ∈ tokens) :
    ∃ before after, text = before ++ t.text.toList ++ after ∧ t.text.toList ≠ [] ∧
      t.span = spanAt (offset + Text.utf8Length before) t.text.toList := by
  induction h with
  | finished => cases ht
  | stuck => cases ht
  | @token offset space rest tokens failure kind text hs hlong _ ih =>
      rcases List.mem_cons.1 ht with rfl | ht
      · exact ⟨space, rest, rfl, hlong.isSpelling.ne_nil, rfl⟩
      · obtain ⟨before, after, hrest, hne, hspan⟩ := ih ht
        refine ⟨space ++ text.toList ++ before, after, ?_, hne, ?_⟩
        · rw [hrest]
          simp only [List.append_assoc]
        · rw [hspan, Text.utf8Length_append, Text.utf8Length_append]
          simp only [Nat.add_assoc]

theorem Tiles.le_start (h : Tiles offset text tokens failure) {t : Token} (ht : t ∈ tokens) :
    offset ≤ t.span.start := by
  obtain ⟨before, after, -, -, hspan⟩ := h.exists_text ht
  rw [hspan]
  exact Nat.le_add_right _ _

/-- The tokens follow one another. -/
theorem Tiles.pairwise (h : Tiles offset text tokens failure) :
    tokens.Pairwise fun t u => t.span.stop ≤ u.span.start := by
  induction h with
  | finished => exact .nil
  | stuck => exact .nil
  | token hs hlong h ih => exact .cons (fun u hu => h.le_start hu) ih

/-- Where no token stands there is a character between those that were read and the rest. -/
theorem Tiles.exists_found (h : Tiles offset text tokens failure) {e : LexError} (he : failure = some e) :
    ∃ before after, text = before ++ e.found :: after ∧ e.offset = offset + Text.utf8Length before := by
  induction h with
  | finished => cases he
  | @stuck offset space c rest hs hc hn =>
      cases he
      exact ⟨space, rest, rfl, rfl⟩
  | @token offset space rest tokens failure kind text hs hlong _ ih =>
      obtain ⟨before, after, hrest, hoffset⟩ := ih he
      refine ⟨space ++ text.toList ++ before, after, ?_, ?_⟩
      · rw [hrest]
        simp only [List.append_assoc]
      · rw [hoffset, Text.utf8Length_append, Text.utf8Length_append]
        simp only [Nat.add_assoc]

end

theorem slice?_spanAt {source : String} {before cs after : List Char}
    (h : source.toList = before ++ cs ++ after) :
    (spanAt (Text.utf8Length before) cs).slice? source = some (String.ofList cs) := by
  refine Span.slice?_eq_some_iff.2 ⟨before, after, ?_, rfl, ?_⟩
  · rw [String.toList_ofList, h]
  · rw [String.toList_ofList, Span.length, spanAt, Nat.add_sub_cancel_left]

end FormulaDiagram.Lexer
