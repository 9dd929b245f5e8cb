import FormulaDiagram.Proofs.Lexing.Iteration
import FormulaDiagram.Proofs.Places.Basic
import FormulaDiagram.Proofs.Places.Extent

/-!
The part of a source from the beginning of one token to the end of another consists of the tokens in between. A
tiling may be cut in front of a token and behind a token, since a spelling that is the longest stays so where the
text behind it is cut off. A part that is read by itself begins at the offset zero, so its tokens stand at their
places in the source moved back.
-/

namespace FormulaDiagram

/-- The same token further to the right. -/
def Token.moved (distance : Nat) (t : Token) : Token := { t with span := t.span.moved distance }

namespace Lexer

variable {offset : Nat} {text : List Char} {t : Token} {failure : Option LexError}

theorem spanAt_moved (offset distance : Nat) (cs : List Char) :
    (spanAt offset cs).moved distance = spanAt (offset + distance) cs := by
  simp [spanAt, Span.moved]
  omega

/-- A tiling may be cut in front of a token. -/
theorem Tiles.behind {before tokens : List Token} (h : Tiles offset text (before ++ t :: tokens) failure) :
    ∃ skipped rest, text = skipped ++ rest ∧ offset + Text.utf8Length skipped = t.span.start ∧
      Tiles offset skipped before none ∧ Tiles t.span.start rest (t :: tokens) failure := by
  induction before generalizing offset text with
  | nil =>
      cases h with
      | @token offset space rest _ _ kind spelling hs hl h =>
          have hstart : Tiles (offset + Text.utf8Length space) ([] ++ spelling.toList ++ rest) _ failure :=
            .token blank_nil hl h
          exact ⟨space, spelling.toList ++ rest, List.append_assoc _ _ _, rfl, .finished hs, hstart⟩
  | cons u before ih =>
      cases h with
      | @token offset space rest _ _ kind spelling hs hl h =>
          obtain ⟨skipped, rest', rfl, hstart, hskipped, htiles⟩ := ih h
          have hcut : kind.LongestSpelling spelling (spelling.toList ++ skipped) :=
            hl.of_prefix (List.prefix_append _ _)
              ((List.prefix_append_right_inj _).2 (List.prefix_append _ _))
          refine ⟨space ++ spelling.toList ++ skipped, rest', ?_, ?_, .token hs hcut hskipped, htiles⟩
          · simp only [List.append_assoc]
          · rw [← hstart, Text.utf8Length_append, Text.utf8Length_append]
            omega

/-- A tiling may be cut behind a token. -/
theorem Tiles.upTo {before tokens : List Token} (h : Tiles offset text (before ++ t :: tokens) failure) :
    ∃ part rest, text = part ++ rest ∧ offset + Text.utf8Length part = t.span.stop ∧
      Tiles offset part (before ++ [t]) none ∧ Tiles t.span.stop rest tokens failure := by
  induction before generalizing offset text with
  | nil =>
      cases h with
      | @token offset space rest _ _ kind spelling hs hl h =>
          have hcut : kind.LongestSpelling spelling (spelling.toList ++ []) :=
            hl.of_prefix (List.prefix_append _ _) ((List.prefix_append_right_inj _).2 List.nil_prefix)
          have hpart : Tiles offset (space ++ spelling.toList ++ []) _ none := .token hs hcut (.finished blank_nil)
          rw [List.append_nil] at hpart
          refine ⟨space ++ spelling.toList, rest, rfl, ?_, hpart, h⟩
          rw [Text.utf8Length_append, ← Nat.add_assoc]
          rfl
  | cons u before ih =>
      cases h with
      | @token offset space rest _ _ kind spelling hs hl h =>
          obtain ⟨part, rest', rfl, hstop, hpart, htiles⟩ := ih h
          have hcut : kind.LongestSpelling spelling (spelling.toList ++ part) :=
            hl.of_prefix (List.prefix_append _ _)
              ((List.prefix_append_right_inj _).2 (List.prefix_append _ _))
          refine ⟨space ++ spelling.toList ++ part, rest', ?_, ?_, .token hs hcut hpart, htiles⟩
          · simp only [List.append_assoc]
          · rw [← hstop, Text.utf8Length_append, Text.utf8Length_append]
            omega

/-- A source consists of the text in front of a row of its tokens, the part that the row stands at, and the text
behind it, and each of the three is tiled by its own tokens. -/
theorem exists_parts {source : String} {before within after : List Token} {s : Span}
    (h : tokenize source = .ok (before ++ within ++ after)) (hs : s.Covers within) :
    ∃ skipped part rest, source.toList = skipped ++ part ++ rest ∧ Text.utf8Length skipped = s.start ∧
      Text.utf8Length part = s.length ∧ Tiles 0 skipped before none ∧ Tiles s.start part within none ∧
      Tiles s.stop rest after none := by
  obtain ⟨⟨first, ts, hfirst, hstart⟩, ⟨us, last, hlast, hstop⟩⟩ := hs
  have hwhole := tokenize_eq_ok_iff.1 h
  rw [List.append_assoc, hfirst, List.cons_append] at hwhole
  obtain ⟨skipped, behind, hsource, hlength, hskipped, hbehind⟩ := hwhole.behind
  rw [Nat.zero_add, hstart] at hlength
  rw [← List.cons_append, ← hfirst, hlast, List.append_assoc, List.singleton_append, hstart] at hbehind
  obtain ⟨part, rest, rfl, hlength', hpart, hrest⟩ := hbehind.upTo
  rw [← hlast] at hpart
  rw [hstop] at hlength' hrest
  refine ⟨skipped, part, rest, ?_, hlength, ?_, hskipped, hpart, hrest⟩
  · rw [hsource, List.append_assoc]
  · rw [Span.length]
    omega

/-- The same text further to the left consists of the same tokens further to the left. -/
theorem Tiles.movedBack {distance : Nat} {tokens : List Token} (h : Tiles (offset + distance) text tokens none) :
    ∃ tokens', tokens = tokens'.map (Token.moved distance) ∧ Tiles offset text tokens' none := by
  induction tokens generalizing offset text with
  | nil =>
      cases h with
      | finished hs => exact ⟨[], rfl, .finished hs⟩
  | cons u tokens ih =>
      cases h with
      | @token _ space rest _ _ kind spelling hs hl h =>
          rw [Nat.add_right_comm offset, Nat.add_right_comm _ distance] at h
          obtain ⟨tokens', rfl, htiles⟩ := ih h
          refine ⟨⟨kind, spelling, spanAt (offset + Text.utf8Length space) spelling.toList⟩ :: tokens', ?_,
            .token hs hl htiles⟩
          rw [List.map_cons, Token.moved, spanAt_moved, Nat.add_right_comm]

/-- The part of a source from a token to a token consists of the tokens in between, moved back. -/
theorem tokenize_part {source : String} {before within after : List Token} {s : Span}
    (h : tokenize source = .ok (before ++ within ++ after)) (hs : s.Covers within) :
    ∃ part tokens, s.slice? source = some part ∧ tokenize part = .ok tokens ∧
      within = tokens.map (Token.moved s.start) := by
  obtain ⟨skipped, part, rest, hsource, hskipped, hlength, -, htiles, -⟩ := exists_parts h hs
  rw [← Nat.zero_add s.start] at htiles
  obtain ⟨tokens, htokens, hpart⟩ := htiles.movedBack
  refine ⟨String.ofList part, tokens, ?_, ?_, htokens⟩
  · refine Span.slice?_eq_some_iff.2 ⟨skipped, rest, ?_, hskipped, ?_⟩
    · rw [String.toList_ofList, hsource]
    · rw [String.toList_ofList, hlength]
  · refine tokenize_eq_ok_iff.2 ?_
    rw [String.toList_ofList]
    exact hpart

end Lexer

end FormulaDiagram
