import FormulaDiagram.Proofs.Lexing.Part

/-!
Brackets put into a text between its tokens. No token but a bracket has one in it, so a spelling that is the longest
at the end of a text stays so in front of a bracket, whatever comes then. Two texts with a bracket between them consist
therefore of the tokens of the one, the bracket and the tokens of the other. Where a part of a source is enclosed in
brackets, the tokens of the source are kept, and only stand further to the right.
-/

namespace FormulaDiagram

namespace TokenKind

/-- The kinds of brackets. -/
def isBracket (kind : TokenKind) : Bool := kind = .opening || kind = .closing

variable {kind bracket : TokenKind} {text : String} {b : Char} {rest : List Char}

/-- A spelling with a bracket in it is the bracket. -/
theorem IsSpelling.eq_bracket (h : kind.IsSpelling text) (hb : ofChar? b = some bracket) (hk : bracket.isBracket)
    (hmem : b ∈ text.toList) : text.toList = [b] := by
  rcases h with h | ⟨-, -, hall⟩
  · rcases mem_signs_iff.1 h with ⟨c, hc, -⟩ | hcompound
    · rw [hc] at hmem
      rw [hc, List.mem_singleton.1 hmem]
    · have hcompounds : ∀ p ∈ compounds, (p.2.any fun c => (ofChar? c).any isBracket) = false := by decide
      have hb' := List.any_eq_false.1 (hcompounds _ hcompound) b hmem
      rw [hb, Option.any_some] at hb'
      exact absurd hk hb'
  · have hname := hall b hmem
    rw [(excluded_of_ofChar? hb).1] at hname
    cases hname

/-- A bracket is the longest spelling where it stands. -/
theorem longestSpelling_bracket (hb : ofChar? b = some bracket) (hk : bracket.isBracket) (rest : List Char) :
    bracket.LongestSpelling (String.ofList [b]) (b :: rest) := by
  refine ⟨.inl (mem_signs_iff.2 (.inl ⟨b, String.toList_ofList, hb⟩)), ?_, fun kind' text' h' hp => ?_⟩
  · rw [String.toList_ofList]
    exact List.prefix_append [b] rest
  · obtain ⟨c, cs, hcs⟩ := List.exists_cons_of_ne_nil h'.ne_nil
    have hc : c = b := (List.cons_prefix_cons.1 (hcs ▸ hp)).1
    have hmem : b ∈ text'.toList := by simp [hcs, hc]
    have hlength : text'.length = 1 := by
      rw [← String.length_toList, h'.eq_bracket hb hk hmem, List.length_singleton]
    have hlength' : (String.ofList [b]).length = 1 := String.length_ofList
    exact Nat.le_of_eq (hlength.trans hlength'.symm)

/-- What is the longest spelling where a text ends stays so in front of a bracket. -/
theorem LongestSpelling.before_bracket {cs : List Char} (h : kind.LongestSpelling text (text.toList ++ cs))
    (hb : ofChar? b = some bracket) (hk : bracket.isBracket) (rest : List Char) :
    kind.LongestSpelling text (text.toList ++ (cs ++ b :: rest)) := by
  refine ⟨h.isSpelling, List.prefix_append _ _, fun kind' text' h' hp => ?_⟩
  rw [← List.append_assoc] at hp
  by_cases hmem : b ∈ text'.toList
  · have hpos : 0 < text.toList.length := List.length_pos_iff.2 h.isSpelling.ne_nil
    rw [← String.length_toList, ← String.length_toList (s := text), h'.eq_bracket hb hk hmem]
    exact hpos
  · apply h.longest kind' text' h'
    have hbracket : text.toList ++ cs ++ [b] <+: text.toList ++ cs ++ b :: rest :=
      (List.prefix_append_right_inj _).2 (List.prefix_append [b] rest)
    rcases List.prefix_or_prefix_of_prefix hp hbracket with hshort | hlong
    · rcases List.prefix_concat_iff.1 hshort with heq | hshort
      · exact absurd (by simp [heq]) hmem
      · exact hshort
    · exact absurd (hlong.subset (by simp)) hmem

end TokenKind

namespace Lexer

variable {offset : Nat} {text rest : List Char} {tokens tokens' : List Token} {b : Char} {bracket : TokenKind}

/-- Two texts with a bracket between them. -/
theorem Tiles.bracket_between (h : Tiles offset text tokens none)
    (h' : Tiles (offset + Text.utf8Length text + b.utf8Size) rest tokens' none)
    (hb : TokenKind.ofChar? b = some bracket) (hk : bracket.isBracket) :
    Tiles offset (text ++ b :: rest)
      (tokens ++ ⟨bracket, String.ofList [b], spanAt (offset + Text.utf8Length text) [b]⟩ :: tokens') none := by
  induction tokens generalizing offset text with
  | nil =>
      cases h with
      | finished hs =>
          have hlong := TokenKind.longestSpelling_bracket hb hk rest
          have hlist : (String.ofList [b]).toList = [b] := String.toList_ofList
          have htile : Tiles offset (text ++ (String.ofList [b]).toList ++ rest) _ none :=
            .token hs (by rw [hlist]; exact hlong) (by rw [hlist]; exact h')
          rw [hlist, List.append_assoc] at htile
          exact htile
  | cons t tokens ih =>
      cases h with
      | @token _ space cs _ _ kind spelling hs hl h =>
          have hlength : offset + Text.utf8Length (space ++ spelling.toList ++ cs) =
              offset + Text.utf8Length space + Text.utf8Length spelling.toList + Text.utf8Length cs := by
            rw [Text.utf8Length_append, Text.utf8Length_append]
            omega
          rw [hlength] at h' ⊢
          have htile : Tiles offset (space ++ spelling.toList ++ (cs ++ b :: rest)) _ none :=
            .token hs (hl.before_bracket hb hk rest) (ih h h')
          rw [← List.append_assoc] at htile
          exact htile

/-- The same text further to the right consists of the same tokens further to the right. -/
theorem Tiles.moved (h : Tiles offset text tokens none) (distance : Nat) :
    Tiles (offset + distance) text (tokens.map (Token.moved distance)) none := by
  induction tokens generalizing offset text with
  | nil =>
      cases h with
      | finished hs => exact .finished hs
  | cons t tokens ih =>
      cases h with
      | @token _ space rest _ _ kind spelling hs hl h =>
          have hrest := ih h
          rw [Nat.add_right_comm _ _ distance, Nat.add_right_comm _ _ distance] at hrest
          have htile := Tiles.token hs hl hrest
          rw [List.map_cons, Token.moved, spanAt_moved, Nat.add_right_comm _ _ distance]
          exact htile

end Lexer

namespace Span

/-- The text with one character in front of the part at a range and another one behind it. -/
def enclose? (source : String) (s : Span) (opening closing : Char) : Option String := do
  let (before, behind) ← Text.splitAt? s.start source.toList
  let (part, after) ← Text.splitAt? s.length behind
  return String.ofList (before ++ opening :: part ++ closing :: after)

theorem enclose?_of_parts {source : String} {s : Span} {before part after : List Char}
    (h : source.toList = before ++ part ++ after) (hb : Text.utf8Length before = s.start)
    (hp : Text.utf8Length part = s.length) (opening closing : Char) :
    s.enclose? source opening closing = some (String.ofList (before ++ opening :: part ++ closing :: after)) := by
  rw [enclose?, h, ← hb, ← hp, List.append_assoc, Text.splitAt?_utf8Length]
  show (Text.splitAt? _ (part ++ after)).bind _ = _
  rw [Text.splitAt?_utf8Length]
  rfl

end Span

namespace Lexer

/-- Brackets around a row of the tokens of a source. -/
theorem tokenize_enclosed {source : String} {before within after : List Token} {s : Span} {o c : Char}
    (h : tokenize source = .ok (before ++ within ++ after)) (hs : s.Covers within)
    (ho : TokenKind.ofChar? o = some .opening) (hc : TokenKind.ofChar? c = some .closing) :
    ∃ text opening closing, s.enclose? source o c = some text ∧ opening.kind = .opening ∧ closing.kind = .closing ∧
      tokenize text = .ok (before ++ opening :: within.map (Token.moved o.utf8Size) ++
        closing :: after.map (Token.moved (o.utf8Size + c.utf8Size))) := by
  obtain ⟨skipped, part, rest, hsource, hskipped, hpart, hbefore, hwithin, hafter⟩ := exists_parts h hs
  have hlength := s.start_le_stop
  rw [Span.length] at hpart
  -- From the right to the left, each text is tiled where it stands in the new one.
  have hbehind : s.stop + (o.utf8Size + c.utf8Size) =
      s.start + o.utf8Size + Text.utf8Length part + c.utf8Size := by omega
  have hrest := hafter.moved (o.utf8Size + c.utf8Size)
  rw [hbehind] at hrest
  have hclosed := (hwithin.moved o.utf8Size).bracket_between hrest hc rfl
  have hfront : s.start + o.utf8Size = 0 + Text.utf8Length skipped + o.utf8Size := by omega
  rw [hfront] at hclosed
  have hopened := hbefore.bracket_between hclosed ho rfl
  rw [← List.cons_append, ← List.append_assoc, ← List.cons_append, ← List.append_assoc,
    ← String.toList_ofList (l := skipped ++ o :: part ++ c :: rest)] at hopened
  have htext := Span.enclose?_of_parts hsource hskipped hpart o c
  refine ⟨_, _, _, htext, ?_, ?_, tokenize_eq_ok_iff.2 hopened⟩
  · rfl
  · rfl

end Lexer

end FormulaDiagram
