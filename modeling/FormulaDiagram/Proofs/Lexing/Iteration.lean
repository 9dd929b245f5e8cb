import FormulaDiagram.Proofs.Lexing.Tiling

/-!
The lexer call by call. What it yields is decided by the tiling of what it has still to read: each call yields the
next token, the call behind the last token yields the error if there is one, and from then on every call yields
nothing. So the lexer loses nothing, and a text has no tiling but the one that it answers.
-/

namespace FormulaDiagram.Lexer

/-- The lexer after a number of calls. -/
def after (l : Lexer) : Nat → Lexer
  | 0 => l
  | n + 1 => l.next.2.after n

/-- What the call yields that follows a number of calls. -/
def call (l : Lexer) (n : Nat) : Option (Except LexError Token) := (l.after n).next.1

/-! ### Calls and items -/

section

variable {l behind : Lexer} {item : Except LexError Token}

theorem next_of_done (h : l.done) : l.next = (none, l) := by
  rw [next, if_pos h]

/-- A lexer that yields nothing is done. -/
theorem done_of_next (h : l.next = (none, behind)) : behind.done := by
  rw [next] at h
  split at h
  · cases h
    assumption
  · dsimp only at h
    split at h
    · cases h
      rfl
    · split at h <;> cases h

theorem items_of_none (h : l.next = (none, behind)) : l.items = [] := by
  rw [items]
  split
  · rfl
  · rename_i h'
    rw [h] at h'
    cases h'

theorem items_of_some (h : l.next = (some item, behind)) : l.items = item :: behind.items := by
  rw [items]
  split
  · rename_i h'
    rw [h] at h'
    cases h'
  · rename_i h'
    rw [h] at h'
    cases h'
    rfl

theorem items_of_done (h : l.done) : l.items = [] := items_of_none (next_of_done h)

/-- The calls yield the items one by one, and then nothing for ever. -/
theorem call_eq_getElem? (l : Lexer) (n : Nat) : l.call n = l.items[n]? := by
  induction n generalizing l with
  | zero =>
      rcases hnext : l.next with ⟨yielded, behind⟩
      rw [call, after, hnext]
      cases yielded with
      | none => rw [items_of_none hnext]; rfl
      | some item => rw [items_of_some hnext]; rfl
  | succ n ih =>
      rcases hnext : l.next with ⟨yielded, behind⟩
      have hcall : l.call (n + 1) = behind.call n := by rw [call, after, hnext]; rfl
      rw [hcall, ih]
      cases yielded with
      | none => rw [items_of_none hnext, items_of_done (done_of_next hnext)]; rfl
      | some item => rw [items_of_some hnext, List.getElem?_cons_succ]

theorem collect_of_none (h : l.next = (none, behind)) : l.collect = .ok [] := by
  rw [collect]
  split
  · rfl
  all_goals
    rename_i h'
    rw [h] at h'
    cases h'

theorem collect_of_error {e : LexError} (h : l.next = (some (.error e), behind)) : l.collect = .error e := by
  rw [collect]
  split
  all_goals
    rename_i h'
    rw [h] at h'
    cases h'
  rfl

theorem collect_of_ok {t : Token} (h : l.next = (some (.ok t), behind)) :
    l.collect = behind.collect.map (t :: ·) := by
  rw [collect]
  split
  all_goals
    rename_i h'
    rw [h] at h'
    cases h'
  cases behind.collect <;> rfl

end

/-- What a lexer yields that finds some tokens and then an error or the end. -/
def itemsOf (tokens : List Token) (failure : Option LexError) : List (Except LexError Token) :=
  tokens.map .ok ++ failure.toList.map .error

/-- Collecting stops at the error. -/
theorem collect_of_items {l : Lexer} {tokens : List Token} {failure : Option LexError} :
    l.items = itemsOf tokens failure → l.collect = match failure with
      | some e => .error e
      | none => .ok tokens := by
  intro h
  induction tokens generalizing l with
  | nil =>
      rcases hnext : l.next with ⟨yielded, behind⟩
      cases yielded with
      | none =>
          rw [items_of_none hnext] at h
          cases failure with
          | none => exact collect_of_none hnext
          | some e => cases h
      | some item =>
          rw [items_of_some hnext] at h
          cases failure with
          | none => cases h
          | some e =>
              cases (List.cons.inj h).1
              exact collect_of_error hnext
  | cons t tokens ih =>
      rcases hnext : l.next with ⟨yielded, behind⟩
      cases yielded with
      | none =>
          rw [items_of_none hnext] at h
          cases h
      | some item =>
          rw [items_of_some hnext] at h
          obtain ⟨rfl, hbehind⟩ := List.cons.inj h
          rw [collect_of_ok hnext, ih hbehind]
          cases failure <;> rfl

/-! ### What a call yields -/

/-- The lexer has read the beginning of its source and may yield more. -/
structure Reading (l : Lexer) (before : List Char) : Prop where
  source_eq : l.source.toList = before ++ l.input
  done_eq : l.done = false

section

variable {l : Lexer} {before space rest : List Char}

theorem reading_new (source : String) : (new source).Reading [] := ⟨rfl, rfl⟩

/-- What is left to read has the offset of what is read as its own. -/
theorem offset_eq (h : l.source.toList = before ++ l.input) : l.offset = Text.utf8Length before := by
  have hlength := Text.utf8Length_toList l.source
  rw [h, Text.utf8Length_append] at hlength
  rw [offset]
  omega

theorem Reading.skip (h : l.Reading before) {skipped : List Char} (hin : l.input = skipped ++ rest) :
    Reading { l with input := rest } (before ++ skipped) :=
  ⟨by rw [h.source_eq, hin, List.append_assoc], h.done_eq⟩

theorem passSpace_eq (hin : l.input = space ++ rest) (hs : Blank space)
    (hrest : ∀ c ∈ rest.head?, Text.isWhiteSpace c = false) : l.passSpace = { l with input := rest } := by
  have hdrop : rest.dropWhile Text.isWhiteSpace = rest := by
    cases rest with
    | nil => rfl
    | cons c rest => exact List.dropWhile_cons_of_neg (Bool.eq_false_iff.1 (hrest c rfl))
  rw [passSpace, hin, List.dropWhile_append_of_pos hs, hdrop]

theorem next_of_blank (hd : l.done = false) (hs : Blank l.input) :
    l.next = (none, { l with input := [], done := true }) := by
  have hp := passSpace_eq (List.append_nil l.input).symm hs fun c hc => by cases hc
  rw [next, if_neg (Bool.eq_false_iff.1 hd), hp]
  rfl

theorem Reading.next_of_stuck (h : l.Reading before) {c : Char} (hin : l.input = space ++ c :: rest)
    (hs : Blank space) (hc : Text.isWhiteSpace c = false) (hl : lexeme? c rest = none) :
    l.next = (some (.error ⟨Text.utf8Length (before ++ space), c⟩),
      { l with input := c :: rest, done := true }) := by
  have hp := passSpace_eq hin hs fun d hd => by cases hd; exact hc
  have hoffset := offset_eq (h.skip hin).source_eq
  rw [next, if_neg (Bool.eq_false_iff.1 h.done_eq), hp]
  simp only [hl, hoffset, finish]

/-- The token between the lexer and the lexer that has read a text more has this text. -/
theorem Reading.tokenBetween (h : l.Reading before) {text : String} (hin : l.input = text.toList ++ rest)
    (kind : TokenKind) : tokenBetween kind l { l with input := rest } =
      ⟨kind, text, spanAt (Text.utf8Length before) text.toList⟩ := by
  have hspan : Span.between l.offset (offset { l with input := rest }) =
      spanAt (Text.utf8Length before) text.toList := by
    have hle := Nat.le_add_right (Text.utf8Length before) (Text.utf8Length text.toList)
    rw [offset_eq h.source_eq, offset_eq (h.skip hin).source_eq, Text.utf8Length_append, Span.between]
    simp only [Nat.max_eq_right hle]
    rfl
  have hsource : l.source.toList = before ++ text.toList ++ rest := by
    rw [h.source_eq, hin, List.append_assoc]
  have hslice := slice?_spanAt hsource
  rw [String.ofList_toList] at hslice
  simp only [Lexer.tokenBetween, hspan, hslice, Option.getD_some]

theorem Reading.next_of_token (h : l.Reading before) {kind : TokenKind} {text : String}
    (hin : l.input = space ++ text.toList ++ rest) (hs : Blank space)
    (hlong : kind.LongestSpelling text (text.toList ++ rest)) :
    l.next = (some (.ok ⟨kind, text, spanAt (Text.utf8Length (before ++ space)) text.toList⟩),
      { l with input := rest }) := by
  rw [List.append_assoc] at hin
  have htoken := (h.skip hin).tokenBetween rfl kind
  obtain ⟨c, cs, hcs⟩ := List.exists_cons_of_ne_nil hlong.isSpelling.ne_nil
  rw [hcs, List.cons_append] at hin hlong htoken
  have hspace := hlong.isSpelling.not_isWhiteSpace hlong.isPrefix
  have hp := passSpace_eq hin hs fun d hd => by cases hd; exact hspace
  rw [next, if_neg (Bool.eq_false_iff.1 h.done_eq), hp]
  simp only [lexeme?_of_longestSpelling hlong hcs, List.drop_left, htoken, hcs]

end

/-! ### The lexer's answer is the tiling -/

section

variable {offset : Nat} {text : List Char} {tokens : List Token} {failure : Option LexError}

/-- The items are those of the tiling of what is left to read. -/
theorem items_of_tiles (h : Tiles offset text tokens failure) {l : Lexer} {before : List Char}
    (hl : l.Reading before) (hoffset : offset = Text.utf8Length before) (hin : l.input = text) :
    l.items = itemsOf tokens failure := by
  induction h generalizing l before with
  | finished hs => exact items_of_none (next_of_blank hl.done_eq (hin ▸ hs))
  | stuck hs hc hn =>
      have hnext := hl.next_of_stuck hin hs hc (lexeme?_of_not_isSpelling hn)
      rw [items_of_some hnext, items_of_done rfl, Text.utf8Length_append, hoffset]
      rfl
  | token hs hlong _ ih =>
      have hnext := hl.next_of_token hin hs hlong
      have hbehind := hl.skip hin
      rw [items_of_some hnext, ih hbehind ?_ rfl, Text.utf8Length_append, hoffset]
      · rfl
      · rw [Text.utf8Length_append, Text.utf8Length_append, hoffset, Nat.add_assoc]

theorem items_new {source : String} (h : Tiles 0 source.toList tokens failure) :
    (new source).items = itemsOf tokens failure :=
  items_of_tiles h (reading_new source) rfl rfl

theorem lex_of_tiles {source : String} (h : Tiles 0 source.toList tokens failure) :
    lex source = ⟨tokens, failure⟩ := by
  have hok : (tokens.map Except.ok).filterMap (Except.toOption (ε := LexError)) = tokens := by
    rw [List.filterMap_map]
    exact List.filterMap_some
  have hnone : (tokens.map Except.ok).findSome? error? = none := by
    rw [List.findSome?_eq_none_iff]
    intro item hitem
    obtain ⟨t, -, rfl⟩ := List.mem_map.1 hitem
    rfl
  rw [lex, items_new h, itemsOf, List.filterMap_append, hok, List.findSome?_append, hnone]
  cases failure with
  | none => rw [Option.toList_none, List.map_nil, List.filterMap_nil, List.append_nil]; rfl
  | some e => exact congrArg (Lexing.mk · (some e)) (List.append_nil tokens)

theorem tiles_lex (source : String) : Tiles 0 source.toList (lex source).tokens (lex source).failure := by
  obtain ⟨tokens, failure, h⟩ := exists_tiles 0 source.toList
  rw [lex_of_tiles h]
  exact h

theorem lex_eq_iff {source : String} {lexing : Lexing} :
    lex source = lexing ↔ Tiles 0 source.toList lexing.tokens lexing.failure := by
  constructor
  · rintro rfl
    exact tiles_lex source
  · exact lex_of_tiles

/-- The calls of the lexer yield the tokens, then the error if there is one, then nothing. -/
theorem call_new (source : String) (n : Nat) :
    (new source).call n = (itemsOf (lex source).tokens (lex source).failure)[n]? := by
  rw [call_eq_getElem?, items_new (tiles_lex source)]

theorem tokenize_eq (source : String) : tokenize source = match (lex source).failure with
    | some e => .error e
    | none => .ok (lex source).tokens :=
  collect_of_items (items_new (tiles_lex source))

theorem tokenize_of_failure {source : String} (h : (lex source).failure = none) :
    tokenize source = .ok (lex source).tokens := by
  rw [tokenize_eq, h]

/-- A source consists of tokens if its tiling comes to its end. -/
theorem tokenize_eq_ok_iff {source : String} {tokens : List Token} :
    tokenize source = .ok tokens ↔ Tiles 0 source.toList tokens none := by
  constructor
  · intro h
    have htiles := tiles_lex source
    rw [tokenize_eq] at h
    cases hf : (lex source).failure with
    | some e =>
        simp only [hf] at h
        cases h
    | none =>
        simp only [hf] at h
        cases h
        rw [hf] at htiles
        exact htiles
  · intro h
    rw [tokenize_eq, lex_of_tiles h]

end

theorem slice?_token {source : String} {t : Token} (ht : t ∈ (lex source).tokens) :
    t.span.slice? source = some t.text ∧ t.span.start < t.span.stop := by
  obtain ⟨before, after, hsource, hne, hspan⟩ := (tiles_lex source).exists_text ht
  rw [Nat.zero_add] at hspan
  have hpos := Text.utf8Length_pos hne
  rw [hspan, slice?_spanAt hsource, String.ofList_toList]
  exact ⟨rfl, Nat.lt_add_of_pos_right hpos⟩

theorem slice?_found {source : String} {e : LexError} (he : (lex source).failure = some e) :
    e.span.slice? source = some (String.ofList [e.found]) := by
  obtain ⟨before, after, hsource, hoffset⟩ := (tiles_lex source).exists_found he
  rw [List.append_cons] at hsource
  rw [Nat.zero_add] at hoffset
  have hspan : e.span = spanAt (Text.utf8Length before) [e.found] := by
    rw [LexError.span, spanAt, ← hoffset]
    rfl
  rw [hspan]
  exact slice?_spanAt hsource

/-- The lexer cuts a source without loss. Its answer is the one tiling of the source, in which white space and the
longest spellings stand one behind the other, up to the end or up to the first character that is not white space
and where no spelling stands. The tokens are not empty and follow one another, each with the part of the source at
its place as its text, and the character of a failure is the one at its place. The calls of the lexer yield the
tokens one by one, then the failure if there is one, and nothing ever after; collecting what they yield gives the
tokens or the failure. -/
theorem lex_tiles_source (source : String) :
    (∀ lexing, lex source = lexing ↔ Tiles 0 source.toList lexing.tokens lexing.failure) ∧
      (∀ t ∈ (lex source).tokens, t.span.slice? source = some t.text ∧ t.span.start < t.span.stop) ∧
      ((lex source).tokens.Pairwise fun t u => t.span.stop ≤ u.span.start) ∧
      (∀ e, (lex source).failure = some e → e.span.slice? source = some (String.ofList [e.found])) ∧
      (∀ n, (new source).call n = (itemsOf (lex source).tokens (lex source).failure)[n]?) ∧
      tokenize source = match (lex source).failure with
        | some e => .error e
        | none => .ok (lex source).tokens :=
  ⟨fun _ => lex_eq_iff, fun _ => slice?_token, (tiles_lex source).pairwise, fun _ => slice?_found,
    call_new source, tokenize_eq source⟩

-- Behind the hyphen, which begins no token, the name is not reached any more.
example : (new "p -q").next.1 = some (.ok ⟨.identifier, "p", ⟨0, 1, by decide⟩⟩) ∧
    (new "p -q").next.2.next.1 = some (.error ⟨2, '-'⟩) ∧ (new "p -q").next.2.next.2.next.1 = none :=
  ⟨rfl, rfl, rfl⟩

end FormulaDiagram.Lexer
