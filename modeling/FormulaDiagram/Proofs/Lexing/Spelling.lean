import FormulaDiagram.Lexer
import FormulaDiagram.Proofs.Printing.Basic

/-!
How tokens are spelled, stated without the lexer. Every kind but that of identifiers has a few fixed signs, and an
identifier is spelled by any row of identifier characters that is not empty. A spelling belongs to one kind only.
Several spellings may stand at the head of a text, each the beginning of the next: `LongestSpelling` is the last
of them, and it is the one that the lexer takes.
-/

namespace FormulaDiagram

namespace Text

theorem exists_range {n : Nat} {ranges : List (Nat × Nat)} (h : inRanges n ranges) :
    ∃ r ∈ ranges, r.1 ≤ n ∧ n ≤ r.2 := by
  induction ranges with
  | nil => cases h
  | cons r ranges ih =>
      rw [inRanges] at h
      split at h
      · cases h
      · rcases Bool.or_eq_true_iff.1 h with h | h
        · exact ⟨r, List.mem_cons_self, Nat.not_lt.1 ‹_›, of_decide_eq_true h⟩
        · obtain ⟨r', hr', hn⟩ := ih h
          exact ⟨r', List.mem_cons_of_mem _ hr', hn⟩

/-- Each of the ranges is apart from each of the others. -/
def areApart (ranges others : List (Nat × Nat)) : Bool :=
  ranges.all fun r => others.all fun r' => r.2 < r'.1 || r'.2 < r.1

theorem not_inRanges {n : Nat} {ranges others : List (Nat × Nat)} (ha : areApart ranges others)
    (h : inRanges n ranges) : inRanges n others = false := by
  refine Bool.eq_false_iff.2 fun h' => ?_
  obtain ⟨r, hr, hlow, hhigh⟩ := exists_range h
  obtain ⟨r', hr', hlow', hhigh'⟩ := exists_range h'
  rcases Bool.or_eq_true_iff.1 (List.all_eq_true.1 (List.all_eq_true.1 ha r hr) r' hr') with hlt | hlt
  · have := of_decide_eq_true hlt
    omega
  · have := of_decide_eq_true hlt
    omega

/-- No character of an identifier is white space. -/
theorem not_isWhiteSpace {c : Char} (h : isIdentifier c) : isWhiteSpace c = false := by
  rcases Bool.or_eq_true_iff.1 h with h | h
  · refine Bool.eq_false_iff.2 fun h' => ?_
    rw [isAlphanumeric, not_inRanges (by decide +kernel) h'] at h
    cases h
  · cases of_decide_eq_true h
    decide

/-- A run of identifier characters is a name. -/
theorem isName_run {c : Char} (hc : isIdentifier c) (rest : List Char) :
    IsName (String.ofList (c :: rest.take (rest.takeWhile isIdentifier).length)) := by
  rw [IsName, String.toList_ofList]
  refine ⟨List.cons_ne_nil _ _, List.forall_mem_cons.2 ⟨hc, fun d hd => ?_⟩⟩
  have htake : rest.take (rest.takeWhile isIdentifier).length = rest.takeWhile isIdentifier :=
    calc rest.take (rest.takeWhile isIdentifier).length
      _ = (rest.takeWhile isIdentifier ++ rest.dropWhile isIdentifier).take _ := by
        rw [List.takeWhile_append_dropWhile]
      _ = _ := List.take_left
  rw [htake] at hd
  exact List.all_eq_true.1 List.all_takeWhile d hd

end Text

namespace TokenKind

/-- The fixed spellings of a kind, the usual one first. -/
def signs : TokenKind → List String
  | .identifier => []
  | .not => ["¬", "~"]
  | .and => ["∧", "&"]
  | .or => ["∨", "|"]
  | .implies => ["→", "⇒", "->", "=>"]
  | .iff => ["↔", "⇔", "<->", "<=>"]
  | .forAll => ["∀", "!"]
  | .forSome => ["∃", "?"]
  | .equals => ["="]
  | .notEquals => ["≠", "~="]
  | .opening => ["(", "[", "\x7b"]
  | .closing => [")", "]", "\x7d"]
  | .dot => [".", ":"]
  | .comma => [","]

/-- The text is a spelling of the kind. -/
def IsSpelling (kind : TokenKind) (text : String) : Prop :=
  text ∈ kind.signs ∨ kind = .identifier ∧ Text.IsName text

instance (kind : TokenKind) (text : String) : Decidable (kind.IsSpelling text) :=
  inferInstanceAs (Decidable (_ ∨ _ ∧ _))

/-- The text is a spelling of the kind that stands at the head of some characters, and no spelling of any kind
that stands there is longer. -/
structure LongestSpelling (kind : TokenKind) (text : String) (cs : List Char) : Prop where
  isSpelling : kind.IsSpelling text
  isPrefix : text.toList <+: cs
  longest : ∀ (kind' : TokenKind) (text' : String), kind'.IsSpelling text' → text'.toList <+: cs →
    text'.length ≤ text.length

/-! ### Signs of one character and of several -/

/-- The signs of several characters. -/
def compounds : List (TokenKind × List Char) :=
  [(.iff, ['<', '=', '>']), (.iff, ['<', '-', '>']), (.implies, ['-', '>']), (.implies, ['=', '>']),
    (.notEquals, ['~', '='])]

/-- A sign is a single character or one of the compounds. -/
theorem mem_signs_iff {kind : TokenKind} {text : String} :
    text ∈ kind.signs ↔
      (∃ c, text.toList = [c] ∧ ofChar? c = some kind) ∨ (kind, text.toList) ∈ compounds := by
  constructor
  · intro h
    have hsigns : ∀ text ∈ kind.signs,
        (text.toList.length = 1 ∧ text.toList.head?.bind ofChar? = some kind) ∨ (kind, text.toList) ∈ compounds := by
      cases kind <;> decide
    rcases hsigns text h with ⟨hl, hc⟩ | hmem
    · obtain ⟨c, htext⟩ := List.length_eq_one_iff.1 hl
      rw [htext] at hc
      exact .inl ⟨c, htext, hc⟩
    · exact .inr hmem
  · rintro (⟨c, htext, hc⟩ | hmem)
    · rw [← String.ofList_toList (s := text), htext]
      rw [ofChar?.eq_def] at hc
      split at hc
      all_goals cases hc
      all_goals decide
    · rw [← String.ofList_toList (s := text)]
      generalize text.toList = cs at hmem
      simp only [compounds, List.mem_cons, Prod.mk.injEq, List.not_mem_nil, or_false] at hmem
      rcases hmem with ⟨rfl, rfl⟩ | ⟨rfl, rfl⟩ | ⟨rfl, rfl⟩ | ⟨rfl, rfl⟩ | ⟨rfl, rfl⟩
      all_goals decide

theorem ofChars?_eq_some_iff {cs : List Char} {kind : TokenKind} {further : Nat} :
    ofChars? cs = some (kind, further) ↔
      ∃ sign, (kind, sign) ∈ compounds ∧ sign <+: cs ∧ sign.length = further + 1 := by
  constructor
  · intro h
    rw [ofChars?.eq_def] at h
    split at h
    all_goals cases h
    · exact ⟨['<', '=', '>'], by decide, ⟨_, rfl⟩, rfl⟩
    · exact ⟨['<', '-', '>'], by decide, ⟨_, rfl⟩, rfl⟩
    · exact ⟨['-', '>'], by decide, ⟨_, rfl⟩, rfl⟩
    · exact ⟨['=', '>'], by decide, ⟨_, rfl⟩, rfl⟩
    · exact ⟨['~', '='], by decide, ⟨_, rfl⟩, rfl⟩
  · rintro ⟨sign, hmem, ⟨rest, rfl⟩, hl⟩
    simp only [compounds, List.mem_cons, Prod.mk.injEq, List.not_mem_nil, or_false] at hmem
    rcases hmem with ⟨rfl, rfl⟩ | ⟨rfl, rfl⟩ | ⟨rfl, rfl⟩ | ⟨rfl, rfl⟩ | ⟨rfl, rfl⟩
    all_goals
      cases Nat.succ.inj hl
      rfl

theorem ofChars?_eq_none {c : Char} (text : List Char) (hc : Text.isIdentifier c) :
    ofChars? (c :: text) = none := by
  rw [ofChars?.eq_def]
  split
  all_goals first | rfl | skip
  all_goals
    rename_i h
    cases h
    revert hc
    decide

theorem length_compound {kind : TokenKind} {sign : List Char} (h : (kind, sign) ∈ compounds) :
    2 ≤ sign.length := by
  have hall : ∀ p ∈ compounds, 2 ≤ p.2.length := by decide
  exact hall _ h

theorem not_isWhiteSpace_of_compound {kind : TokenKind} {c : Char} {cs : List Char}
    (h : (kind, c :: cs) ∈ compounds) : Text.isWhiteSpace c = false := by
  have hall : ∀ p ∈ compounds, p.2.head?.map Text.isWhiteSpace = some false := by decide
  exact Option.some.inj (hall _ h)

/-- No sign of one character may stand in an identifier or between tokens. -/
theorem excluded_of_ofChar? {c : Char} {kind : TokenKind} (h : ofChar? c = some kind) :
    Text.isIdentifier c = false ∧ Text.isWhiteSpace c = false := by
  rw [ofChar?.eq_def] at h
  split at h
  all_goals cases h
  all_goals decide +kernel

/-! ### What the lexer takes -/

section

variable {kind : TokenKind} {text : String} {c : Char} {rest : List Char}

/-- A spelling at the head of a text is a compound, a sign of one character or a part of a name there. -/
theorem IsSpelling.head_cases (h : kind.IsSpelling text) (hp : text.toList <+: c :: rest) :
    (2 ≤ text.length ∧ ofChars? (c :: rest) = some (kind, text.length - 1)) ∨
      (text.length = 1 ∧ ofChar? c = some kind) ∨
      kind = .identifier ∧ Text.isIdentifier c ∧ text.length ≤ (rest.takeWhile Text.isIdentifier).length + 1 := by
  rcases h with h | ⟨rfl, hne, hall⟩
  · rcases mem_signs_iff.1 h with ⟨d, htext, hd⟩ | hmem
    · rw [htext] at hp
      obtain ⟨rfl, -⟩ := List.cons_prefix_cons.1 hp
      refine .inr (.inl ⟨?_, hd⟩)
      rw [← String.length_toList, htext]
      rfl
    · have hl := length_compound hmem
      rw [String.length_toList] at hl
      refine .inl ⟨hl, ofChars?_eq_some_iff.2 ⟨text.toList, hmem, hp, ?_⟩⟩
      rw [String.length_toList]
      omega
  · obtain ⟨d, ds, hd⟩ := List.exists_cons_of_ne_nil hne
    rw [hd] at hp hall
    obtain ⟨rfl, hds⟩ := List.cons_prefix_cons.1 hp
    obtain ⟨more, rfl⟩ := hds
    refine .inr (.inr ⟨rfl, hall d List.mem_cons_self, ?_⟩)
    rw [← String.length_toList, hd, List.length_cons,
      List.takeWhile_append_of_pos fun e he => hall e (List.mem_cons_of_mem d he), List.length_append]
    omega

/-- No token begins with white space. -/
theorem IsSpelling.not_isWhiteSpace (h : kind.IsSpelling text) (hp : text.toList <+: c :: rest) :
    Text.isWhiteSpace c = false := by
  rcases h with h | ⟨rfl, hne, hall⟩
  · rcases mem_signs_iff.1 h with ⟨d, htext, hd⟩ | hmem
    · rw [htext] at hp
      obtain ⟨rfl, -⟩ := List.cons_prefix_cons.1 hp
      exact (excluded_of_ofChar? hd).2
    · cases hcs : text.toList with
      | nil =>
          have hl := length_compound hmem
          rw [hcs, List.length_nil] at hl
          omega
      | cons d ds =>
          rw [hcs] at hp hmem
          obtain ⟨rfl, -⟩ := List.cons_prefix_cons.1 hp
          exact not_isWhiteSpace_of_compound hmem
  · obtain ⟨d, ds, hd⟩ := List.exists_cons_of_ne_nil hne
    rw [hd] at hp hall
    obtain ⟨rfl, -⟩ := List.cons_prefix_cons.1 hp
    exact Text.not_isWhiteSpace (hall d List.mem_cons_self)

theorem IsSpelling.isName (h : IsSpelling .identifier text) : Text.IsName text := by
  rcases h with h | ⟨-, h⟩
  · cases h
  · exact h

theorem IsSpelling.ne_nil (h : kind.IsSpelling text) : text.toList ≠ [] := by
  rcases h with h | ⟨-, hne, -⟩
  · intro hnil
    rcases mem_signs_iff.1 h with ⟨c, htext, -⟩ | hmem
    · rw [hnil] at htext
      cases htext
    · have hl := length_compound hmem
      rw [hnil, List.length_nil] at hl
      omega
  · exact hne

/-- The lexer looks for a compound, then for a name, then for a sign of one character. -/
theorem lexeme?_eq_some {further : Nat} (h : Lexer.lexeme? c rest = some (kind, further)) :
    ofChars? (c :: rest) = some (kind, further) ∨
      ofChars? (c :: rest) = none ∧
        (Text.isIdentifier c ∧ kind = .identifier ∧ further = (rest.takeWhile Text.isIdentifier).length ∨
          Text.isIdentifier c = false ∧ ofChar? c = some kind ∧ further = 0) := by
  rw [Lexer.lexeme?] at h
  cases hs : ofChars? (c :: rest) with
  | some p =>
      rw [hs] at h
      exact .inl h
  | none =>
      rw [hs] at h
      refine .inr ⟨rfl, ?_⟩
      by_cases hc : Text.isIdentifier c
      · simp only [hc, if_true] at h
        cases h
        exact .inl ⟨hc, rfl, rfl⟩
      · simp only [hc] at h
        obtain ⟨k, hk, h⟩ := Option.map_eq_some_iff.1 h
        cases h
        exact .inr ⟨Bool.eq_false_iff.2 hc, hk, rfl⟩

theorem isSpelling_of_lexeme? {further : Nat} (h : Lexer.lexeme? c rest = some (kind, further)) :
    further ≤ rest.length ∧ kind.IsSpelling (String.ofList (c :: rest.take further)) := by
  rcases lexeme?_eq_some h with hs | ⟨-, ⟨hc, rfl, hf⟩ | ⟨-, hk, rfl⟩⟩
  · obtain ⟨sign, hmem, hpre, hl⟩ := ofChars?_eq_some_iff.1 hs
    have hle := hpre.length_le
    rw [hl, List.length_cons] at hle
    have hsign : sign = c :: rest.take further := by
      rw [List.prefix_iff_eq_take.1 hpre, hl, List.take_succ_cons]
    refine ⟨Nat.le_of_succ_le_succ hle, .inl (mem_signs_iff.2 (.inr ?_))⟩
    rw [String.toList_ofList, ← hsign]
    exact hmem
  · rw [hf]
    exact ⟨(List.takeWhile_prefix _).length_le, .inr ⟨rfl, Text.isName_run hc rest⟩⟩
  · refine ⟨Nat.zero_le _, .inl (mem_signs_iff.2 (.inl ⟨c, ?_, hk⟩))⟩
    rw [String.toList_ofList, List.take_zero]

/-- The lexer takes the longest spelling. -/
theorem longestSpelling_of_lexeme? {further : Nat} (h : Lexer.lexeme? c rest = some (kind, further)) :
    kind.LongestSpelling (String.ofList (c :: rest.take further)) (c :: rest) := by
  obtain ⟨hle, hspelling⟩ := isSpelling_of_lexeme? h
  refine ⟨hspelling, ?_, fun kind' text' h' hp => ?_⟩
  · rw [String.toList_ofList]
    exact (List.prefix_cons_inj c).2 (List.take_prefix further rest)
  · have hl : (String.ofList (c :: rest.take further)).length = further + 1 := by
      rw [String.length_ofList, List.length_cons, List.length_take, Nat.min_eq_left hle]
    rw [hl]
    rcases h'.head_cases hp with ⟨-, hs'⟩ | ⟨hone, -⟩ | ⟨-, hc, hname⟩
    · rcases lexeme?_eq_some h with hs | ⟨hs, -⟩
      · rw [hs] at hs'
        cases hs'
        omega
      · rw [hs] at hs'
        cases hs'
    · omega
    · rcases lexeme?_eq_some h with hs | ⟨-, ⟨-, -, hf⟩ | ⟨hc', -⟩⟩
      · rw [ofChars?_eq_none rest hc] at hs
        cases hs
      · omega
      · rw [hc] at hc'
        cases hc'

/-- Where the lexer finds no token there is no spelling. -/
theorem not_isSpelling_of_lexeme? (h : Lexer.lexeme? c rest = none) (hp : text.toList <+: c :: rest) :
    ¬kind.IsSpelling text := by
  intro hspelling
  rw [Lexer.lexeme?] at h
  rcases hspelling.head_cases hp with ⟨-, hs⟩ | ⟨-, hk⟩ | ⟨-, hc, -⟩
  · rw [hs] at h
    cases h
  · rw [hk] at h
    split at h
    · cases h
    · split at h <;> cases h
  · rw [if_pos hc] at h
    split at h <;> cases h

/-- A spelling belongs to one kind. -/
theorem IsSpelling.kind_unique {kind' : TokenKind} (h : kind.IsSpelling text) (h' : kind'.IsSpelling text) :
    kind = kind' := by
  obtain ⟨c, rest, hcs⟩ := List.exists_cons_of_ne_nil h.ne_nil
  have hp : text.toList <+: c :: rest := hcs ▸ List.prefix_rfl
  rcases h.head_cases hp with ⟨hl, hs⟩ | ⟨hl, hk⟩ | ⟨rfl, hc, -⟩ <;>
    rcases h'.head_cases hp with ⟨hl', hs'⟩ | ⟨hl', hk'⟩ | ⟨rfl, hc', -⟩
  · rw [hs] at hs'
    cases hs'
    rfl
  · omega
  · rw [ofChars?_eq_none rest hc'] at hs
    cases hs
  · omega
  · rw [hk] at hk'
    cases hk'
    rfl
  · rw [(excluded_of_ofChar? hk).1] at hc'
    cases hc'
  · rw [ofChars?_eq_none rest hc] at hs'
    cases hs'
  · rw [(excluded_of_ofChar? hk').1] at hc
    cases hc
  · rfl

end

/-- There is one longest spelling at most. -/
theorem LongestSpelling.unique {kind kind' : TokenKind} {text text' : String} {cs : List Char}
    (h : kind.LongestSpelling text cs) (h' : kind'.LongestSpelling text' cs) : text = text' ∧ kind = kind' := by
  have hle := h.longest kind' text' h'.isSpelling h'.isPrefix
  have hge := h'.longest kind text h.isSpelling h.isPrefix
  have hl : text.toList.length = text'.toList.length := by
    rw [String.length_toList, String.length_toList]
    omega
  have htext : text = text' := String.toList_inj.1
    ((List.prefix_of_prefix_length_le h.isPrefix h'.isPrefix (Nat.le_of_eq hl)).eq_of_length hl)
  subst htext
  exact ⟨rfl, h.isSpelling.kind_unique h'.isSpelling⟩

/-- What is the longest spelling in a text stays so when the text is cut off behind it. -/
theorem LongestSpelling.of_prefix {kind : TokenKind} {text : String} {cs ds : List Char}
    (h : kind.LongestSpelling text ds) (hp : text.toList <+: cs) (hcs : cs <+: ds) :
    kind.LongestSpelling text cs :=
  ⟨h.isSpelling, hp, fun kind' text' h' hp' => h.longest kind' text' h' (hp'.trans hcs)⟩

end TokenKind

end FormulaDiagram
