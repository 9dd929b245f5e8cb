import FormulaDiagram.Proofs.Printing.Lexing
import FormulaDiagram.Proofs.Printing.Names
import FormulaDiagram.Proofs.Printing.Spelling

/-!
The text of a formula is read as the formula again, places apart, or it is rejected because it is nested too
deeply. Which of the two is decided by the nesting of the text, which is not that of the source the formula came
from: the parentheses that are written around operands count too. A chain of implications, which nests to the
right, has nearly twice the nesting in its text, so there are formulas that parse and have a text that does not.
-/

namespace FormulaDiagram

open Grammar (Spells NotFollowed)

namespace Formula

/-- Tokens with the lexemes of a formula's text are read as the formula if the nesting is within the limit. -/
theorem ofTokens_of_lexemes {f : Formula} {tokens : List Token} (ht : tokens.map Token.lexeme = f.lexemes false)
    (hn : f.nesting false ≤ maxNesting) (sourceLength : Nat) :
    ∃ g, ofTokens tokens sourceLength = .ok g ∧ g.erased = f.erased := by
  obtain ⟨g, hg, hs⟩ := (Grammar.printed f tokens ht).whole [] Grammar.stops_nil
  refine ⟨g, ?_, hg⟩
  rw [ofTokens, hs.whole_eq_ok hn]
  rfl

theorem ofTokens_of_deep_lexemes {f : Formula} {tokens : List Token}
    (ht : tokens.map Token.lexeme = f.lexemes false) (hn : maxNesting < f.nesting false) (sourceLength : Nat) :
    ∃ e, ofTokens tokens sourceLength = .error e ∧ e.expected = .nestingLimit maxNesting := by
  obtain ⟨g, hg, hs⟩ := (Grammar.printed f tokens ht).whole [] Grammar.stops_nil
  obtain ⟨rest, hw⟩ := hs.whole_eq_error hn
  refine ⟨Parser.Failure.error ⟨.nestingLimit maxNesting, rest⟩ sourceLength, ?_, ?_⟩
  · rw [ofTokens, hw]
    rfl
  · cases rest <;> rfl

/-- A formula whose names are names has a text that consists of tokens. They are read as the formula, places
apart, if the text is not nested too deeply, and otherwise there is an error about the nesting. -/
theorem read_text {f : Formula} (hn : ∀ name ∈ f.names, Text.IsName name) :
    ∃ tokens, tokenize f.text = .ok tokens ∧ ∀ sourceLength,
      (f.nesting false ≤ maxNesting → ∃ g, ofTokens tokens sourceLength = .ok g ∧ g.erased = f.erased) ∧
      (maxNesting < f.nesting false →
        ∃ e, ofTokens tokens sourceLength = .error e ∧ e.expected = .nestingLimit maxNesting) := by
  obtain ⟨tokens, hl, ht⟩ := tokenize_text hn
  exact ⟨tokens, hl, fun sourceLength =>
    ⟨fun h => ofTokens_of_lexemes ht h sourceLength, fun h => ofTokens_of_deep_lexemes ht h sourceLength⟩⟩

/-- The text of `∀x.P(x) ∧ q` is read as that formula. -/
theorem read_text_of_quantified :
    let p := ofAtom (.predicate "P" [.variable "x" (.point 0)]) (.point 0)
    let q := ofAtom (.proposition "q") (.point 0)
    let f := quantify .forAll ⟨"x", .point 0⟩ (joinAt .and p q (.point 0)) (.point 0)
    (∀ name ∈ f.names, Text.IsName name) ∧
      ∃ tokens g, tokenize f.text = .ok tokens ∧ ofTokens tokens 0 = .ok g ∧ g.erased = f.erased := by
  intro p q f
  have hn : ∀ name ∈ f.names, Text.IsName name := by decide
  obtain ⟨tokens, hl, hr⟩ := read_text hn
  obtain ⟨g, hg, he⟩ := (hr 0).1 (by decide)
  exact ⟨hn, tokens, g, hl, hg, he⟩

end Formula

/-! ### Parsing what was printed -/

section

variable {f : Formula} (hn : ∀ name ∈ f.names, Text.IsName name)

include hn in
theorem parse_text_of_le (h : f.nesting false ≤ maxNesting) :
    ∃ b, parse f.text = .ok b ∧ b.formula.erased = f.erased := by
  obtain ⟨tokens, hl, ht⟩ := Formula.tokenize_text hn
  obtain ⟨g, hg, he⟩ := Formula.ofTokens_of_lexemes ht h f.text.utf8ByteSize
  exact ⟨_, parse_eq_ok hl hg, (Formula.erased_annotate g _ _).trans he⟩

include hn in
theorem parse_text_of_lt (h : maxNesting < f.nesting false) :
    ∃ e, parse f.text = .error (.grammatical e) ∧ e.expected = .nestingLimit maxNesting := by
  obtain ⟨tokens, hl, ht⟩ := Formula.tokenize_text hn
  obtain ⟨e, he, hexp⟩ := Formula.ofTokens_of_deep_lexemes ht h f.text.utf8ByteSize
  exact ⟨e, parse_eq_error hl he, hexp⟩

end

/-! ### Chains of implications -/

namespace Implications

/-- The source `p→p→…→p` with a number of arrows. -/
def source : Nat → List Char
  | 0 => ['p']
  | arrows + 1 => 'p' :: '→' :: source arrows

def lexemes : Nat → List Lexeme
  | 0 => [(.identifier, "p")]
  | arrows + 1 => (.identifier, "p") :: TokenKind.implies.sign :: lexemes arrows

def proposition : Formula := Formula.ofAtom (.proposition "p") (.point 0)

/-- What the source spells: implications that group to the right. -/
def formula : Nat → Formula
  | 0 => proposition
  | arrows + 1 => Formula.joinAt .implies proposition (formula arrows) (.point 0)

theorem cuts (arrows : Nat) : Lexer.Cuts (source arrows) (lexemes arrows) [] := by
  have hp : Text.IsName "p" := by decide
  induction arrows with
  | zero => exact Lexer.cuts_name hp Lexer.endsName_nil
  | succ arrows ih =>
      have hname : Lexer.Cuts _ [(.identifier, "p")] ('→' :: source arrows) :=
        Lexer.cuts_name hp (Lexer.endsName_cons (by decide +kernel))
      exact hname.cons ((Lexer.cuts_connective .implies).cons ih)

theorem spells_proposition {t : Token} (h : t.lexeme = (.identifier, "p")) {rest : List Token}
    (hr : Grammar.OnlyBy .implies rest) :
    ∃ f, f.erased = proposition ∧ Spells NotFollowed (.joined .or) [t] rest (.formula f) 0 := by
  have ht : [t].map Token.lexeme = (Atom.proposition "p").lexemes := congrArg (· :: []) h
  obtain ⟨f, hf, hs⟩ := Grammar.spells_atom (.proposition "p") ht (hr .term nofun) (hr .unary nofun)
  exact ⟨f, hf, hs.as_operand hr⟩

/-- The source has one opening for each arrow. -/
theorem spells (arrows : Nat) {tokens : List Token} (h : tokens.map Token.lexeme = lexemes arrows) :
    ∃ f, f.erased = formula arrows ∧ Spells NotFollowed (.joined .implies) tokens [] (.formula f) arrows := by
  induction arrows generalizing tokens with
  | zero =>
      obtain ⟨t, rfl, ht⟩ := List.map_eq_singleton_iff.1 h
      obtain ⟨f, hf, hs⟩ := spells_proposition ht (Grammar.onlyBy_of_stops .implies Grammar.stops_nil)
      exact ⟨f, hf, .whole (.operand hs) (Grammar.notFollowed_nil _ _)⟩
  | succ arrows ih =>
      obtain ⟨t, _, rfl, ht, h⟩ := List.map_eq_cons_iff.1 h
      obtain ⟨sign, us, rfl, hsign, hu⟩ := List.map_eq_cons_iff.1 h
      obtain ⟨g, hg, hs'⟩ := ih hu
      obtain ⟨f, hf, hs⟩ := spells_proposition ht (Grammar.onlyBy_sign (c := .implies) (Grammar.eq_sign hsign) us)
      refine ⟨.join .implies f g, ?_, ?_⟩
      · show Formula.joinAt .implies f.erased g.erased (.point 0) = _
        rw [hf, hg]
        rfl
      · rw [← List.append_nil us] at hs
        have hjoin := Spells.implication hs (Grammar.eq_sign hsign) hs'
        rw [Nat.zero_max] at hjoin
        exact hjoin

/-- The text has two openings for each arrow but the last, which needs no parentheses. -/
theorem nesting_formula (arrows : Nat) : (formula (arrows + 1)).nesting false = 2 * arrows + 1 := by
  induction arrows with
  | zero => rfl
  | succ arrows ih =>
      show max 0 ((formula (arrows + 1)).nesting true + 1) + 0 = 2 * (arrows + 1) + 1
      rw [Formula.nesting_true, ih]
      omega

theorem exists_parse {arrows : Nat} (h : arrows ≤ maxNesting) :
    ∃ a, parse (String.ofList (source arrows)) = .ok a ∧ a.formula.erased = formula arrows := by
  obtain ⟨tokens, hl, ht⟩ := (cuts arrows).tokenize
  obtain ⟨f, hf, hs⟩ := spells arrows ht
  have hs' := hs.as_formula Grammar.stops_nil
  have hok : Formula.ofTokens tokens (String.ofList (source arrows)).utf8ByteSize = .ok f := by
    rw [Formula.ofTokens, hs'.whole_eq_ok h]
    rfl
  exact ⟨_, parse_eq_ok hl hok, (Formula.erased_annotate f _ _).trans hf⟩

/-- Between half the limit and the limit the chains are parsed and their texts are not. -/
theorem text_fails {arrows : Nat} (h : arrows ≤ maxNesting) (hd : maxNesting + 1 < 2 * arrows) :
    ∃ a, parse (String.ofList (source arrows)) = .ok a ∧ ¬∃ b, parse a.formula.text = .ok b := by
  obtain ⟨a, ha, he⟩ := exists_parse h
  refine ⟨a, ha, ?_⟩
  rintro ⟨b, hb⟩
  obtain ⟨before, rfl⟩ : ∃ before, arrows = before + 1 := ⟨arrows - 1, by omega⟩
  have hn : maxNesting < a.formula.nesting false := by
    rw [← Formula.nesting_erased, he, nesting_formula]
    omega
  obtain ⟨e, hf, -⟩ := parse_text_of_lt (isName_of_parse ha) hn
  rw [hf] at hb
  cases hb

end Implications

/-! ### Printing and parsing again -/

/-- The text of a parsed formula is parsed again exactly if it is not nested too deeply. What comes out then is
the same formula, places apart, with the same text, and the error is otherwise that of the nesting. -/
theorem parse_text_iff {source : String} {a : AnnotatedFormula} (h : parse source = .ok a) :
    ((∃ b, parse a.formula.text = .ok b) ↔ a.formula.nesting false ≤ maxNesting) ∧
      (∀ b, parse a.formula.text = .ok b →
        b.formula.erased = a.formula.erased ∧ b.formula.text = a.formula.text) ∧
      ∀ e, parse a.formula.text = .error e →
        ∃ g, e = .grammatical g ∧ g.expected = .nestingLimit maxNesting := by
  have hn := isName_of_parse h
  by_cases hle : a.formula.nesting false ≤ maxNesting
  · obtain ⟨b, hb, he⟩ := parse_text_of_le hn hle
    rw [hb]
    refine ⟨⟨fun _ => hle, fun _ => ⟨b, rfl⟩⟩, ?_, ?_⟩
    · intro c hc
      cases hc
      refine ⟨he, ?_⟩
      rw [← Formula.text_erased, he, Formula.text_erased]
    · intro e hf
      cases hf
  · obtain ⟨e, he, hexp⟩ := parse_text_of_lt hn (Nat.lt_of_not_le hle)
    rw [he]
    refine ⟨⟨?_, fun h => absurd h hle⟩, ?_, ?_⟩
    · rintro ⟨b, hb⟩
      cases hb
    · intro b hb
      cases hb
    · intro e' he'
      cases he'
      exact ⟨e, rfl, hexp⟩

/-- The text of what `p→p→p` spells, which is `p → (p → p)`, is parsed again. -/
theorem parse_text_of_two_arrows :
    ∃ a, parse (String.ofList (Implications.source 2)) = .ok a ∧ ∃ b, parse a.formula.text = .ok b := by
  obtain ⟨a, ha, he⟩ : ∃ a, parse (String.ofList (Implications.source 2)) = .ok a ∧
      a.formula.erased = Implications.formula 2 := Implications.exists_parse (by decide)
  refine ⟨a, ha, (parse_text_iff ha).1.2 ?_⟩
  rw [← Formula.nesting_erased, he]
  decide

/-- A chain of 65 arrows is parsed, but its text, with 64 pairs of parentheses, is nested too deeply. -/
theorem text_of_65_arrows_fails :
    ∃ a, parse (String.ofList (Implications.source 65)) = .ok a ∧ ¬∃ b, parse a.formula.text = .ok b :=
  Implications.text_fails (by decide) (by decide)

end FormulaDiagram
