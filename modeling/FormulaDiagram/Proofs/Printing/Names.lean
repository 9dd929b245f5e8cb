import FormulaDiagram.Formula.Source
import FormulaDiagram.Proofs.Grammar.LongestMatch
import FormulaDiagram.Proofs.Lexing.Iteration
import FormulaDiagram.Proofs.Printing.Basic
import FormulaDiagram.Proofs.Validation.Walk

/-!
The names in what is read from a source are the texts of identifiers, and these are names: an identifier begins
with an identifier character and goes on with such characters. Validation never finds an error and changes
nothing but annotations, so the same holds of what is parsed.
-/

namespace FormulaDiagram

namespace Lexer

/-- The tokens that are identifiers are names. -/
def Named (tokens : List Token) : Prop := ∀ t ∈ tokens, t.kind = .identifier → Text.IsName t.text

theorem Tiles.named {offset : Nat} {text : List Char} {tokens : List Token} {failure : Option LexError}
    (h : Tiles offset text tokens failure) : Named tokens := by
  induction h with
  | finished => exact fun t ht => by cases ht
  | stuck => exact fun t ht => by cases ht
  | token _ hlong _ ih =>
      refine List.forall_mem_cons.2 ⟨fun hk => ?_, ih⟩
      cases hk
      exact hlong.isSpelling.isName

theorem named_tokenize {source : String} {tokens : List Token} (h : tokenize source = .ok tokens) :
    Named tokens :=
  (tokenize_eq_ok_iff.1 h).named

end Lexer

namespace Grammar

/-- The names in what is read. -/
def Phrase.names : Phrase → List String
  | .formula f => f.names
  | .term a => a.names
  | .terms as => Term.namesAll as

theorem names_lone (a : Term) : (lone a).names = a.names := by
  cases a <;> rfl

theorem names_withSpan (f : Formula) (span : Span) : (f.withSpan span).names = f.names := by
  cases f <;> rfl

/-- The names in what tokens spell are texts of identifiers among them. -/
theorem Spells.names {ends : Category → List Token → List Token → Prop} {category : Category}
    {ts rest : List Token} {p : Phrase} {n : Nat} (h : Spells ends category ts rest p n) {name : String}
    (hn : name ∈ p.names) : ∃ t ∈ ts, t.kind = .identifier ∧ t.text = name := by
  induction h with
  | operand _ ih => exact ih hn
  | whole _ _ ih => exact ih hn
  | last _ _ ih =>
      rw [Phrase.names, Term.namesAll, Term.namesAll, List.append_nil] at hn
      exact ih hn
  | lone _ _ ih =>
      rw [Phrase.names, names_lone] at hn
      exact ih hn
  | name ht _ =>
      cases List.mem_singleton.1 hn
      exact ⟨_, List.mem_cons_self, ht, rfl⟩
  | constant ht _ _ =>
      cases List.mem_singleton.1 hn
      exact ⟨_, List.mem_cons_self, ht, rfl⟩
  | negation _ _ ih =>
      obtain ⟨t, ht, h⟩ := ih hn
      exact ⟨t, List.mem_cons_of_mem _ ht, h⟩
  | parenthesised _ _ _ ih =>
      rw [Phrase.names, names_withSpan] at hn
      obtain ⟨t, ht, h⟩ := ih hn
      exact ⟨t, List.mem_append_left _ (List.mem_cons_of_mem _ ht), h⟩
  | quantified q _ hb _ _ ih =>
      rcases List.mem_cons.1 hn with rfl | hn
      · exact ⟨_, List.mem_cons_of_mem _ List.mem_cons_self, hb, rfl⟩
      · obtain ⟨t, ht, h⟩ := ih hn
        exact ⟨t, List.mem_cons_of_mem _ (List.mem_cons_of_mem _ (List.mem_cons_of_mem _ ht)), h⟩
  | application hk _ _ _ ih =>
      rcases List.mem_cons.1 hn with rfl | hn
      · exact ⟨_, List.mem_cons_self, hk, rfl⟩
      · obtain ⟨t, ht, h⟩ := ih hn
        exact ⟨t, List.mem_append_left _ (List.mem_cons_of_mem _ (List.mem_cons_of_mem _ ht)), h⟩
  | further _ _ _ _ ihl ihr | implication _ _ _ ihl ihr | equality _ _ _ _ ihl ihr | more _ _ _ ihl ihr =>
      rcases List.mem_append.1 hn with hn | hn
      · obtain ⟨t, ht, h⟩ := ihl hn
        exact ⟨t, List.mem_append_left _ ht, h⟩
      · obtain ⟨t, ht, h⟩ := ihr hn
        exact ⟨t, List.mem_append_right _ (List.mem_cons_of_mem _ ht), h⟩

end Grammar

namespace Formula

theorem erased_annotate (f : Formula) (depth : Nat) (scope : List BoundVariable) :
    (f.annotate depth scope).erased = f.erased := by
  induction f generalizing depth scope with
  | atom => rfl
  | negation facts operand ih => rw [annotate, erased, erased, ih]
  | binary facts connective left right ihl ihr => rw [annotate, erased, erased, ihl, ihr]
  | quantified facts quantifier bound body ih => rw [annotate, erased, erased, ih]

end Formula

theorem parse_eq_ok {source : String} {tokens : List Token} {f : Formula} (ht : tokenize source = .ok tokens)
    (hf : Formula.ofTokens tokens source.utf8ByteSize = .ok f) :
    parse source = .ok ⟨f.annotate 0 [], f.warningsOnto [] []⟩ := by
  rw [parse, readFormula, ht]
  show ((Formula.ofTokens tokens source.utf8ByteSize).mapError SourceError.grammatical >>= _) = _
  rw [hf]
  show f.validate.mapError SourceError.invalid = _
  rw [Formula.validate_eq]
  rfl

theorem parse_eq_error {source : String} {tokens : List Token} {e : ParseError} (ht : tokenize source = .ok tokens)
    (he : Formula.ofTokens tokens source.utf8ByteSize = .error e) : parse source = .error (.grammatical e) := by
  rw [parse, readFormula, ht]
  show ((Formula.ofTokens tokens source.utf8ByteSize).mapError SourceError.grammatical >>= _) = _
  rw [he]
  rfl

/-- What is parsed is read from tokens and then annotated. -/
theorem exists_of_parse {source : String} {a : AnnotatedFormula} (h : parse source = .ok a) :
    ∃ tokens f, tokenize source = .ok tokens ∧ Formula.ofTokens tokens source.utf8ByteSize = .ok f ∧
      a.formula = f.annotate 0 [] := by
  cases ht : tokenize source with
  | error e =>
      rw [parse, readFormula, ht] at h
      cases h
  | ok tokens =>
      cases hf : Formula.ofTokens tokens source.utf8ByteSize with
      | error e =>
          rw [parse_eq_error ht hf] at h
          cases h
      | ok f =>
          rw [parse_eq_ok ht hf] at h
          cases h
          exact ⟨tokens, f, rfl, hf, rfl⟩

/-- The names in what is parsed are names. -/
theorem isName_of_parse {source : String} {a : AnnotatedFormula} (h : parse source = .ok a) :
    ∀ name ∈ a.formula.names, Text.IsName name := by
  obtain ⟨tokens, f, ht, hf, ha⟩ := exists_of_parse h
  obtain ⟨n, -, hs⟩ := ((Grammar.ofTokens_iff tokens source.utf8ByteSize f).1 hf)
  intro name hn
  rw [ha, ← Formula.names_erased, Formula.erased_annotate, Formula.names_erased] at hn
  obtain ⟨t, hmem, hk, rfl⟩ := hs.names hn
  exact Lexer.named_tokenize ht t hmem hk

end FormulaDiagram
