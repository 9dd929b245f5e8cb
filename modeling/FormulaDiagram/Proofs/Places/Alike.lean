import Mathlib.Data.List.Forall2
import FormulaDiagram.Proofs.Grammar.FirstError
import FormulaDiagram.Proofs.Lexing.Iteration
import FormulaDiagram.Proofs.Places.Respelling
import FormulaDiagram.Proofs.Printing.Names

/-!
Sources that are spelled differently. How an operator is spelled, which brackets are used and where white space
stands has no effect but on places: two sources whose tokens are alike, that is of the same kinds and with the same
names, are parsed as the same formula with the same annotations and the same warnings, or their errors are the same
and about the token of the same index. Both are compared with the tokens that have lost their places and spellings.
-/

namespace FormulaDiagram

/-- The tokens are of one kind, and if they are identifiers they are the same name. -/
def Token.Alike (t u : Token) : Prop := t.kind = u.kind ∧ (t.kind = .identifier → t.text = u.text)

instance (t u : Token) : Decidable (t.Alike u) := inferInstanceAs (Decidable (_ ∧ _))

def Label.mapSpan (φ : Span → Span) (l : Label) : Label := { l with span := φ l.span }

def Diagnostic.mapSpans (φ : Span → Span) (d : Diagnostic) : Diagnostic :=
  { d with labels := d.labels.map (Label.mapSpan φ) }

/-- The kind of the token that stands where a formula cannot go on, if one stands there. -/
def Found.kind? : Found → Option TokenKind
  | .token kind _ => some kind
  | .endOfInput => none

/-! ### Validation and places -/

theorem BoundVariable.outer?_mapSpan (φ : Span → Span) (bound : BoundVariable) (scope : List BoundVariable) :
    (bound.mapSpan φ).outer? (scope.map (mapSpan φ)) = (bound.outer? scope).map (mapSpan φ) := by
  rw [outer?, List.find?_map]
  rfl

namespace Formula

theorem isVacuous_mapSpans (φ : Span → Span) (bound : BoundVariable) (body : Formula) :
    isVacuous (bound.mapSpan φ) (body.mapSpans φ) = isVacuous bound body := by
  rw [isVacuous, mentions_mapSpans]
  rfl

/-- Annotations do not depend on places. -/
theorem annotate_mapSpans (φ : Span → Span) (f : Formula) (depth : Nat) (scope : List BoundVariable) :
    (f.mapSpans φ).annotate depth (scope.map (BoundVariable.mapSpan φ)) = (f.annotate depth scope).mapSpans φ := by
  induction f generalizing depth scope with
  | atom facts a => rfl
  | negation facts operand ih =>
      rw [mapSpans, annotate, ih]
      rfl
  | binary facts connective left right ihl ihr =>
      rw [mapSpans, annotate, ihl, ihr]
      rfl
  | quantified facts quantifier bound body ih =>
      have hbody := ih (depth + 1) (bound :: scope)
      rw [List.map_cons] at hbody
      rw [mapSpans, annotate, hbody, isVacuous_mapSpans, BoundVariable.outer?_mapSpan, Option.isSome_map]
      rfl

/-- Warnings depend on places for their labels only. -/
theorem warningsOnto_erased (f : Formula) (scope : List BoundVariable) (later : List Diagnostic) :
    (f.mapSpans .erased).warningsOnto (scope.map (BoundVariable.mapSpan .erased))
        (later.map (Diagnostic.mapSpans .erased)) =
      (f.warningsOnto scope later).map (Diagnostic.mapSpans .erased) := by
  induction f generalizing scope later with
  | atom facts a => rfl
  | negation facts operand ih => exact ih scope later
  | binary facts connective left right ihl ihr => rw [mapSpans, warningsOnto, ihr, ihl, warningsOnto]
  | quantified facts quantifier bound body ih =>
      have hbody := ih (bound :: scope) later
      rw [List.map_cons] at hbody
      rw [mapSpans, warningsOnto, warningsOnto, hbody, isVacuous_mapSpans, BoundVariable.outer?_mapSpan,
        List.map_append, List.map_append]
      congr 1
      congr 1
      · split <;> rfl
      · cases bound.outer? scope <;> rfl

end Formula

/-! ### Tokens without places and spellings -/

namespace Parser

/-- What a token is apart from its place and its spelling. -/
def Respelling.erased : Respelling where
  token t := ⟨t.kind, if t.kind = .identifier then t.text else "", .point 0⟩
  place := Span.erased
  kind_token _ := rfl
  text_token _ h := if_pos h
  span_token _ := rfl
  place_union := Span.erased_union

theorem Respelling.tokens_erased {tokens tokens' : List Token} (h : List.Forall₂ Token.Alike tokens tokens') :
    erased.tokens tokens = erased.tokens tokens' := by
  induction h with
  | nil => rfl
  | @cons t u ts us htu _ ih =>
      obtain ⟨hk, hname⟩ := htu
      have htoken : erased.token t = erased.token u := by
        by_cases ht : t.kind = .identifier
        · simp [erased, ht, ← hk, hname ht]
        · simp [erased, ht, ← hk]
      rw [tokens_cons, tokens_cons, htoken, ih]

/-- Two answers about tokens that are alike. -/
inductive SameOutcome : Except Failure Formula → Except Failure Formula → Prop where
  | ok {f g : Formula} : f.mapSpans .erased = g.mapSpans .erased → SameOutcome (.ok f) (.ok g)
  | error {e e' : Failure} : e.expected = e'.expected →
      e.rest.map Token.kind = e'.rest.map Token.kind → SameOutcome (.error e) (.error e')

theorem sameOutcome_whole {tokens tokens' : List Token} (h : List.Forall₂ Token.Alike tokens tokens') :
    SameOutcome (whole tokens) (whole tokens') := by
  have hr := Respelling.erased.whole_tokens tokens
  rw [Respelling.tokens_erased h, Respelling.erased.whole_tokens tokens'] at hr
  have hkind (ts : List Token) : (Respelling.erased.tokens ts).map Token.kind = ts.map Token.kind := by
    rw [Respelling.tokens, List.map_map]
    rfl
  cases hw : whole tokens with
  | ok f =>
      cases hw' : whole tokens' with
      | ok g =>
          rw [hw, hw'] at hr
          exact .ok (Except.ok.inj hr).symm
      | error e =>
          rw [hw, hw'] at hr
          cases hr
  | error e =>
      cases hw' : whole tokens' with
      | ok g =>
          rw [hw, hw'] at hr
          cases hr
      | error e' =>
          rw [hw, hw'] at hr
          obtain ⟨hexp, hrest⟩ := Failure.mk.inj (Except.error.inj hr)
          have hkinds := congrArg (List.map Token.kind) hrest
          rw [hkind, hkind] at hkinds
          exact .error hexp.symm hkinds.symm

/-- Errors at tokens of the same kinds where the same is expected differ in places and spellings only. -/
theorem Failure.error_alike {e e' : Failure} (hexp : e.expected = e'.expected)
    (hrest : e.rest.map Token.kind = e'.rest.map Token.kind) (sourceLength sourceLength' : Nat) :
    (e.error sourceLength).topic = (e'.error sourceLength').topic ∧
      (e.error sourceLength).expected = (e'.error sourceLength').expected ∧
      (e.error sourceLength).found.kind? = (e'.error sourceLength').found.kind? := by
  obtain ⟨expected, rest⟩ := e
  obtain ⟨expected', rest'⟩ := e'
  subst hexp
  cases rest with
  | nil =>
      obtain rfl := List.map_eq_nil_iff.1 hrest.symm
      exact ⟨rfl, rfl, rfl⟩
  | cons t rest =>
      obtain ⟨u, us, rfl, hu, -⟩ := List.map_eq_cons_iff.1 hrest.symm
      refine ⟨?_, rfl, congrArg some hu.symm⟩
      cases expected with
      | token kind => cases kind <;> rfl
      | _ => rfl

end Parser

/-- The error of a failure is about the token where the parser stops. -/
theorem Grammar.names_stoppingIndex {tokens : List Token} {e : Parser.Failure} (h : Parser.whole tokens = .error e)
    (sourceLength : Nat) :
    stoppingIndex tokens + e.rest.length = tokens.length ∧
      Names (e.error sourceLength) tokens sourceLength (stoppingIndex tokens) := by
  obtain ⟨taken, ht, -⟩ := settled_of_failure h
  rw [stoppingIndex_of_failure h ht]
  refine ⟨?_, ?_⟩
  · rw [ht, List.length_append]
  · have hnames := names_error e taken sourceLength
    rw [← ht] at hnames
    exact hnames

section

variable {source : String} {tokens : List Token} (h : tokenize source = .ok tokens)

include h in
theorem parse_of_whole {f : Formula} (hw : Parser.whole tokens = .ok f) :
    parse source = .ok ⟨f.annotate 0 [], f.warningsOnto [] []⟩ := by
  apply parse_eq_ok h
  rw [Formula.ofTokens, hw]
  rfl

include h in
theorem parse_of_failure {e : Parser.Failure} (hw : Parser.whole tokens = .error e) :
    parse source = .error (.grammatical (e.error source.utf8ByteSize)) := by
  apply parse_eq_error h
  rw [Formula.ofTokens, hw]
  rfl

end

section

variable {source : String}

theorem parse_of_failure_of_lex {e : LexError} (h : (lex source).failure = some e) :
    parse source = .error (.lexical e) := by
  rw [parse, readFormula, Lexer.tokenize_eq, h]
  rfl

/-- What a source is parsed as, by where its parsing ends. -/
theorem parse_cases (source : String) :
    (∃ e, (lex source).failure = some e ∧ parse source = .error (.lexical e)) ∨
      ∃ tokens, tokenize source = .ok tokens ∧
        ((∃ e, Parser.whole tokens = .error e ∧
            parse source = .error (.grammatical (e.error source.utf8ByteSize))) ∨
          ∃ f, Parser.whole tokens = .ok f ∧ parse source = .ok ⟨f.annotate 0 [], f.warningsOnto [] []⟩) := by
  cases hfailure : (lex source).failure with
  | some e => exact .inl ⟨e, rfl, parse_of_failure_of_lex hfailure⟩
  | none =>
      have ht := Lexer.tokenize_of_failure hfailure
      refine .inr ⟨_, ht, ?_⟩
      cases hw : Parser.whole (lex source).tokens with
      | error e => exact .inl ⟨e, rfl, parse_of_failure ht hw⟩
      | ok f => exact .inr ⟨f, rfl, parse_of_whole ht hw⟩

/-- What a source that is parsed was read as, and what validation made of it. -/
theorem exists_whole_of_parse {a : AnnotatedFormula} (h : parse source = .ok a) :
    ∃ tokens f, tokenize source = .ok tokens ∧ Parser.whole tokens = .ok f ∧
      a = ⟨f.annotate 0 [], f.warningsOnto [] []⟩ := by
  rcases parse_cases source with ⟨e, -, hparse⟩ | ⟨tokens, ht, ⟨e, -, hparse⟩ | ⟨f, hw, hparse⟩⟩
  · cases hparse.symm.trans h
  · cases hparse.symm.trans h
  · exact ⟨tokens, f, ht, hw, Except.ok.inj (h.symm.trans hparse)⟩

end

/-- Formulas that are the same but for places are validated alike. -/
theorem Formula.validated_alike {f g : Formula} (h : f.mapSpans .erased = g.mapSpans .erased) :
    (f.annotate 0 []).mapSpans .erased = (g.annotate 0 []).mapSpans .erased ∧
      (f.warningsOnto [] []).map (Diagnostic.mapSpans .erased) =
        (g.warningsOnto [] []).map (Diagnostic.mapSpans .erased) := by
  constructor
  · calc (f.annotate 0 []).mapSpans .erased
      _ = (f.mapSpans .erased).annotate 0 [] := (annotate_mapSpans .erased f 0 []).symm
      _ = (g.mapSpans .erased).annotate 0 [] := by rw [h]
      _ = (g.annotate 0 []).mapSpans .erased := annotate_mapSpans .erased g 0 []
  · calc (f.warningsOnto [] []).map (Diagnostic.mapSpans .erased)
      _ = (f.mapSpans .erased).warningsOnto [] [] := (warningsOnto_erased f [] []).symm
      _ = (g.mapSpans .erased).warningsOnto [] [] := by rw [h]
      _ = (g.warningsOnto [] []).map (Diagnostic.mapSpans .erased) := warningsOnto_erased g [] []

/-- Sources whose tokens are alike are parsed alike. Either both are formulas, the same but for places, with the same
annotations and with warnings that are the same but for places, or both have a syntax error, on the same topic,
with the same expected and the same kind found, at the token of the same index. -/
theorem parse_alike {source source' : String} {tokens tokens' : List Token} (h : tokenize source = .ok tokens)
    (h' : tokenize source' = .ok tokens') (halike : List.Forall₂ Token.Alike tokens tokens') :
    (∃ a a', parse source = .ok a ∧ parse source' = .ok a' ∧
        a.formula.mapSpans .erased = a'.formula.mapSpans .erased ∧
        a.warnings.map (Diagnostic.mapSpans .erased) = a'.warnings.map (Diagnostic.mapSpans .erased)) ∨
      ∃ e e', parse source = .error (.grammatical e) ∧ parse source' = .error (.grammatical e') ∧
        e.topic = e'.topic ∧ e.expected = e'.expected ∧ e.found.kind? = e'.found.kind? ∧
        Grammar.stoppingIndex tokens = Grammar.stoppingIndex tokens' ∧
        Grammar.Names e tokens source.utf8ByteSize (Grammar.stoppingIndex tokens) ∧
        Grammar.Names e' tokens' source'.utf8ByteSize (Grammar.stoppingIndex tokens') := by
  have hsame := Parser.sameOutcome_whole halike
  generalize hw : Parser.whole tokens = x at hsame
  generalize hw' : Parser.whole tokens' = y at hsame
  cases hsame with
  | ok hfg =>
      obtain ⟨hformula, hwarnings⟩ := Formula.validated_alike hfg
      exact .inl ⟨_, _, parse_of_whole h hw, parse_of_whole h' hw', hformula, hwarnings⟩
  | @error e e' hexp hrest =>
      obtain ⟨htopic, hexpected, hfound⟩ :=
        Parser.Failure.error_alike hexp hrest source.utf8ByteSize source'.utf8ByteSize
      obtain ⟨hlength, hnames⟩ := Grammar.names_stoppingIndex hw source.utf8ByteSize
      obtain ⟨hlength', hnames'⟩ := Grammar.names_stoppingIndex hw' source'.utf8ByteSize
      have hcount : tokens.length = tokens'.length := halike.length_eq
      have hleft : e.rest.length = e'.rest.length := by
        rw [← List.length_map, hrest, List.length_map]
      have hindex : Grammar.stoppingIndex tokens = Grammar.stoppingIndex tokens' := by omega
      exact .inr ⟨_, _, parse_of_failure h hw, parse_of_failure h' hw', htopic, hexpected, hfound, hindex, hnames,
        hnames'⟩

/-- `!x: [p=>~q]` and `∀x.(p → ¬q)` are parsed alike. -/
theorem parse_alike_of_two_spellings :
    ∃ tokens tokens', tokenize "!x: [p=>~q]" = .ok tokens ∧ tokenize "∀x.(p → ¬q)" = .ok tokens' ∧
      List.Forall₂ Token.Alike tokens tokens' ∧
      ∃ a a', parse "!x: [p=>~q]" = .ok a ∧ parse "∀x.(p → ¬q)" = .ok a' ∧
        a.formula.mapSpans .erased = a'.formula.mapSpans .erased ∧
        a.warnings.map (Diagnostic.mapSpans .erased) = a'.warnings.map (Diagnostic.mapSpans .erased) := by
  have h : tokenize "!x: [p=>~q]" = .ok (lex "!x: [p=>~q]").tokens := Lexer.tokenize_of_failure (by decide +kernel)
  have h' : tokenize "∀x.(p → ¬q)" = .ok (lex "∀x.(p → ¬q)").tokens := Lexer.tokenize_of_failure (by decide +kernel)
  have halike : List.Forall₂ Token.Alike (lex "!x: [p=>~q]").tokens (lex "∀x.(p → ¬q)").tokens := by
    decide +kernel
  have hok : (parse "!x: [p=>~q]").toOption.isSome := by decide +kernel
  refine ⟨_, _, h, h', halike, ?_⟩
  rcases parse_alike h h' halike with hsame | ⟨e, e', he, -⟩
  · exact hsame
  · rw [he] at hok
    cases hok

end FormulaDiagram
