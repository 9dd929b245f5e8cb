import FormulaDiagram.Proofs.Grammar.LongestMatch
import FormulaDiagram.Proofs.Grammar.Lookahead

/-!
A syntax error is the first one. The tokens in front of the one that is named are the beginning of a formula, and
no formula begins with them and the one that is named. What stands behind it has no part in the error.
-/

namespace FormulaDiagram.Grammar

open FormulaDiagram.Parser

/-- The index of the token where the parser stops, or the number of tokens if it comes to their end. -/
def stoppingIndex (tokens : List Token) : Nat :=
  match Parser.whole tokens with
  | .ok _ => tokens.length
  | .error e => tokens.length - e.rest.length

/-- The error is about the token of an index, or about the end of a source of some length if there is none. -/
def Names (e : ParseError) (tokens : List Token) (sourceLength index : Nat) : Prop :=
  match tokens[index]? with
  | some t => e.found = .token t.kind t.text ∧ e.offset = t.span.start ∧ e.span = t.span
  | none => e.found = .endOfInput ∧ e.offset = sourceLength ∧ e.span = Span.point sourceLength

section

variable {tokens : List Token} {failure : Failure}

/-- A failure of the whole is one of the reader, or there are tokens behind a formula. -/
theorem whole_eq_error (h : Parser.whole tokens = .error failure) :
    (joinedReader (inside maxNesting) .iff).read tokens = .error failure ∨
      ∃ f t rest, (joinedReader (inside maxNesting) .iff).read tokens = .ok (f, t :: rest) ∧
        failure = ⟨.endOfInput, t :: rest⟩ := by
  rw [whole_eq] at h
  cases hx : (joinedReader (inside maxNesting) .iff).read tokens with
  | error e =>
      rw [hx] at h
      cases h
      exact .inl rfl
  | ok r =>
      obtain ⟨f, rest⟩ := r
      rw [hx] at h
      cases rest with
      | nil => cases h
      | cons t rest =>
          cases h
          exact .inr ⟨f, t, rest, rfl, rfl⟩

/-- What stands in front of a failure is the beginning of a formula. -/
theorem viable_of_failure (h : Parser.whole tokens = .error failure) :
    ∃ taken, tokens = taken ++ failure.rest ∧ Viable maxNesting .formula taken := by
  have hs := (sound maxNesting).joined .iff tokens
  rcases whole_eq_error h with hx | ⟨f, t, rest, hx, rfl⟩
  · rw [hx] at hs
    exact hs
  · rw [hx] at hs
    obtain ⟨taken, n, ht, hn, hf⟩ := hs
    exact ⟨taken, ht, .of_spells hf hn⟩

/-- What stands behind the token of a failure has no part in it. -/
theorem settled_of_failure (h : Parser.whole tokens = .error failure) :
    ∃ taken, tokens = taken ++ failure.rest ∧ ∀ t left others, failure.rest = t :: left →
      Parser.whole (taken ++ t :: others) = .error ⟨failure.expected, t :: others⟩ := by
  obtain ⟨taken, ht, hl⟩ := (foresees maxNesting).joined .iff tokens
  rcases whole_eq_error h with hx | ⟨f, u, rest, hx, rfl⟩
  · rw [hx] at ht hl
    refine ⟨taken, ht, fun t left others hrem => ?_⟩
    rw [whole_eq, hl t left others hrem]
    rfl
  · rw [hx] at ht hl
    refine ⟨taken, ht, fun t left others hrem => ?_⟩
    rw [whole_eq, hl t left others hrem]
    rfl

theorem stoppingIndex_of_failure (h : Parser.whole tokens = .error failure) {taken : List Token}
    (ht : tokens = taken ++ failure.rest) : stoppingIndex tokens = taken.length := by
  rw [stoppingIndex, h]
  show tokens.length - failure.rest.length = taken.length
  rw [ht, List.length_append, Nat.add_sub_cancel]

theorem names_error (failure : Failure) (taken : List Token) (sourceLength : Nat) :
    Names (failure.error sourceLength) (taken ++ failure.rest) sourceLength taken.length := by
  rw [Names, List.getElem?_append_right (Nat.le_refl _), Nat.sub_self, Failure.error]
  cases failure.rest with
  | nil => exact ⟨rfl, rfl, rfl⟩
  | cons t rest => exact ⟨rfl, rfl, rfl⟩

end

theorem ofTokens_eq_error {tokens : List Token} {sourceLength : Nat} {e : ParseError} :
    Formula.ofTokens tokens sourceLength = .error e ↔
      ∃ failure, Parser.whole tokens = .error failure ∧ failure.error sourceLength = e := by
  rw [Formula.ofTokens]
  cases Parser.whole tokens with
  | ok f =>
      constructor
      · intro h
        cases h
      · rintro ⟨failure, h, -⟩
        cases h
  | error failure =>
      constructor
      · intro h
        cases h
        exact ⟨failure, rfl, rfl⟩
      · rintro ⟨_, h, rfl⟩
        cases h
        rfl

/-- The error of tokens that spell no formula is about the one where the parser stops. Those in front of it can be
completed to a formula, and whatever has the same tokens up to it and including it has the same error. -/
theorem error_is_first {tokens : List Token} {sourceLength : Nat} {e : ParseError}
    (h : Formula.ofTokens tokens sourceLength = .error e) :
    stoppingIndex tokens ≤ tokens.length ∧ Names e tokens sourceLength (stoppingIndex tokens) ∧
      (∃ more length f, Formula.ofTokens (tokens.take (stoppingIndex tokens) ++ more) length = .ok f) ∧
      (stoppingIndex tokens < tokens.length → ∀ others length,
        others.take (stoppingIndex tokens + 1) = tokens.take (stoppingIndex tokens + 1) →
          Formula.ofTokens others length = .error e) := by
  obtain ⟨failure, hw, rfl⟩ := ofTokens_eq_error.1 h
  obtain ⟨taken, ht, hv⟩ := viable_of_failure hw
  have hk := stoppingIndex_of_failure hw ht
  have htake : tokens.take taken.length = taken := by
    rw [ht]
    exact List.take_left
  rw [hk]
  refine ⟨?_, ?_, ?_, fun hlt others length heq => ?_⟩
  · rw [ht, List.length_append]
    exact Nat.le_add_right _ _
  · rw [ht]
    exact names_error failure taken sourceLength
  · rw [htake]
    obtain ⟨more, p, n, hn, hs⟩ := hv
    obtain ⟨f, rfl⟩ := hs.exists_formula rfl
    refine ⟨more, 0, f, ?_⟩
    rw [Formula.ofTokens, hs.whole_eq_ok hn]
    rfl
  · obtain ⟨taken', ht', hl⟩ := settled_of_failure hw
    obtain rfl : taken' = taken := List.append_cancel_right (ht'.symm.trans ht)
    cases hrest : failure.rest with
    | nil =>
        rw [ht, hrest, List.append_nil] at hlt
        exact absurd hlt (Nat.lt_irrefl _)
    | cons t left =>
        rw [ht, hrest, List.take_length_add_append, List.take_one] at heq
        have ho : others = taken' ++ t :: others.drop (taken'.length + 1) :=
          calc others
            _ = others.take (taken'.length + 1) ++ others.drop (taken'.length + 1) :=
              (List.take_append_drop _ _).symm
            _ = taken' ++ [t] ++ others.drop (taken'.length + 1) := by rw [heq]; rfl
            _ = _ := List.append_assoc ..
        rw [ho, ofTokens_eq_error]
        refine ⟨_, hl t left _ hrest, ?_⟩
        rw [Failure.error, Failure.error, hrest]

/-- The tokens of `¬)`. -/
def negatedClosing : List Token := [⟨.not, "¬", ⟨0, 2, by decide⟩⟩, ⟨.closing, ")", ⟨2, 3, by decide⟩⟩]

/-- Behind `¬` a closing parenthesis is the error, whatever comes then. -/
theorem error_of_negatedClosing :
    Formula.ofTokens negatedClosing 3 = .error ⟨2, .formula, .token .closing ")", ⟨2, 3, by decide⟩⟩ ∧
      stoppingIndex negatedClosing = 1 ∧ ∀ others length, others.take 2 = negatedClosing →
        Formula.ofTokens others length = .error ⟨2, .formula, .token .closing ")", ⟨2, 3, by decide⟩⟩ := by
  have h : Formula.ofTokens negatedClosing 3 = .error ⟨2, .formula, .token .closing ")", ⟨2, 3, by decide⟩⟩ := rfl
  obtain ⟨-, -, -, hsame⟩ := error_is_first h
  exact ⟨h, rfl, hsame (by decide)⟩

end FormulaDiagram.Grammar
