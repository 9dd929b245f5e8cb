import FormulaDiagram.Formula.ParseError

/-!
The parser, by recursive descent over tokens. From the loosest to the tightest binding the operators are `↔`,
`→`, `∨`, `∧`, then `¬` and the quantifiers, which stand in front of their operand:

    formula     := implication ('↔' implication)*
    implication := disjunction ('→' implication)?
    disjunction := conjunction ('∨' conjunction)*
    conjunction := unary ('∧' unary)*
    unary       := '¬' unary | quantifier identifier '.' formula | '(' formula ')' | term (('=' | '≠') term)?
    term        := identifier ('(' (term (',' term)*)? ')')?

Chains of `↔`, `∨` and `∧` group to the left, `→` groups to the right, and the body of a quantifier goes as far
as it can. A parenthesis, `¬`, a quantifier, the right side of `→` and a list of arguments each open a level of
nesting, of which there may be `maxNesting` inside one another. The readers of a level are built from those of
the next level inwards, so the recursion is on the number of levels left; chains, which do not nest, go on for
as long as they find operators, and end because every operand has at least one token.
-/

namespace FormulaDiagram

/-- The number of levels that may be nested in one another. -/
def maxNesting : Nat := 128

namespace Parser

/-- Where reading stopped: what was wanted, and the tokens still unread there. -/
structure Failure where
  expected : Expected
  rest : List Token

/-- What was read and the tokens behind it. -/
abbrev Reading (α : Type) : Type := α × List Token

/-- A reader of one part of a formula, which consists of at least one token. -/
structure Reader (α : Type) where
  read : List Token → Except Failure (Reading α)
  shorter : ∀ {tokens a rest}, read tokens = .ok (a, rest) → rest.length < tokens.length

theorem bind_eq_ok {ε α β : Type} {x : Except ε α} {f : α → Except ε β} {b : β} :
    (x >>= f) = .ok b ↔ ∃ a, x = .ok a ∧ f a = .ok b := by
  cases x <;> simp [bind, Except.bind]

theorem mapError_eq_ok {ε ε' α : Type} {φ : ε → ε'} {x : Except ε α} {a : α} :
    x.mapError φ = .ok a ↔ x = .ok a := by
  constructor
  · intro h
    cases x with
    | error e => cases h
    | ok b =>
      cases h
      rfl
  · rintro rfl
    rfl

/-- The next token, which has to be of a kind. -/
def expect (kind : TokenKind) (expected : Expected) : List Token → Except Failure (Reading Token)
  | [] => .error ⟨expected, []⟩
  | t :: rest => if t.kind = kind then .ok (t, rest) else .error ⟨expected, t :: rest⟩

theorem expect_shorter {kind : TokenKind} {expected : Expected} {tokens : List Token} {t : Token}
    {rest : List Token} (h : expect kind expected tokens = .ok (t, rest)) : rest.length < tokens.length := by
  cases tokens with
  | nil => cases h
  | cons u us =>
    rw [expect] at h
    split at h
    · cases h; exact Nat.lt_succ_self _
    · cases h

/-! ### Chains -/

/-- The further operands of a chain of one connective, grouped to the left. -/
def chain (connective : Connective) (operand : Reader Formula) (left : Formula) (tokens : List Token) :
    Except Failure (Reading Formula) :=
  match tokens with
  | [] => .ok (left, [])
  | t :: rest =>
    if t.kind = connective.tokenKind then
      match _h : operand.read rest with
      | .error e => .error e
      | .ok (right, rest') => chain connective operand (Formula.join connective left right) rest'
    else .ok (left, t :: rest)
termination_by tokens.length
decreasing_by
  have := operand.shorter _h
  simp only [List.length_cons]
  omega

theorem chain_not_longer {connective : Connective} {operand : Reader Formula} {left f : Formula}
    {tokens rest : List Token} (h : chain connective operand left tokens = .ok (f, rest)) :
    rest.length ≤ tokens.length := by
  fun_induction chain connective operand left tokens with
  | case1 => cases h; exact Nat.le_refl _
  | case2 => cases h
  | case3 left t tail hk right rest' hr ih =>
    have := operand.shorter hr
    have := ih h
    simp only [List.length_cons]
    omega
  | case4 => cases h; exact Nat.le_refl _

/-- One operand, or several joined by a connective that groups to the left. -/
def chained (connective : Connective) (operand : Reader Formula) : Reader Formula where
  read tokens := do
    let (left, rest) ← operand.read tokens
    chain connective operand left rest
  shorter h := by
    obtain ⟨⟨left, rest⟩, hl, hc⟩ := bind_eq_ok.1 h
    exact Nat.lt_of_le_of_lt (chain_not_longer hc) (operand.shorter hl)

/-- Terms separated by commas, of which there is at least one, behind those in `before`. -/
def separated (term : Reader Term) (before : List Term) (tokens : List Token) :
    Except Failure (Reading (List Term)) :=
  match _h : term.read tokens with
  | .error e => .error e
  | .ok (last, []) => .ok ((last :: before).reverse, [])
  | .ok (last, t :: rest) =>
    if t.kind = .comma then separated term (last :: before) rest
    else .ok ((last :: before).reverse, t :: rest)
termination_by tokens.length
decreasing_by
  have := term.shorter _h
  simp only [List.length_cons] at this
  omega

theorem separated_shorter {term : Reader Term} {before all : List Term} {tokens rest : List Token}
    (h : separated term before tokens = .ok (all, rest)) : rest.length < tokens.length := by
  fun_induction separated term before tokens with
  | case1 => cases h
  | case2 before tokens last hr => cases h; exact term.shorter hr
  | case3 before tokens last t tail hr hk ih =>
    have := term.shorter hr
    have := ih h
    simp only [List.length_cons] at *
    omega
  | case4 before tokens last t tail hr hk => cases h; exact term.shorter hr

/-! ### Levels of nesting -/

/-- The readers of the parts that may follow right behind what opens a level. -/
structure Level where
  formula : Reader Formula
  implication : Reader Formula
  unary : Reader Formula
  term : Reader Term

/-- The level inside, if there may be one. Otherwise the opening token is where the formula cannot go on. -/
def nested (inner : Option Level) (opening : List Token) : Except Failure Level :=
  match inner with
  | some level => .ok level
  | none => .error ⟨.nestingLimit maxNesting, opening⟩

/-- The arguments behind an opening parenthesis, and the token that closes them. -/
def arguments (term : Reader Term) (tokens : List Token) : Except Failure (Reading (List Term × Token)) :=
  match expect .closing .term tokens with
  | .ok (close, rest) => .ok (([], close), rest)
  | .error _ => do
    let (all, rest) ← separated term [] tokens
    let (close, rest) ← expect .closing (.token .closing) rest
    .ok ((all, close), rest)

theorem arguments_shorter {term : Reader Term} {tokens rest : List Token} {r : List Term × Token}
    (h : arguments term tokens = .ok (r, rest)) : rest.length < tokens.length := by
  rw [arguments] at h
  split at h
  · cases h; exact expect_shorter ‹_›
  · obtain ⟨⟨all, rest₁⟩, hs, h⟩ := bind_eq_ok.1 h
    obtain ⟨⟨close, rest₂⟩, he, h⟩ := bind_eq_ok.1 h
    cases h
    exact Nat.lt_trans (expect_shorter he) (separated_shorter hs)

/-- The term that begins with a name: a variable, or a function if an argument list follows. -/
def application (inner : Option Level) (name : Token) (tokens : List Token) : Except Failure (Reading Term) :=
  match tokens with
  | [] => .ok (.variable name.text name.span, [])
  | t :: rest =>
    if t.kind = .opening then do
      let level ← nested inner (t :: rest)
      let ((all, close), rest) ← arguments level.term rest
      .ok (.function name.text all (name.span.union close.span), rest)
    else .ok (.variable name.text name.span, t :: rest)

theorem application_not_longer {inner : Option Level} {name : Token} {tokens rest : List Token} {r : Term}
    (h : application inner name tokens = .ok (r, rest)) : rest.length ≤ tokens.length := by
  cases tokens with
  | nil => cases h; exact Nat.le_refl _
  | cons t ts =>
    rw [application] at h
    split at h
    · obtain ⟨level, -, h⟩ := bind_eq_ok.1 h
      obtain ⟨⟨⟨all, close⟩, rest₁⟩, ha, h⟩ := bind_eq_ok.1 h
      cases h
      exact Nat.le_succ_of_le (Nat.le_of_lt (arguments_shorter ha))
    · cases h; exact Nat.le_refl _

/-- A term. -/
def term (inner : Option Level) : Reader Term where
  read tokens := do
    let (name, rest) ← expect .identifier .term tokens
    application inner name rest
  shorter h := by
    obtain ⟨⟨name, rest⟩, he, ha⟩ := bind_eq_ok.1 h
    exact Nat.lt_of_le_of_lt (application_not_longer ha) (expect_shorter he)

/-- The atom that a formula stands for when it consists of one term. -/
def atomOfTerm : Term → Atom
  | .variable name _ => .proposition name
  | .function name arguments _ => .predicate name arguments

/-- The atom that begins with a name: two terms in a relation, or one term alone. -/
def atom (inner : Option Level) (name : Token) (tokens : List Token) : Except Failure (Reading Formula) := do
  let (left, rest) ← application inner name tokens
  match rest with
  | [] => .ok (Formula.ofAtom (atomOfTerm left) left.span, [])
  | t :: rest =>
    if t.kind = .equals ∨ t.kind = .notEquals then do
      let (right, rest) ← (term inner).read rest
      .ok (Formula.ofAtom (.equality left right (t.kind = .notEquals)) (left.span.union right.span), rest)
    else .ok (Formula.ofAtom (atomOfTerm left) left.span, t :: rest)

theorem atom_not_longer {inner : Option Level} {name : Token} {tokens rest : List Token} {r : Formula}
    (h : atom inner name tokens = .ok (r, rest)) : rest.length ≤ tokens.length := by
  obtain ⟨⟨left, rest₁⟩, ha, h⟩ := bind_eq_ok.1 h
  have := application_not_longer ha
  cases rest₁ with
  | nil => cases h; exact this
  | cons t ts =>
    dsimp only at h
    split at h
    · obtain ⟨⟨right, rest₂⟩, ht, h⟩ := bind_eq_ok.1 h
      cases h
      have := (term inner).shorter ht
      simp only [List.length_cons] at *
      omega
    · cases h; exact this

/-- What follows `¬`. -/
def negated (inner : Option Level) (sign : Token) (tokens : List Token) : Except Failure (Reading Formula) := do
  let level ← nested inner (sign :: tokens)
  let (operand, rest) ← level.unary.read tokens
  .ok (Formula.not operand (sign.span.union operand.span), rest)

/-- What follows a quantifier: a variable, a dot and the body. -/
def quantified (inner : Option Level) (quantifier : Quantifier) (sign : Token) (tokens : List Token) :
    Except Failure (Reading Formula) := do
  let level ← nested inner (sign :: tokens)
  let (bound, rest) ← expect .identifier .boundVariable tokens
  let (_, rest) ← expect .dot (.token .dot) rest
  let (body, rest) ← level.formula.read rest
  .ok (Formula.quantify quantifier ⟨bound.text, bound.span⟩ body (sign.span.union body.span), rest)

/-- What follows an opening parenthesis. The formula inside then stands where its parentheses stand. -/
def parenthesised (inner : Option Level) (sign : Token) (tokens : List Token) :
    Except Failure (Reading Formula) := do
  let level ← nested inner (sign :: tokens)
  let (f, rest) ← level.formula.read tokens
  let (close, rest) ← expect .closing (.token .closing) rest
  .ok (f.withSpan (sign.span.union close.span), rest)

/-- A formula that its first token decides on. -/
def readUnary (inner : Option Level) : List Token → Except Failure (Reading Formula)
  | [] => .error ⟨.formula, []⟩
  | t :: rest =>
    match t.kind with
    | .not => negated inner t rest
    | .forAll => quantified inner .forAll t rest
    | .forSome => quantified inner .forSome t rest
    | .opening => parenthesised inner t rest
    | .identifier => atom inner t rest
    | _ => .error ⟨.formula, t :: rest⟩

theorem negated_not_longer {inner : Option Level} {sign : Token} {tokens rest : List Token} {r : Formula}
    (h : negated inner sign tokens = .ok (r, rest)) : rest.length ≤ tokens.length := by
  obtain ⟨level, -, h⟩ := bind_eq_ok.1 h
  obtain ⟨⟨operand, rest₁⟩, hu, h⟩ := bind_eq_ok.1 h
  cases h
  exact Nat.le_of_lt (level.unary.shorter hu)

theorem quantified_not_longer {inner : Option Level} {quantifier : Quantifier} {sign : Token}
    {tokens rest : List Token} {r : Formula} (h : quantified inner quantifier sign tokens = .ok (r, rest)) :
    rest.length ≤ tokens.length := by
  obtain ⟨level, -, h⟩ := bind_eq_ok.1 h
  obtain ⟨⟨bound, rest₁⟩, hb, h⟩ := bind_eq_ok.1 h
  obtain ⟨⟨dot, rest₂⟩, hd, h⟩ := bind_eq_ok.1 h
  obtain ⟨⟨body, rest₃⟩, hf, h⟩ := bind_eq_ok.1 h
  cases h
  have := expect_shorter hb
  have := expect_shorter hd
  have := level.formula.shorter hf
  omega

theorem parenthesised_not_longer {inner : Option Level} {sign : Token} {tokens rest : List Token} {r : Formula}
    (h : parenthesised inner sign tokens = .ok (r, rest)) : rest.length ≤ tokens.length := by
  obtain ⟨level, -, h⟩ := bind_eq_ok.1 h
  obtain ⟨⟨f, rest₁⟩, hf, h⟩ := bind_eq_ok.1 h
  obtain ⟨⟨close, rest₂⟩, hc, h⟩ := bind_eq_ok.1 h
  cases h
  have := expect_shorter hc
  have := level.formula.shorter hf
  omega

/-- A formula without an operator at its top that stands between operands. -/
def unary (inner : Option Level) : Reader Formula where
  read := readUnary inner
  shorter := by
    intro tokens f rest h
    cases tokens with
    | nil => cases h
    | cons t ts =>
      refine Nat.lt_succ_of_le ?_
      rw [readUnary] at h
      split at h
      · exact negated_not_longer h
      · exact quantified_not_longer h
      · exact quantified_not_longer h
      · exact parenthesised_not_longer h
      · exact atom_not_longer h
      · cases h

def conjunction (inner : Option Level) : Reader Formula := chained .and (unary inner)

def disjunction (inner : Option Level) : Reader Formula := chained .or (conjunction inner)

/-- What follows the left side of an implication, if that is what it is. -/
def consequent (inner : Option Level) (left : Formula) (tokens : List Token) :
    Except Failure (Reading Formula) :=
  match tokens with
  | [] => .ok (left, [])
  | t :: rest =>
    if t.kind = .implies then do
      let level ← nested inner (t :: rest)
      let (right, rest) ← level.implication.read rest
      .ok (Formula.join .implies left right, rest)
    else .ok (left, t :: rest)

theorem consequent_not_longer {inner : Option Level} {left r : Formula} {tokens rest : List Token}
    (h : consequent inner left tokens = .ok (r, rest)) : rest.length ≤ tokens.length := by
  cases tokens with
  | nil => cases h; exact Nat.le_refl _
  | cons t ts =>
    rw [consequent] at h
    split at h
    · obtain ⟨level, -, h⟩ := bind_eq_ok.1 h
      obtain ⟨⟨right, rest₁⟩, hr, h⟩ := bind_eq_ok.1 h
      cases h
      exact Nat.le_succ_of_le (Nat.le_of_lt (level.implication.shorter hr))
    · cases h; exact Nat.le_refl _

def implication (inner : Option Level) : Reader Formula where
  read tokens := do
    let (left, rest) ← (disjunction inner).read tokens
    consequent inner left rest
  shorter h := by
    obtain ⟨⟨left, rest⟩, hl, hc⟩ := bind_eq_ok.1 h
    exact Nat.lt_of_le_of_lt (consequent_not_longer hc) ((disjunction inner).shorter hl)

def formula (inner : Option Level) : Reader Formula := chained .iff (implication inner)

/-- The readers of a level, from those of the level inside it, if there may be one. -/
def levelAround (inner : Option Level) : Level where
  formula := formula inner
  implication := implication inner
  unary := unary inner
  term := term inner

/-- The readers of a level with a number of levels left inside it. -/
def level : Nat → Level
  | 0 => levelAround none
  | left + 1 => levelAround (some (level left))

/-- The error that a failure means in a source of some length. -/
def Failure.error (e : Failure) (sourceLength : Nat) : ParseError :=
  match e.rest with
  | [] => ⟨sourceLength, e.expected, .endOfInput, Span.point sourceLength⟩
  | t :: _ => ⟨t.span.start, e.expected, .token t.kind t.text, t.span⟩

/-- All the tokens, read as one formula. -/
def whole (tokens : List Token) : Except Failure Formula := do
  let (f, rest) ← (level maxNesting).formula.read tokens
  match rest with
  | [] => .ok f
  | t :: rest => .error ⟨.endOfInput, t :: rest⟩

end Parser

/-- The formula that the tokens of a source of some length spell. -/
def Formula.ofTokens (tokens : List Token) (sourceLength : Nat) : Except ParseError Formula :=
  (Parser.whole tokens).mapError (·.error sourceLength)

end FormulaDiagram
