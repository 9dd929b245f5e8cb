import FormulaDiagram.Formula.Basic

/-!
Validation. It finds nothing that would be an error in a formula that parses, but warns of quantifiers that bind
nothing and of variables that are bound again inside the scope of their name, and it annotates every node with
the number of its atoms, its depth and those two facts. The nodes are visited from a stack of those that are still
pending, in pre-order, and what the visits find is put into the formula in that order.
-/

namespace FormulaDiagram

/-- Diagnostics of which at least one is an error. -/
structure ValidationError where
  diagnostics : List Diagnostic
deriving DecidableEq

namespace ValidationError

/-- The first diagnostic, and how many there are besides. -/
def message (e : ValidationError) : String :=
  match e.diagnostics with
  | [] => ""
  | [d] => d.text
  | d :: ds => d.text ++ " (+" ++ toString ds.length ++ " more)"

/-- Where the first error stands. -/
def offset? (e : ValidationError) : Option Nat := do
  let first ← e.diagnostics.find? (·.isError)
  let span ← first.primarySpan?
  return span.start

end ValidationError

/-- A validated formula and the warnings about it. -/
structure AnnotatedFormula where
  formula : Formula
  warnings : List Diagnostic

/-- A quantifier whose variable does not occur in its body. The primary place is the head of the quantifier. -/
def vacuousWarning (quantifier : Quantifier) (bound : BoundVariable) (start : Nat) : Diagnostic where
  severity := .warning
  topic := some .vacuousQuantifier
  message := "quantifier `" ++ quantifier.glyph ++ bound.name ++ "` binds nothing"
  labels := [⟨true, Span.between start bound.span.stop, "`" ++ bound.name ++ "` does not occur in the body"⟩]
  help := some ("remove the quantifier or use `" ++ bound.name ++ "` in its body")

/-- A variable that is bound where the same name is bound already, at `outer`. -/
def shadowingWarning (bound outer : BoundVariable) : Diagnostic where
  severity := .warning
  topic := some .shadowedVariable
  message := "variable `" ++ bound.name ++ "` shadows an outer binding"
  labels := [⟨true, bound.span, "rebinds `" ++ bound.name ++ "`"⟩, ⟨false, outer.span, "outer binding"⟩]
  help := some "rename one of the variables"

namespace BoundVariable

/-- The innermost variable of the same name among those in scope, which stand from the inside outwards. -/
def outer? (bound : BoundVariable) (scope : List BoundVariable) : Option BoundVariable :=
  scope.find? (·.name == bound.name)

end BoundVariable

namespace Formula

/-- The quantifier binds nothing: its variable does not occur in its body. -/
def isVacuous (bound : BoundVariable) (body : Formula) : Bool := !body.mentions bound.name

/-- What a node at some depth is annotated with. What was found before is kept. -/
def annotatedFacts (facts : NodeFacts) (depth : Nat) (vacuous shadows : Bool) : NodeFacts :=
  let old := facts.annotation
  { facts with annotation := ⟨facts.leaves, depth, old.vacuous || vacuous, old.shadows || shadows⟩ }

end Formula

/-! ### The walk over the nodes -/

/-- A node that is still to be visited: its depth, and how many variables are bound above it. -/
structure PendingNode where
  node : Formula
  depth : Nat
  scopeLength : Nat

/-- A node as it is visited: its depth, and the variables that are bound above it, the innermost first. -/
structure Visit where
  node : Formula
  depth : Nat
  scope : List BoundVariable

namespace Visit

/-- The facts about the node with what the visit finds out. -/
def facts (v : Visit) : NodeFacts :=
  match v.node with
  | .quantified facts _ bound body =>
    Formula.annotatedFacts facts v.depth (Formula.isVacuous bound body) (bound.outer? v.scope).isSome
  | f => Formula.annotatedFacts f.facts v.depth false false

/-- What there is to warn of at the node. -/
def warnings (v : Visit) : List Diagnostic :=
  match v.node with
  | .quantified facts quantifier bound body =>
    let vacuous := if Formula.isVacuous bound body then [vacuousWarning quantifier bound facts.span.start] else []
    vacuous ++ (bound.outer? v.scope).toList.map (shadowingWarning bound)
  | _ => []

end Visit

namespace Validation

/-- The outermost variables of a scope, so many of them. -/
def outermost (count : Nat) (scope : List BoundVariable) : List BoundVariable := scope.drop (scope.length - count)

/-- Visits what is pending, each node before the nodes below it. The scope grows at quantifiers, and every pending
node remembers how much of it is bound above the node: what was bound elsewhere is dropped before it is visited. -/
def walk (scope : List BoundVariable) (pending : List PendingNode) (visited : List Visit) : List Visit :=
  match pending with
  | [] => visited.reverse
  | ⟨f, depth, scopeLength⟩ :: pending =>
    let scope := outermost scopeLength scope
    let visited := ⟨f, depth, scope⟩ :: visited
    match f with
    | .atom _ _ => walk scope pending visited
    | .negation _ operand => walk scope (⟨operand, depth + 1, scopeLength⟩ :: pending) visited
    | .binary _ _ left right =>
      walk scope (⟨left, depth + 1, scopeLength⟩ :: ⟨right, depth + 1, scopeLength⟩ :: pending) visited
    | .quantified _ _ bound body =>
      walk (bound :: scope) (⟨body, depth + 1, scope.length + 1⟩ :: pending) visited
termination_by Formula.sizeAll (pending.map PendingNode.node)
decreasing_by
  all_goals
    simp only [List.map_cons, Formula.sizeAll_cons, Formula.size]
    omega

end Validation

namespace Formula

/-- The formula with other facts about its nodes, which are given in pre-order, and the facts that are left. -/
def refill : Formula → List NodeFacts → Formula × List NodeFacts
  | f, [] => (f, [])
  | .atom _ a, facts :: rest => (.atom facts a, rest)
  | .negation _ operand, facts :: rest =>
    let (operand, rest) := operand.refill rest
    (.negation facts operand, rest)
  | .binary _ connective left right, facts :: rest =>
    let (left, rest) := left.refill rest
    let (right, rest) := right.refill rest
    (.binary facts connective left right, rest)
  | .quantified _ quantifier bound body, facts :: rest =>
    let (body, rest) := body.refill rest
    (.quantified facts quantifier bound body, rest)

/-- Visits every node, annotates it and collects what there is to say about it. -/
def validate (f : Formula) : Except ValidationError AnnotatedFormula :=
  let visits := Validation.walk [] [⟨f, 0, 0⟩] []
  let diagnostics := visits.flatMap Visit.warnings
  if diagnostics.any (·.isError) then .error ⟨diagnostics⟩
  else .ok ⟨(f.refill (visits.map Visit.facts)).1, diagnostics⟩

end Formula

end FormulaDiagram
