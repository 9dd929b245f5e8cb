import FormulaDiagram.Formula.Printer

/-!
The nodes of a formula in one array, in pre-order: every node stands before the nodes below it, and those of a
left operand before those of the right one. Nodes know their parent and their children by position. The array is
filled from a list of formulas that still wait for their turn, each with the position of its parent.
-/

namespace FormulaDiagram

/-- What a node is, as far as drawing it goes. -/
inductive NodeKind where
  | atom
  | negation
  | connective (connective : Connective)
  | quantifier (quantifier : Quantifier) (vacuous : Bool)
deriving DecidableEq

namespace NodeKind

def ofFormula (f : Formula) : NodeKind :=
  match f with
  | .atom _ _ => .atom
  | .negation _ _ => .negation
  | .binary _ c _ _ => .connective c
  | .quantified facts q _ _ => .quantifier q facts.annotation.vacuous

/-- The number of children of such a node. -/
def arity : NodeKind → Nat
  | .atom => 0
  | .negation => 1
  | .quantifier _ _ => 1
  | .connective _ => 2

/-- Such nodes are drawn as circles. -/
def isRound : NodeKind → Bool
  | .negation => true
  | .connective _ => true
  | _ => false

end NodeKind

/-- A node of a tree that stands in an array. -/
structure TreeNode where
  label : String
  kind : NodeKind
  leafCount : Nat
  depth : Nat
  parent : Option Nat
  children : List Nat
deriving DecidableEq

namespace TreeNode

/-- The node for the root of a formula, without children yet. A node that was never validated counts as one
atom. -/
def ofFormula (f : Formula) (parent : Option Nat) : TreeNode where
  label := f.label
  kind := .ofFormula f
  leafCount := max f.annotation.leafCount 1
  depth := f.annotation.depth
  parent := parent
  children := []

end TreeNode

namespace Arena

/-- Adds a node at the end, and its position to the children of its parent. -/
def add (nodes : Array TreeNode) (node : TreeNode) : Array TreeNode :=
  let position := nodes.size
  match node.parent with
  | none => nodes.push node
  | some parent => (nodes.push node).modify parent fun p => { p with children := p.children ++ [position] }

/-- Adds the nodes of all waiting formulas, the first of them first. -/
def fill (waiting : List (Formula × Option Nat)) (nodes : Array TreeNode) : Array TreeNode :=
  match waiting with
  | [] => nodes
  | (f, parent) :: rest =>
    fill (f.children.map (·, some nodes.size) ++ rest) (add nodes (.ofFormula f parent))
termination_by Formula.sizeAll (waiting.map (·.1))
decreasing_by
  simp only [List.map_append, List.map_map, Function.comp_def, List.map_id', List.map_cons, Formula.sizeAll_append,
    Formula.sizeAll_cons, f.size_eq_children]
  omega

end Arena

/-- The nodes of a formula in pre-order. -/
def Formula.arena (f : Formula) : Array TreeNode := Arena.fill [(f, none)] #[]

end FormulaDiagram
