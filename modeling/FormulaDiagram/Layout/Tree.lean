import FormulaDiagram.Config
import FormulaDiagram.Geometry
import FormulaDiagram.Layout.Arena

/-!
The layout of a formula. Every node gets a span of the width of its atoms, each of one unit, and stands in the
middle of it; the spans of the children divide the span of their parent from the left. Rows are as far apart as
the tallest node needs, and the unit is as wide as the widest node needs, so that no two nodes come closer than
the configured gap. All of it is written over any scalars: over values of 32 bits it is what is drawn, over the
rational numbers what would be drawn if nothing were rounded.
-/

namespace FormulaDiagram

/-- A node with its place: its span begins at `left` and is as wide as `extent`. -/
structure PlacedNode (α : Type) extends TreeNode where
  size : Size α
  left : α
  extent : α
  center : Point α

/-- A laid-out tree, its nodes in pre-order. -/
structure LayoutTree (α : Type) where
  nodes : Array (PlacedNode α)
  unit : α

/-- A line from a parent down to a child, by their positions. -/
structure Edge where
  parent : Nat
  child : Nat
deriving DecidableEq

namespace Layout

variable {α : Type} [Scalar α]

/-- The size of a label in a font whose characters are all three fifths as wide as the font is high, on a line
of six fifths of that height. -/
def labelSize (label : String) (fontSize : α) : Size α :=
  if label.isEmpty then Size.zero
  else ⟨Scalar.ofNat label.length * Scalar.ratio 3 5 * fontSize, Scalar.ratio 6 5 * fontSize⟩

/-- The size of the outline around a label: a circle with the padding on both sides together, or a box with the
padding on either side. Nothing is narrower than it is high. -/
def nodeSize (config : Config α) (label : String) (kind : NodeKind) : Size α :=
  let text := labelSize label config.fontSize
  let height := max config.nodeHeight text.height
  if kind.isRound then
    let diameter := max height (text.width + config.nodePadding)
    ⟨diameter, diameter⟩
  else
    ⟨max height (text.width + Scalar.double config.nodePadding), height⟩

/-- The width that a number of units takes. -/
def extent (unit : α) (leafCount : Nat) : α := Scalar.ofNat leafCount * unit

/-- The measures that hold for a whole tree. -/
structure Measures (α : Type) where
  unit : α
  rowHeight : α
  halfHeight : α

/-- The unit has room for the widest node and a gap, a row for the tallest one and a gap. -/
def measures (config : Config α) (sizes : Array (Size α)) : Measures α :=
  let widest := sizes.foldl (fun w size => max w size.width) Scalar.zero
  let tallest := sizes.foldl (fun h size => max h size.height) config.nodeHeight
  { unit := max config.unitWidth (widest + config.siblingGap)
    rowHeight := max config.rowHeight (tallest + config.siblingGap)
    halfHeight := Scalar.half tallest }

/-- A node with its size that has no place yet. -/
def unplaced (config : Config α) (node : TreeNode) : PlacedNode α :=
  { node with
    size := nodeSize config node.label node.kind
    left := Scalar.zero
    extent := Scalar.zero
    center := ⟨Scalar.zero, Scalar.zero⟩ }

/-- A node whose left side is known, with its extent and its centre. -/
def settle (m : Measures α) (node : PlacedNode α) : PlacedNode α :=
  let width := extent m.unit node.leafCount
  { node with
    extent := width
    center := ⟨node.left + Scalar.half width, Scalar.ofNat node.depth * m.rowHeight + m.halfHeight⟩ }

/-- Lets a child begin at the cursor, which moves on to where the child ends. -/
def handOut (unit : α) : Array (PlacedNode α) × α → Nat → Array (PlacedNode α) × α
  | (nodes, cursor), child =>
    match nodes[child]? with
    | none => (nodes, cursor)
    | some node =>
      (nodes.setIfInBounds child { node with left := cursor }, cursor + extent unit node.leafCount)

/-- Settles the node at a position and hands its span out to its children. -/
def placeAt (m : Measures α) (nodes : Array (PlacedNode α)) (position : Nat) : Array (PlacedNode α) :=
  match nodes[position]? with
  | none => nodes
  | some node =>
    let settled := nodes.setIfInBounds position (settle m node)
    (node.children.foldl (handOut m.unit) (settled, node.left)).1

/-- Places all nodes in the order in which they stand. A parent stands before its children, so its left side is final
when they get theirs. -/
def place (m : Measures α) (nodes : Array (PlacedNode α)) : Array (PlacedNode α) :=
  (List.range nodes.size).foldl (placeAt m) nodes

/-- The layout of the nodes of a tree. -/
def ofArena (config : Config α) (nodes : Array TreeNode) : LayoutTree α :=
  let nodes := nodes.map (unplaced config)
  let m := measures config (nodes.map (·.size))
  ⟨place m nodes, m.unit⟩

end Layout

/-- The layout of a formula, as validation annotated it. -/
def Formula.layout {α : Type} [Scalar α] (f : Formula) (config : Config α) : LayoutTree α :=
  Layout.ofArena config f.arena

namespace PlacedNode

variable {α : Type} [Scalar α] (node : PlacedNode α)

/-- The rectangle around the outline of the node. -/
def bounds : Bounds α := Bounds.around node.center node.size

/-- Where the connector from the parent ends. -/
def topAnchor : Point α := node.bounds.topCenter

/-- Where the connectors to the children start. -/
def bottomAnchor : Point α := node.bounds.bottomCenter

end PlacedNode

namespace LayoutTree

variable {α : Type} (tree : LayoutTree α)

/-- The edges, ordered by child. -/
def edges : List Edge :=
  (List.range tree.nodes.size).filterMap fun child => do
    let node ← tree.nodes[child]?
    let parent ← node.parent
    return ⟨parent, child⟩

variable [Scalar α]

/-- The end points of the line that is drawn for an edge. -/
def connector? (edge : Edge) : Option (Point α × Point α) := do
  let parent ← tree.nodes[edge.parent]?
  let child ← tree.nodes[edge.child]?
  return (parent.bottomAnchor, child.topAnchor)

/-- The smallest rectangle with all nodes in it. -/
def bounds : Bounds α := Bounds.hull (tree.nodes.toList.map PlacedNode.bounds)

end LayoutTree

end FormulaDiagram
