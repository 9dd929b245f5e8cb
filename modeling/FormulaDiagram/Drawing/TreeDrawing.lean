import FormulaDiagram.Drawing.Primitive
import FormulaDiagram.Layout.Tree

/-!
The drawing of a laid-out formula: first its nodes in pre-order, then a line for each edge. Atoms are rounded
boxes, negations and connectives circles, and quantifiers boxes, with a dashed outline where they bind nothing.
-/

namespace FormulaDiagram

namespace Palette

def label : Color := Color.ofCode 0x111111

/-- The colours of a kind of node, inside and outline, with a line of one and a half units. -/
def style (fill outline : Nat) (style : StrokeStyle) : NodeStyle where
  fill := Color.ofCode fill
  stroke := ⟨Color.ofCode outline, Scalar.ratio 3 2, style⟩
  textColor := label

def atom : NodeStyle := style 0xe8f1fb 0x1f4e79 .solid

def operator : NodeStyle := style 0xfdf2d0 0x8a6d0b .solid

def quantifier (vacuous : Bool) : NodeStyle := style 0xe6f4e6 0x2e6b2e (if vacuous then .dashed else .solid)

def connector : Stroke := ⟨Color.ofCode 0x555555, Scalar.ratio 6 5, .solid⟩

def background : Color := .named .white

end Palette

namespace NodeKind

def shape : NodeKind → NodeShape
  | .atom => .roundedRectangle 6
  | .negation => .circle
  | .connective _ => .circle
  | .quantifier _ _ => .rectangle

def style : NodeKind → NodeStyle
  | .atom => Palette.atom
  | .negation => Palette.operator
  | .connective _ => Palette.operator
  | .quantifier _ vacuous => Palette.quantifier vacuous

end NodeKind

/-- The outline and the label of a node. -/
def PlacedNode.element (node : PlacedNode Single) (fontSize : Single) : NodeElement where
  shape := node.kind.shape
  bounds := node.bounds
  label := node.label
  fontSize
  style := node.kind.style

namespace LayoutTree

variable (tree : LayoutTree Single)

/-- The line of an edge. -/
def line? (edge : Edge) : Option Connector :=
  (tree.connector? edge).map fun (start, stop) => ⟨start, stop, Palette.connector⟩

/-- The drawing of the tree, with labels and a margin as configured. -/
def diagram (config : Config Single) : Diagram :=
  let nodes := tree.nodes.toList.map fun node => Primitive.node (node.element config.fontSize)
  let lines := tree.edges.filterMap fun edge => (tree.line? edge).map Primitive.line
  Diagram.ofPrimitives (nodes ++ lines) (Insets.uniform config.margin) Palette.background

end LayoutTree

end FormulaDiagram
