import FormulaDiagram.Color
import FormulaDiagram.Drawing.Layer
import FormulaDiagram.Geometry

/-!
What drawings consist of: labelled outlines and straight lines, with their colours and strokes. A drawing is a
list of such primitives on a background, in bounds that hold them all with a margin.
-/

namespace FormulaDiagram

inductive StrokeStyle where
  | solid
  | dashed
deriving DecidableEq

/-- The lengths of dashes and gaps of a line that is not solid. -/
def StrokeStyle.dashes? : StrokeStyle → Option String
  | .solid => none
  | .dashed => some "4,3"

structure Stroke where
  color : Color
  width : Single
  style : StrokeStyle
deriving DecidableEq

namespace Stroke

instance : Inhabited Stroke := ⟨⟨default, Binary.ofNat 1, .solid⟩⟩

/-- The attributes that draw a line with the stroke. -/
def attributes (stroke : Stroke) : List (String × String) :=
  [("stroke", stroke.color.text), ("stroke-opacity", stroke.color.alpha.text),
    ("stroke-width", stroke.width.text)] ++ stroke.style.dashes?.toList.map ("stroke-dasharray", ·)

end Stroke

/-- The shape of an outline. -/
inductive NodeShape where
  | circle
  | rectangle
  | roundedRectangle (radius : Nat)
deriving DecidableEq

structure NodeStyle where
  fill : Color
  stroke : Stroke
  textColor : Color
deriving DecidableEq

/-- An outline with a label in its middle. -/
structure NodeElement where
  shape : NodeShape
  bounds : Bounds Single
  label : String
  fontSize : Single
  style : NodeStyle
deriving DecidableEq

namespace NodeElement

variable (node : NodeElement)

def fillAttributes : List (String × String) :=
  [("fill", node.style.fill.text), ("fill-opacity", node.style.fill.alpha.text)]

/-- The outline alone. A circle fits into its bounds. -/
def outline : SvgNode :=
  let center := node.bounds.center
  let paint := node.fillAttributes ++ node.style.stroke.attributes
  let box := [("x", node.bounds.minX.text), ("y", node.bounds.minY.text), ("width", node.bounds.width.text),
    ("height", node.bounds.height.text)]
  match node.shape with
  | .circle =>
    let radius := Scalar.half (min node.bounds.width node.bounds.height)
    SvgNode.tag "circle" ([("cx", center.x.text), ("cy", center.y.text), ("r", radius.text)] ++ paint) []
  | .rectangle => SvgNode.tag "rect" (box ++ paint) []
  | .roundedRectangle radius =>
    SvgNode.tag "rect" (box ++ ("rx", (Binary.ofNat radius : Single).text) :: paint) []

/-- The label alone, behind an empty text. -/
def labelText : SvgNode :=
  let center := node.bounds.center
  SvgNode.tag "text"
    [("x", center.x.text), ("y", center.y.text), ("text-anchor", "middle"), ("dominant-baseline", "central"),
      ("font-family", "monospace"), ("font-size", node.fontSize.text), ("fill", node.style.textColor.text)]
    [.text "", .text node.label]

end NodeElement

/-- A straight line. -/
structure Connector where
  start : Point Single
  stop : Point Single
  stroke : Stroke
deriving DecidableEq

namespace Connector

variable (line : Connector)

def bounds : Bounds Single := Bounds.ofPoints line.start line.stop

def element : SvgNode :=
  SvgNode.tag "line"
    ([("x1", line.start.x.text), ("y1", line.start.y.text), ("x2", line.stop.x.text), ("y2", line.stop.y.text)] ++
      line.stroke.attributes)
    []

end Connector

inductive Primitive where
  | node (node : NodeElement)
  | line (line : Connector)
deriving DecidableEq

namespace Primitive

def bounds : Primitive → Bounds Single
  | .node n => n.bounds
  | .line l => l.bounds

/-- The parts of a primitive, each on its layer. -/
def layers : Primitive → LayeredOutput
  | .node n => (LayeredOutput.empty.add .node n.outline).add .text n.labelText
  | .line l => LayeredOutput.empty.add .connector l.element

end Primitive

/-- A drawing: primitives on a background. -/
structure Diagram where
  primitives : List Primitive
  bounds : Bounds Single
  background : Color

namespace Diagram

/-- The drawing of primitives with a margin around the smallest rectangle that holds them. -/
def ofPrimitives (primitives : List Primitive) (margin : Insets Single) (background : Color) : Diagram where
  primitives
  bounds := (Bounds.hull (primitives.map Primitive.bounds)).pad margin
  background

variable (diagram : Diagram)

def nodes : List NodeElement :=
  diagram.primitives.filterMap fun
    | .node n => some n
    | .line _ => none

def lines : List Connector :=
  diagram.primitives.filterMap fun
    | .node _ => none
    | .line l => some l

def backgroundElement : SvgNode :=
  SvgNode.tag "rect"
    [("x", diagram.bounds.minX.text), ("y", diagram.bounds.minY.text), ("width", diagram.bounds.width.text),
      ("height", diagram.bounds.height.text), ("fill", diagram.background.text)]
    []

/-- The parts of the drawing, each on its layer. -/
def layers : LayeredOutput :=
  diagram.primitives.foldl (fun output primitive => output.merge primitive.layers)
    (LayeredOutput.empty.add .background diagram.backgroundElement)

/-- The drawing as a document. -/
def document : SvgNode :=
  let b := diagram.bounds
  SvgNode.tag "svg"
    [("xmlns", "http://www.w3.org/2000/svg"),
      ("viewBox", b.minX.text ++ " " ++ b.minY.text ++ " " ++ b.width.text ++ " " ++ b.height.text),
      ("width", b.width.text), ("height", b.height.text)]
    diagram.layers.render

end Diagram

end FormulaDiagram
