import FormulaDiagram.Drawing.Svg

/-!
The layers of a drawing, from the back to the front. What is drawn is collected in any order and comes out as
one group for each layer with something on it.
-/

namespace FormulaDiagram

inductive Layer where
  | background
  | connector
  | node
  | text
deriving DecidableEq

namespace Layer

def all : List Layer := [.background, .connector, .node, .text]

def name : Layer → String
  | .background => "background"
  | .connector => "connector"
  | .node => "node"
  | .text => "text"

/-- The place of a layer, counted from the back. -/
def rank : Layer → Nat
  | .background => 0
  | .connector => 1
  | .node => 2
  | .text => 3

/-- The group of parts that are on the layer. -/
def group (layer : Layer) (parts : List SvgNode) : SvgNode := .tag "g" [("data-layer", layer.name)] parts

end Layer

/-- Groups that are filled one after the other: those that are closed, and the layer and the parts of the open one. -/
structure Grouping where
  closed : Array SvgNode
  layer : Layer
  parts : Array SvgNode

namespace Grouping

variable (g : Grouping)

/-- The groups, once the open one is closed too. -/
def groups : Array SvgNode := g.closed.push (g.layer.group g.parts.toList)

/-- Opens a group for a layer, unless it is the layer of the open one. -/
def turnTo (layer : Layer) : Grouping := if layer = g.layer then g else ⟨g.groups, layer, #[]⟩

/-- Puts a part into the open group, that of its layer. -/
def add (part : Layer × SvgNode) : Grouping :=
  let g := g.turnTo part.1
  { g with parts := g.parts.push part.2 }

end Grouping

/-- What is drawn, with the layer of each part, in the order in which it was added. -/
structure LayeredOutput where
  items : Array (Layer × SvgNode)

namespace LayeredOutput

def empty : LayeredOutput := ⟨#[]⟩

variable (output : LayeredOutput)

def isEmpty : Bool := output.items.isEmpty

/-- Adds a part to a layer. -/
def add (layer : Layer) (node : SvgNode) : LayeredOutput := ⟨output.items.push (layer, node)⟩

/-- Adds all that another output holds. -/
def merge (other : LayeredOutput) : LayeredOutput := ⟨output.items ++ other.items⟩

/-- The groups from the back to the front. Sorting keeps the order of parts of one layer. -/
def render : List SvgNode :=
  match output.items.toList.mergeSort fun a b => a.1.rank ≤ b.1.rank with
  | [] => []
  | first :: rest => ((first :: rest).foldl Grouping.add ⟨#[], first.1, #[]⟩).groups.toList

end LayeredOutput

end FormulaDiagram
