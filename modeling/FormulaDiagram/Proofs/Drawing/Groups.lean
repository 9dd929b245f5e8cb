import FormulaDiagram.Proofs.Drawing.Faithful
import FormulaDiagram.Proofs.Layout.Placement
import FormulaDiagram.Proofs.Validation.History

/-!
What a document consists of. The parts of a drawing come out sorted by layers, in groups: the background, the lines,
the outlines and the labels, each layer in the order in which its parts were added, and a layer without parts without a
group. So the document of a formula shows every node once and every edge once, in pre-order, and nothing besides.
-/

namespace FormulaDiagram

/-! ### Reading elements -/

namespace SvgNode

def name? : SvgNode → Option String
  | .element name _ _ => some name
  | .text _ => none

def attributes : SvgNode → List (String × String)
  | .element _ attributes _ => attributes
  | .text _ => []

def children : SvgNode → List SvgNode
  | .element _ _ children => children
  | .text _ => []

/-- The value of an attribute. -/
def attribute? (key : String) (node : SvgNode) : Option String := node.attributes.lookup key

@[simp] theorem name?_tag (name : String) (attributes : List (String × String)) (children : List SvgNode) :
    (tag name attributes children).name? = some name := rfl

@[simp] theorem children_tag (name : String) (attributes : List (String × String)) (children : List SvgNode) :
    (tag name attributes children).children = children := rfl

theorem lookup_cons (key name value : String) (rest : List (String × String)) :
    ((name, value) :: rest).lookup key = if key = name then some value else rest.lookup key := by
  by_cases h : key = name
  · simp [h]
  · simp [List.lookup_cons, h, beq_false_of_ne h]

theorem lookup_insertAttribute (name value key : String) (sorted : List (String × String)) :
    (insertAttribute name value sorted).lookup key = if key = name then some value else sorted.lookup key := by
  induction sorted with
  | nil => exact lookup_cons key name value []
  | cons first rest ih =>
      obtain ⟨name', value'⟩ := first
      unfold insertAttribute
      split
      · exact lookup_cons key name value _
      · split
        · next heq =>
            subst heq
            rw [lookup_cons, lookup_cons]
            by_cases hkey : key = name <;> simp [hkey]
        · next hne =>
            rw [lookup_cons, ih, lookup_cons]
            by_cases hkey : key = name
            · rw [if_pos hkey, if_neg (hkey ▸ hne), if_pos hkey]
            · rw [if_neg hkey, if_neg hkey]

/-- Of several attributes of one name the last one counts. -/
theorem attribute?_tag (name key : String) (attributes : List (String × String)) (children : List SvgNode) :
    (tag name attributes children).attribute? key =
      attributes.foldl (fun value p => if key = p.1 then some p.2 else value) none := by
  have hfold : ∀ sorted : List (String × String),
      (attributes.foldl (fun sorted p => insertAttribute p.1 p.2 sorted) sorted).lookup key =
        attributes.foldl (fun value p => if key = p.1 then some p.2 else value) (sorted.lookup key) := by
    induction attributes with
    | nil => exact fun _ => rfl
    | cons p attributes ih =>
        intro sorted
        rw [List.foldl_cons, List.foldl_cons, ih, lookup_insertAttribute]
  exact hfold []

/-- The element is a rectangle with the sides of the bounds. -/
structure IsBox (node : SvgNode) (bounds : Bounds Single) : Prop where
  name : node.name? = some "rect"
  children : node.children = []
  x : node.attribute? "x" = some bounds.minX.text
  y : node.attribute? "y" = some bounds.minY.text
  width : node.attribute? "width" = some bounds.width.text
  height : node.attribute? "height" = some bounds.height.text

/-- The element is a circle around the middle of the bounds that fits into them. -/
structure IsCircle (node : SvgNode) (bounds : Bounds Single) : Prop where
  name : node.name? = some "circle"
  children : node.children = []
  x : node.attribute? "cx" = some (Scalar.half (bounds.minX + bounds.maxX)).text
  y : node.attribute? "cy" = some (Scalar.half (bounds.minY + bounds.maxY)).text
  radius : node.attribute? "r" = some (Scalar.half (min bounds.width bounds.height)).text

/-- The element is a straight line between the points. -/
structure IsLine (node : SvgNode) (start stop : Point Single) : Prop where
  name : node.name? = some "line"
  children : node.children = []
  startX : node.attribute? "x1" = some start.x.text
  startY : node.attribute? "y1" = some start.y.text
  stopX : node.attribute? "x2" = some stop.x.text
  stopY : node.attribute? "y2" = some stop.y.text

/-- The element is a text with its middle in the middle of the bounds. -/
structure IsLabel (node : SvgNode) (label : String) (bounds : Bounds Single) : Prop where
  name : node.name? = some "text"
  x : node.attribute? "x" = some (Scalar.half (bounds.minX + bounds.maxX)).text
  y : node.attribute? "y" = some (Scalar.half (bounds.minY + bounds.maxY)).text
  anchor : node.attribute? "text-anchor" = some "middle"
  baseline : node.attribute? "dominant-baseline" = some "central"
  text : String.join node.texts = label

/-- The element has the shape of the root of a formula: negations and connectives are circles, atoms boxes with round
corners, and quantifiers boxes without. -/
def HasShape (node : SvgNode) (bounds : Bounds Single) : Formula → Prop
  | .atom _ _ => node.IsBox bounds ∧ node.attribute? "rx" = some "6"
  | .negation _ _ => node.IsCircle bounds
  | .binary _ _ _ _ => node.IsCircle bounds
  | .quantified _ _ _ _ => node.IsBox bounds ∧ node.attribute? "rx" = none

/-- The element is the outline of the root of a formula, with dashes exactly for a quantifier that binds nothing. -/
structure Outlines (node : SvgNode) (f : Formula) (bounds : Bounds Single) : Prop where
  shape : node.HasShape bounds f
  dashes : node.attribute? "stroke-dasharray" = if f.BindsNothing then some "4,3" else none

/-- The group of the parts on a layer. -/
def layerGroup (layer : Layer) (parts : List SvgNode) : SvgNode := .element "g" [("data-layer", layer.name)] parts

end SvgNode

/-! ### Groups of layers -/

theorem Layer.group_eq (layer : Layer) (parts : List SvgNode) :
    layer.group parts = SvgNode.layerGroup layer parts := rfl

/-- The parts of a primitive on a layer. -/
def Primitive.parts : Primitive → Layer → List SvgNode
  | .node n, .node => [n.outline]
  | .node n, .text => [n.labelText]
  | .line l, .connector => [l.element]
  | _, _ => []

theorem Primitive.filter_layers (primitive : Primitive) (layer : Layer) :
    primitive.layers.items.toList.filter (·.1 = layer) = (primitive.parts layer).map (layer, ·) := by
  cases primitive <;> cases layer <;> rfl

namespace Diagram

variable (diagram : Diagram)

/-- The parts on a layer. -/
def parts : Layer → List SvgNode
  | .background => [diagram.backgroundElement]
  | .connector => diagram.lines.map Connector.element
  | .node => diagram.nodes.map NodeElement.outline
  | .text => diagram.nodes.map NodeElement.labelText

theorem map_filterMap_eq_parts {β : Type} {select : Primitive → Option β} {part : β → SvgNode} {layer : Layer}
    (h : ∀ primitive : Primitive, ((select primitive).map part).toList = primitive.parts layer) :
    (diagram.primitives.filterMap select).map part = diagram.primitives.flatMap (·.parts layer) := by
  rw [List.map_filterMap, List.filterMap_eq_flatMap_toList]
  simp only [h]

theorem parts_eq (layer : Layer) : diagram.parts layer =
    (if layer = .background then [diagram.backgroundElement] else []) ++
      diagram.primitives.flatMap (·.parts layer) := by
  cases layer with
  | background =>
      have hnone : ∀ primitive ∈ diagram.primitives, primitive.parts .background = [] := by
        intro primitive _
        cases primitive <;> rfl
      rw [List.flatMap_eq_nil_iff.2 hnone]
      rfl
  | connector => exact diagram.map_filterMap_eq_parts fun primitive => by cases primitive <;> rfl
  | node => exact diagram.map_filterMap_eq_parts fun primitive => by cases primitive <;> rfl
  | text => exact diagram.map_filterMap_eq_parts fun primitive => by cases primitive <;> rfl

theorem filter_layers (layer : Layer) :
    diagram.layers.items.toList.filter (·.1 = layer) = (diagram.parts layer).map (layer, ·) := by
  rw [items_layers, parts_eq, List.map_append, List.map_flatMap, List.filter_cons, List.filter_flatMap]
  simp only [Primitive.filter_layers]
  cases layer <;> rfl

/-- The groups of a drawing with nodes. Only that of the lines can be missing. -/
theorem render_layers (hnodes : diagram.nodes ≠ []) : diagram.layers.render =
    SvgNode.layerGroup .background [diagram.backgroundElement] ::
      ((if diagram.lines = [] then [] else [SvgNode.layerGroup .connector (diagram.lines.map Connector.element)]) ++
        [SvgNode.layerGroup .node (diagram.nodes.map NodeElement.outline),
          SvgNode.layerGroup .text (diagram.nodes.map NodeElement.labelText)]) := by
  have hnodesOn : ∀ layer, LayeredOutput.nodesOn layer diagram.layers.items.toList = diagram.parts layer := by
    intro layer
    rw [LayeredOutput.nodesOn, filter_layers, List.map_map]
    exact List.map_id _
  have hall : LayeredOutput.LayersOf diagram.layers.items.toList
      (.background :: ((if diagram.lines = [] then [] else [.connector]) ++ [.node, .text])) := by
    refine ⟨?_, fun layer => ?_⟩
    · split <;> decide
    · rw [← not_iff_not, ← LayeredOutput.nodesOn_eq_nil_iff, hnodesOn]
      by_cases hlines : diagram.lines = [] <;> cases layer <;> simp [parts, hlines, hnodes]
  rw [LayeredOutput.render_eq hall]
  simp only [hnodesOn, Layer.group_eq]
  by_cases hlines : diagram.lines = [] <;> simp [hlines, parts]

end Diagram

/-! ### Elements of a drawing -/

open SvgNode

theorem Diagram.isBox_background (diagram : Diagram) : diagram.backgroundElement.IsBox diagram.bounds := by
  constructor <;> simp [backgroundElement, attribute?_tag]

/-- A stroke sets no attribute of the shape that it is drawn with. -/
@[simp] theorem Stroke.foldl_attributes (stroke : Stroke) {key : String} (value : Option String)
    (h : key ∉ ["stroke", "stroke-opacity", "stroke-width", "stroke-dasharray"]) :
    stroke.attributes.foldl (fun value p => if key = p.1 then some p.2 else value) value = value := by
  simp only [List.mem_cons, List.not_mem_nil, or_false, not_or] at h
  obtain ⟨hcolor, hopacity, hwidth, hdashes⟩ := h
  unfold attributes
  cases stroke.style <;> simp [StrokeStyle.dashes?, hcolor, hopacity, hwidth, hdashes]

theorem Connector.isLine_element (line : Connector) : line.element.IsLine line.start line.stop := by
  constructor <;> simp [element, attribute?_tag]

namespace NodeElement

variable {node : NodeElement}

theorem isLabel_labelText (node : NodeElement) : node.labelText.IsLabel node.label node.bounds := by
  constructor
  case text => simp [texts_labelText]
  all_goals simp [labelText, attribute?_tag, Bounds.center, Bounds.middleX]

theorem isCircle_outline (h : node.shape = .circle) : node.outline.IsCircle node.bounds := by
  constructor <;> simp [outline, h, attribute?_tag, fillAttributes, Bounds.center, Bounds.middleX]

theorem isBox_outline (h : node.shape ≠ .circle) : node.outline.IsBox node.bounds := by
  unfold outline
  cases hshape : node.shape with
  | circle => exact absurd hshape h
  | rectangle => constructor <;> simp [attribute?_tag, fillAttributes]
  | roundedRectangle radius => constructor <;> simp [attribute?_tag, fillAttributes]

/-- Only a rectangle that is to be rounded has round corners. -/
theorem corners_outline (node : NodeElement) : node.outline.attribute? "rx" =
    match node.shape with
    | .roundedRectangle radius => some (Binary.ofNat radius : Single).text
    | _ => none := by
  unfold outline
  cases node.shape <;> simp [attribute?_tag, fillAttributes]

theorem dashes_outline (node : NodeElement) :
    node.outline.attribute? "stroke-dasharray" = node.style.stroke.style.dashes? := by
  unfold outline
  cases node.shape <;> cases hstyle : node.style.stroke.style <;>
    simp [attribute?_tag, fillAttributes, Stroke.attributes, hstyle, StrokeStyle.dashes?]

end NodeElement

/-- The outline of a node is that of the formula that it stands for, if the marks of quantifiers are right. -/
theorem PlacedNode.outlines_element {node : PlacedNode Single} {f : Formula} (hkind : node.kind = .ofFormula f)
    (hvacuous : f.annotation.vacuous ↔ f.BindsNothing) (fontSize : Single) :
    (node.element fontSize).outline.Outlines f node.bounds := by
  have hcorners := (node.element fontSize).corners_outline
  have hdashes := (node.element fontSize).dashes_outline
  have hshape : (node.element fontSize).shape = (NodeKind.ofFormula f).shape := by rw [← hkind]; rfl
  have hstyle : (node.element fontSize).style = (NodeKind.ofFormula f).style := by rw [← hkind]; rfl
  rw [hshape] at hcorners
  rw [hstyle] at hdashes
  cases f with
  | atom facts a =>
      have hradius : (Binary.ofNat 6 : Single).text = "6" := by decide +kernel
      exact ⟨⟨NodeElement.isBox_outline (by rw [hshape]; nofun), hcorners.trans (congrArg some hradius)⟩, hdashes⟩
  | negation facts operand => exact ⟨NodeElement.isCircle_outline hshape, hdashes⟩
  | binary facts connective left right => exact ⟨NodeElement.isCircle_outline hshape, hdashes⟩
  | quantified facts quantifier bound body =>
      refine ⟨⟨NodeElement.isBox_outline (by rw [hshape]; nofun), hcorners⟩, hdashes.trans ?_⟩
      have hmark : (Formula.annotation (.quantified facts quantifier bound body)).vacuous = facts.annotation.vacuous :=
        rfl
      rw [hmark] at hvacuous
      simp only [NodeKind.ofFormula, NodeKind.style, Palette.quantifier, Palette.style, hvacuous]
      split <;> rfl

namespace LayoutTree

/-- The document shows the nodes of a formula and their edges: a background, a line down to each node but the root, an
outline and a label for each node, in pre-order. -/
structure Shows (tree : LayoutTree Single) (f : Formula) (bounds : Bounds Single) (background : SvgNode)
    (lines outlines labels : List SvgNode) : Prop where
  background : background.IsBox bounds
  length_lines : lines.length = f.nodeCount - 1
  length_outlines : outlines.length = f.nodeCount
  length_labels : labels.length = f.nodeCount
  line : ∀ k : Nat, 1 ≤ k → k < f.nodeCount → ∃ (line : SvgNode) (child parent : PlacedNode Single) (position : Nat),
    lines[k - 1]? = some line ∧ tree.nodes[k]? = some child ∧ child.parent = some position ∧
      tree.nodes[position]? = some parent ∧ line.IsLine parent.bottomAnchor child.topAnchor
  node : ∀ (i : Nat) (g : Formula), f.preorder[i]? = some g → ∃ (node : PlacedNode Single) (outline label : SvgNode),
    tree.nodes[i]? = some node ∧ outlines[i]? = some outline ∧ labels[i]? = some label ∧
      outline.Outlines g node.bounds ∧ label.IsLabel g.label node.bounds

theorem map_some_filterMap {β γ : Type} {f : β → Option γ} {xs : List β} (h : ∀ x ∈ xs, (f x).isSome) :
    (xs.filterMap f).map some = xs.map f := by
  rw [List.map_filterMap, ← List.filterMap_eq_map]
  apply List.filterMap_congr
  intro x hx
  obtain ⟨y, hy⟩ := Option.isSome_iff_exists.1 (h x hx)
  simp [hy]

variable {tree : LayoutTree Single} {f : Formula} (hstands : f.StandsAt tree.skeleton 0 none)
  (hsize : tree.nodes.size = f.size)

include hstands hsize

/-- No edge is drawn without a line. -/
theorem map_some_lines (config : Config Single) : (tree.diagram config).lines.map some = tree.edges.map tree.line? := by
  rw [lines_diagram]
  apply map_some_filterMap
  intro e he
  have hparent := (mem_edges tree e).1 he
  have hchild := (hasParent_iff_isChild hstands hsize e.parent e.child).1 hparent
  obtain ⟨parent, child, -, -, hconnector⟩ := connector_of_mem hparent hchild
  simp [line?, hconnector]

/-- The lines go down to the nodes behind the root, one after the other. -/
theorem line_diagram (config : Config Single) {k : Nat} (hlow : 1 ≤ k) (hhigh : k < f.size) :
    ∃ (line : Connector) (child parent : PlacedNode Single) (position : Nat),
      (tree.diagram config).lines[k - 1]? = some line ∧ tree.nodes[k]? = some child ∧ child.parent = some position ∧
        tree.nodes[position]? = some parent ∧ line.start = parent.bottomAnchor ∧ line.stop = child.topAnchor := by
  have hedge := congrArg (·[k - 1]?) (children_edges_eq hstands hsize)
  have hline := congrArg (·[k - 1]?) (map_some_lines hstands hsize config)
  have hk : 1 + (k - 1) = k := by omega
  simp only [List.getElem?_map, List.getElem?_range' (by omega : k - 1 < f.size - 1), Nat.one_mul, hk] at hedge hline
  obtain ⟨e, he, rfl⟩ := Option.map_eq_some_iff.1 hedge
  have hparent := (mem_edges tree e).1 (List.mem_of_getElem? he)
  have hchild := (hasParent_iff_isChild hstands hsize e.parent e.child).1 hparent
  obtain ⟨parent, child, hp, hc, hconnector⟩ := connector_of_mem hparent hchild
  have hlink : child.parent = some e.parent := by
    obtain ⟨child', hc', hlink⟩ := hparent
    rw [hc] at hc'
    cases hc'
    exact hlink
  rw [he, Option.map_some, line?, hconnector, Option.map_some] at hline
  obtain ⟨line, hline, hsome⟩ := Option.map_eq_some_iff.1 hline
  cases hsome
  exact ⟨_, child, parent, e.parent, hline, hc, hlink, hp, rfl, rfl⟩

theorem length_lines (config : Config Single) : (tree.diagram config).lines.length = f.size - 1 := by
  have hchildren := congrArg List.length (children_edges_eq hstands hsize)
  have hlines := congrArg List.length (map_some_lines hstands hsize config)
  simp only [List.length_map, List.length_range'] at hchildren hlines
  rw [hlines, hchildren]

theorem children_document (config : Config Single) : (tree.diagram config).document.children =
    SvgNode.layerGroup .background [(tree.diagram config).backgroundElement] ::
      ((if 1 < f.size then [SvgNode.layerGroup .connector ((tree.diagram config).lines.map Connector.element)]
          else []) ++
        [SvgNode.layerGroup .node ((tree.diagram config).nodes.map NodeElement.outline),
          SvgNode.layerGroup .text ((tree.diagram config).nodes.map NodeElement.labelText)]) := by
  have hpos := f.size_pos
  have hsome : (tree.diagram config).nodes ≠ [] := by
    rw [← List.length_pos_iff, nodes_diagram, List.length_map, Array.length_toList, hsize]
    exact hpos
  have hempty : (tree.diagram config).lines = [] ↔ ¬1 < f.size := by
    rw [← List.length_eq_zero_iff, length_lines hstands hsize]
    omega
  rw [Diagram.document, children_tag, Diagram.render_layers _ hsome]
  simp only [hempty, ite_not]

end LayoutTree

namespace AnnotatedFormula

/-- Where a node occurs in a validated formula its outline and its label are drawn. -/
theorem IsValidated.drawn {a : AnnotatedFormula} (h : a.IsValidated) (config : Config Single) {i : Nat} {g : Formula}
    (hg : a.formula.preorder[i]? = some g) : ∃ node : PlacedNode Single,
      (a.formula.layout config).nodes[i]? = some node ∧
        (node.element config.fontSize).outline.Outlines g node.bounds ∧
          (node.element config.fontSize).labelText.IsLabel g.label node.bounds := by
  have hvacuous := h.vacuous_iff (List.mem_of_getElem? hg)
  rw [← Formula.nodes_occurrencesBelow a.formula [], List.getElem?_map] at hg
  obtain ⟨o, ho, rfl⟩ := Option.map_eq_some_iff.1 hg
  obtain ⟨parent, left, hlaid⟩ := Formula.laidAt_of_occurrence config ho
  have hnode := hlaid.node
  rw [Array.getElem?_toList] at hnode
  exact ⟨_, hnode, PlacedNode.outlines_element rfl hvacuous _, NodeElement.isLabel_labelText _⟩

/-- The document of a validated formula consists of the groups of its background, its lines, if it has several nodes,
its outlines and its labels. -/
theorem groups_document {a : AnnotatedFormula} (h : a.IsValidated) (config : Config Single) :
    ∃ (background : SvgNode) (lines outlines labels : List SvgNode),
      ((a.formula.layout config).diagram config).document.name? = some "svg" ∧
      ((a.formula.layout config).diagram config).document.children =
        SvgNode.layerGroup .background [background] ::
          ((if 1 < a.formula.nodeCount then [SvgNode.layerGroup .connector lines] else []) ++
            [SvgNode.layerGroup .node outlines, SvgNode.layerGroup .text labels]) ∧
      (a.formula.layout config).Shows a.formula ((a.formula.layout config).diagram config).bounds background lines
        outlines labels := by
  have hstands := a.formula.standsAt_layout config
  have hsize := a.formula.size_layout config
  have hnodes := LayoutTree.nodes_diagram (a.formula.layout config) config
  rw [a.formula.nodeCount_eq_size]
  refine ⟨_, _, _, _, rfl, LayoutTree.children_document hstands hsize config, ?_⟩
  constructor
  · exact Diagram.isBox_background _
  · rw [List.length_map, LayoutTree.length_lines hstands hsize, a.formula.nodeCount_eq_size]
  · rw [hnodes, List.length_map, List.length_map, Array.length_toList, hsize, a.formula.nodeCount_eq_size]
  · rw [hnodes, List.length_map, List.length_map, Array.length_toList, hsize, a.formula.nodeCount_eq_size]
  · intro k hlow hhigh
    rw [a.formula.nodeCount_eq_size] at hhigh
    obtain ⟨line, child, parent, position, hline, hchild, hlink, hparent, hstart, hstop⟩ :=
      LayoutTree.line_diagram hstands hsize config hlow hhigh
    have helement := line.isLine_element
    rw [hstart, hstop] at helement
    exact ⟨line.element, child, parent, position, by simp [hline], hchild, hlink, hparent, helement⟩
  · intro i g hg
    obtain ⟨node, hnode, houtline, hlabel⟩ := h.drawn config hg
    exact ⟨node, _, _, hnode, by simp [hnodes, hnode], by simp [hnodes, hnode], houtline, hlabel⟩

/-- The document of `∃x. p ∧ ¬q` has lines from the quantifier, which binds nothing, to the conjunction, from that to
both of its operands, and from the negation to its atom. -/
theorem groups_document_of_quantified : ∃ a, parse "∃x. p ∧ ¬q" = .ok a ∧ a.IsValidated ∧
    (a.formula.layout (default : Config Single)).edges = [⟨0, 1⟩, ⟨1, 2⟩, ⟨1, 3⟩, ⟨3, 4⟩] ∧
    a.formula.preorder.map (decide ·.BindsNothing) = [true, false, false, false, false] ∧
    ∃ (background : SvgNode) (lines outlines labels : List SvgNode),
      ((a.formula.layout default).diagram default).document.name? = some "svg" ∧
      ((a.formula.layout default).diagram default).document.children =
        [SvgNode.layerGroup .background [background], SvgNode.layerGroup .connector lines,
          SvgNode.layerGroup .node outlines, SvgNode.layerGroup .text labels] ∧
      (a.formula.layout default).Shows a.formula ((a.formula.layout default).diagram default).bounds background lines
        outlines labels := by
  have hnodes : (parse "∃x. p ∧ ¬q").toOption.map (fun a => (a.formula.nodeCount,
      (a.formula.layout (default : Config Single)).edges, a.formula.preorder.map (decide ·.BindsNothing))) =
        some (5, [⟨0, 1⟩, ⟨1, 2⟩, ⟨1, 3⟩, ⟨3, 4⟩], [true, false, false, false, false]) := by
    decide +kernel
  obtain ⟨a, ha, hvalid, hnodes⟩ := exists_parse_of_map hnodes
  obtain ⟨hcount, hnodes⟩ := Prod.mk.inj hnodes
  obtain ⟨hedges, hbinds⟩ := Prod.mk.inj hnodes
  obtain ⟨background, lines, outlines, labels, hname, hchildren, hshows⟩ := groups_document hvalid default
  rw [hcount, if_pos (by decide : 1 < 5)] at hchildren
  exact ⟨a, ha, hvalid, hedges, hbinds, background, lines, outlines, labels, hname, hchildren, hshows⟩

end AnnotatedFormula

end FormulaDiagram
