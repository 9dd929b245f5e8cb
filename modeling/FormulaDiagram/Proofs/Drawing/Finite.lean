import FormulaDiagram.Proofs.Drawing.Faithful
import FormulaDiagram.Proofs.Layout.Apart

/-!
Drawings without numbers that are none. Where all nodes are moderate, so are the connectors between them, and the
rectangle around everything grows by the margin alone. It begins in front of every outline and ends behind, so its
width and height are not rounded to zero. The text of a finite number has neither of the letters that `NaN` and `inf`
are told by, and no other value in a document has them.
-/

namespace FormulaDiagram

open Binary (Within)

/-! ### Rectangles -/

namespace Bounds

variable {e : Nat} {b c d : Bounds Single}

/-- The rectangle reaches at least as far as another one on every side. -/
structure Covers (b c : Bounds Single) : Prop where
  minX : b.minX.value ≤ c.minX.value
  minY : b.minY.value ≤ c.minY.value
  maxX : c.maxX.value ≤ b.maxX.value
  maxY : c.maxY.value ≤ b.maxY.value

theorem Covers.refl (b : Bounds Single) : b.Covers b := ⟨le_rfl, le_rfl, le_rfl, le_rfl⟩

theorem Covers.trans (h : b.Covers c) (h' : c.Covers d) : b.Covers d :=
  ⟨h.minX.trans h'.minX, h.minY.trans h'.minY, h'.maxX.trans h.maxX, h'.maxY.trans h.maxY⟩

namespace Within

theorem merge (hb : b.Within e) (hc : c.Within e) : (b.merge c).Within e :=
  ⟨hb.minX.min hc.minX, hb.minY.min hc.minY, hb.maxX.max hc.maxX, hb.maxY.max hc.maxY⟩

theorem merge_covers_left (hb : b.Within e) (hc : c.Within e) : (b.merge c).Covers b where
  minX := Binary.min_le_left hb.minX.finite hc.minX.finite
  minY := Binary.min_le_left hb.minY.finite hc.minY.finite
  maxX := Binary.le_max_left hb.maxX.finite hc.maxX.finite
  maxY := Binary.le_max_left hb.maxY.finite hc.maxY.finite

theorem merge_covers_right (hb : b.Within e) (hc : c.Within e) : (b.merge c).Covers c where
  minX := Binary.min_le_right hb.minX.finite hc.minX.finite
  minY := Binary.min_le_right hb.minY.finite hc.minY.finite
  maxX := Binary.le_max_right hb.maxX.finite hc.maxX.finite
  maxY := Binary.le_max_right hb.maxY.finite hc.maxY.finite

theorem foldl_merge {bs : List (Bounds Single)} (hb : b.Within e) (hbs : ∀ c ∈ bs, c.Within e) :
    (bs.foldl Bounds.merge b).Within e ∧ ∀ c ∈ b :: bs, (bs.foldl Bounds.merge b).Covers c := by
  induction bs generalizing b with
  | nil => exact ⟨hb, List.forall_mem_singleton.2 (.refl b)⟩
  | cons c bs ih =>
      obtain ⟨hc, hbs⟩ := List.forall_mem_cons.1 hbs
      obtain ⟨hwithin, hcovers⟩ := ih (hb.merge hc) hbs
      obtain ⟨hmerged, hrest⟩ := List.forall_mem_cons.1 hcovers
      refine ⟨hwithin, List.forall_mem_cons.2 ⟨hmerged.trans (hb.merge_covers_left hc), ?_⟩⟩
      exact List.forall_mem_cons.2 ⟨hmerged.trans (hb.merge_covers_right hc), hrest⟩

/-- The smallest rectangle around others is as moderate as they are, and covers them. -/
theorem hull {bs : List (Bounds Single)} (hne : bs ≠ []) (hbs : ∀ b ∈ bs, b.Within e) :
    (Bounds.hull bs).Within e ∧ ∀ b ∈ bs, (Bounds.hull bs).Covers b := by
  cases bs with
  | nil => exact absurd rfl hne
  | cons b bs =>
      obtain ⟨hb, hbs⟩ := List.forall_mem_cons.1 hbs
      exact foldl_merge hb hbs

theorem pad (hb : b.Within e) {margin : Single} (hmargin : Binary.Within e margin) (he : e < 127)
    (hnonneg : 0 ≤ margin.value) :
    (b.pad (Insets.uniform margin)).Within (e + 1) ∧ (b.pad (Insets.uniform margin)).Covers b where
  left := ⟨hb.minX.sub hmargin he, hb.minY.sub hmargin he, hb.maxX.add hmargin he, hb.maxY.add hmargin he⟩
  right :=
    { minX := hb.minX.sub_le hmargin he hnonneg
      minY := hb.minY.sub_le hmargin he hnonneg
      maxX := hb.maxX.le_add hmargin he hnonneg
      maxY := hb.maxY.le_add hmargin he hnonneg }

theorem width (hb : b.Within e) (he : e < 127) : Binary.Within (e + 1) b.width := hb.maxX.sub hb.minX he

theorem height (hb : b.Within e) (he : e < 127) : Binary.Within (e + 1) b.height := hb.maxY.sub hb.minY he

theorem middleX (hb : b.Within e) (he : e < 127) : Binary.Within e b.middleX := (hb.minX.add hb.maxX he).half he.le

theorem middleY (hb : b.Within e) (he : e < 127) : Binary.Within e b.center.y := (hb.minY.add hb.maxY he).half he.le

theorem ofPoints {p q : Point Single} (hpx : Binary.Within e p.x) (hpy : Binary.Within e p.y)
    (hqx : Binary.Within e q.x) (hqy : Binary.Within e q.y) : (Bounds.ofPoints p q).Within e :=
  ⟨hpx.min hqx, hpy.min hqy, hpx.max hqx, hpy.max hqy⟩

end Within

end Bounds

/-! ### Primitives -/

namespace LayoutTree

variable {tree : LayoutTree Single} {config : Config Single}

/-- All nodes of the layout are moderate. -/
def Moderate (tree : LayoutTree Single) : Prop := ∀ node ∈ tree.nodes.toList, node.Moderate

/-- A line is drawn between two nodes of the layout. -/
theorem exists_of_mem_lines {line : Connector} (h : line ∈ (tree.diagram config).lines) :
    ∃ parent ∈ tree.nodes.toList, ∃ child ∈ tree.nodes.toList,
      line = ⟨parent.bottomAnchor, child.topAnchor, Palette.connector⟩ := by
  rw [lines_diagram] at h
  obtain ⟨edge, -, hline⟩ := List.mem_filterMap.1 h
  obtain ⟨⟨start, stop⟩, hconnector, rfl⟩ := Option.map_eq_some_iff.1 hline
  obtain ⟨parent, hparent, hconnector⟩ := Option.bind_eq_some_iff.1 hconnector
  obtain ⟨child, hchild, hconnector⟩ := Option.bind_eq_some_iff.1 hconnector
  cases hconnector
  exact ⟨parent, Array.mem_toList_iff.2 (Array.mem_of_getElem? hparent), child,
    Array.mem_toList_iff.2 (Array.mem_of_getElem? hchild), rfl⟩

theorem Moderate.line_within (h : tree.Moderate) {line : Connector} (hline : line ∈ (tree.diagram config).lines) :
    Within 125 line.start.x ∧ Within 125 line.start.y ∧ Within 125 line.stop.x ∧ Within 125 line.stop.y := by
  obtain ⟨parent, hparent, child, hchild, rfl⟩ := exists_of_mem_lines hline
  have hparent := (h parent hparent).bounds
  have hchild := (h child hchild).bounds
  exact ⟨hparent.middleX (by decide), hparent.maxY, hchild.middleX (by decide), hchild.minY⟩

theorem Moderate.primitive_within (h : tree.Moderate) {primitive : Primitive}
    (hmem : primitive ∈ (tree.diagram config).primitives) : primitive.bounds.Within 125 := by
  cases primitive with
  | node n =>
      have hnode : n ∈ (tree.diagram config).nodes := List.mem_filterMap.2 ⟨_, hmem, rfl⟩
      rw [nodes_diagram] at hnode
      obtain ⟨node, hplaced, rfl⟩ := List.mem_map.1 hnode
      exact (h node hplaced).bounds
  | line l =>
      obtain ⟨hsx, hsy, htx, hty⟩ := h.line_within (List.mem_filterMap.2 ⟨_, hmem, rfl⟩)
      exact Bounds.Within.ofPoints hsx hsy htx hty

/-- The rectangle around the drawing is finite and reaches beyond all outlines. -/
theorem Moderate.bounds_diagram (h : tree.Moderate) (hne : tree.nodes.toList ≠ [])
    (hmargin : Within 125 config.margin) (hnonneg : 0 ≤ config.margin.value) :
    (tree.diagram config).bounds.Within 126 ∧
      ∀ node ∈ tree.nodes.toList, (tree.diagram config).bounds.Covers node.bounds := by
  have hbounds : (tree.diagram config).bounds =
      (Bounds.hull ((tree.diagram config).primitives.map Primitive.bounds)).pad (Insets.uniform config.margin) := rfl
  have hnodes : ∀ node ∈ tree.nodes.toList, node.bounds ∈ (tree.diagram config).primitives.map Primitive.bounds := by
    intro node hnode
    refine List.mem_map.2 ⟨.node (node.element config.fontSize), ?_, rfl⟩
    exact List.mem_append_left _ (List.mem_map_of_mem hnode)
  have hsome : (tree.diagram config).primitives.map Primitive.bounds ≠ [] := by
    obtain ⟨node, hnode⟩ := List.exists_mem_of_ne_nil _ hne
    exact List.ne_nil_of_mem (hnodes node hnode)
  have hprimitives : ∀ b ∈ (tree.diagram config).primitives.map Primitive.bounds, b.Within 125 :=
    List.forall_mem_map.2 fun primitive hmem => h.primitive_within hmem
  obtain ⟨hwithin, hcovers⟩ := Bounds.Within.hull hsome hprimitives
  obtain ⟨hpadded, houter⟩ := hwithin.pad hmargin (by decide) hnonneg
  rw [hbounds]
  exact ⟨hpadded, fun node hnode => houter.trans (hcovers _ (hnodes node hnode))⟩

end LayoutTree

/-! ### What is printed -/

/-- Neither of the letters by which `NaN` and `inf` differ from all else that is printed is in the text. -/
def Text.isDefinite (s : String) : Bool := s.toList.all fun c => c != 'N' && c != 'f'

namespace Text

theorem isDefinite_iff (s : String) : isDefinite s = true ↔ ∀ c ∈ s.toList, c ≠ 'N' ∧ c ≠ 'f' := by
  simp [isDefinite]

theorem isDefinite_append (s t : String) : isDefinite (s ++ t) = (isDefinite s && isDefinite t) := by
  simp [isDefinite]

theorem not_infix_of_isDefinite {s : String} (h : isDefinite s) :
    ¬"NaN".toList <:+: s.toList ∧ ¬"inf".toList <:+: s.toList := by
  rw [isDefinite_iff] at h
  constructor
  · intro hinside
    exact (h 'N' (hinside.subset (by decide))).1 rfl
  · intro hinside
    exact (h 'f' (hinside.subset (by decide))).2 rfl

end Text

theorem Binary.isDefinite_text {format : BinaryFormat} {x : Binary format} (hx : x.isFinite) :
    Text.isDefinite x.text := by
  rw [Text.isDefinite_iff]
  intro c hc
  constructor
  · rintro rfl
    rcases mem_text hx hc with h | h | h <;> revert h <;> decide
  · rintro rfl
    rcases mem_text hx hc with h | h | h <;> revert h <;> decide

namespace SvgNode

mutual

/-- The values of all attributes in a node. -/
def values : SvgNode → List String
  | .text _ => []
  | .element _ attributes children => attributes.map (·.2) ++ valuesAll children

def valuesAll : List SvgNode → List String
  | [] => []
  | node :: nodes => values node ++ valuesAll nodes

end

theorem valuesAll_eq (nodes : List SvgNode) : valuesAll nodes = nodes.flatMap values := by
  induction nodes with
  | nil => rfl
  | cons node nodes ih => rw [valuesAll, ih, List.flatMap_cons]

/-- All values are definite if those of the attributes and of the children are. -/
theorem isDefinite_tag {name : String} {attributes : List (String × String)} {children : List SvgNode}
    (hattributes : ∀ p ∈ attributes, Text.isDefinite p.2)
    (hchildren : ∀ node ∈ children, ∀ v ∈ node.values, Text.isDefinite v) :
    ∀ v ∈ (tag name attributes children).values, Text.isDefinite v := by
  intro v hv
  rw [tag, values, valuesAll_eq] at hv
  rcases List.mem_append.1 hv with hv | hv
  · obtain ⟨p, hp, rfl⟩ := List.mem_map.1 hv
    rcases mem_sorted hp with hp | hp
    · exact hattributes p hp
    · cases hp
  · obtain ⟨node, hnode, hv⟩ := List.mem_flatMap.1 hv
    exact hchildren node hnode v hv

theorem mem_values_tag {name : String} {attributes : List (String × String)} {children : List SvgNode} {node : SvgNode}
    (hnode : node ∈ children) {v : String} (hv : v ∈ node.values) : v ∈ (tag name attributes children).values := by
  rw [tag, values, valuesAll_eq]
  exact List.mem_append_right _ (List.mem_flatMap.2 ⟨node, hnode, hv⟩)

end SvgNode

namespace LayeredOutput

/-- What is in the output comes out. -/
theorem exists_render_of_mem {output : LayeredOutput} {part : Layer × SvgNode} (h : part ∈ output.items.toList)
    {v : String} (hv : v ∈ part.2.values) : ∃ node ∈ output.render, v ∈ node.values := by
  obtain ⟨layers, hlayers, hrender⟩ := output.exists_layers
  rw [hrender]
  refine ⟨_, List.mem_map_of_mem ((hlayers.mem_iff part.1).2 ⟨part.2, h⟩), ?_⟩
  exact SvgNode.mem_values_tag (List.mem_map_of_mem (List.mem_filter.2 ⟨h, decide_eq_true rfl⟩)) hv

theorem isDefinite_render {output : LayeredOutput}
    (h : ∀ part ∈ output.items.toList, ∀ v ∈ part.2.values, Text.isDefinite v) :
    ∀ node ∈ output.render, ∀ v ∈ node.values, Text.isDefinite v := by
  intro node hnode
  obtain ⟨layer, rfl⟩ := exists_of_mem_render hnode
  refine SvgNode.isDefinite_tag ?_ (forall_mem_nodesOn h)
  cases layer <;> decide

end LayeredOutput

/-! ### Values of the drawing -/

/-- All that a style writes into a document. -/
def NodeStyle.values (style : NodeStyle) : List String :=
  [style.fill.text, style.fill.alpha.text, style.textColor.text] ++ style.stroke.attributes.map (·.2)

theorem NodeKind.isDefinite_style (kind : NodeKind) : ∀ v ∈ kind.style.values, Text.isDefinite v := by
  have hatom : Palette.atom.values.all Text.isDefinite := by decide +kernel
  have hoperator : Palette.operator.values.all Text.isDefinite := by decide +kernel
  have hquantifier : ∀ vacuous, (Palette.quantifier vacuous).values.all Text.isDefinite := by decide +kernel
  cases kind with
  | atom => exact List.all_eq_true.1 hatom
  | negation => exact List.all_eq_true.1 hoperator
  | connective => exact List.all_eq_true.1 hoperator
  | quantifier _ vacuous => exact List.all_eq_true.1 (hquantifier vacuous)

theorem Palette.isDefinite_connector : ∀ p ∈ Palette.connector.attributes, Text.isDefinite p.2 := by
  have hall : Palette.connector.attributes.all fun p => Text.isDefinite p.2 := by decide +kernel
  exact List.all_eq_true.1 hall

namespace PlacedNode.Moderate

variable {node : PlacedNode Single} {fontSize : Single}

theorem isDefinite_paint (node : PlacedNode Single) (fontSize : Single) :
    ∀ p ∈ (node.element fontSize).fillAttributes ++ node.kind.style.stroke.attributes, Text.isDefinite p.2 := by
  have hstyle := node.kind.isDefinite_style
  refine List.forall_mem_append.2 ⟨?_, ?_⟩
  · have hfill := hstyle _ List.mem_cons_self
    have halpha := hstyle _ (List.mem_cons_of_mem _ List.mem_cons_self)
    exact List.forall_mem_cons.2 ⟨hfill, List.forall_mem_singleton.2 halpha⟩
  · intro p hp
    exact hstyle _ (List.mem_append_right _ (List.mem_map_of_mem hp))

theorem isDefinite_box (h : node.Moderate) :
    ∀ p ∈ [("x", node.bounds.minX.text), ("y", node.bounds.minY.text), ("width", node.bounds.width.text),
      ("height", node.bounds.height.text)], Text.isDefinite p.2 := by
  have hwidth := Binary.isDefinite_text (h.bounds.width (by decide)).finite
  have hheight := Binary.isDefinite_text (h.bounds.height (by decide)).finite
  simp [Binary.isDefinite_text h.bounds.minX.finite, Binary.isDefinite_text h.bounds.minY.finite, hwidth, hheight]

theorem isDefinite_outline (h : node.Moderate) (fontSize : Single) :
    ∀ v ∈ (node.element fontSize).outline.values, Text.isDefinite v := by
  have hpaint := isDefinite_paint node fontSize
  have hbox := h.isDefinite_box
  have hshape : ∀ radius, node.kind.shape = .roundedRectangle radius → radius = 6 := by
    cases node.kind <;> simp [NodeKind.shape]
  show ∀ v ∈ (NodeElement.outline ⟨node.kind.shape, node.bounds, node.label, fontSize, node.kind.style⟩).values, _
  unfold NodeElement.outline
  dsimp only
  cases hkind : node.kind.shape with
  | circle =>
      have hradius : Within 126 (Scalar.half (min node.bounds.width node.bounds.height)) :=
        (((h.bounds.width (by decide)).min (h.bounds.height (by decide))).mono (Nat.le_succ 126)).half (by decide)
      refine SvgNode.isDefinite_tag (List.forall_mem_append.2 ⟨?_, hpaint⟩) nofun
      have hx := Binary.isDefinite_text (h.bounds.middleX (by decide)).finite
      have hy := Binary.isDefinite_text (h.bounds.middleY (by decide)).finite
      exact List.forall_mem_cons.2 ⟨hx, List.forall_mem_cons.2 ⟨hy,
        List.forall_mem_singleton.2 (Binary.isDefinite_text hradius.finite)⟩⟩
  | rectangle => exact SvgNode.isDefinite_tag (List.forall_mem_append.2 ⟨hbox, hpaint⟩) nofun
  | roundedRectangle radius =>
      refine SvgNode.isDefinite_tag (List.forall_mem_append.2 ⟨hbox, List.forall_mem_cons.2 ⟨?_, hpaint⟩⟩) nofun
      rw [hshape radius hkind]
      decide +kernel

theorem isDefinite_labelText (h : node.Moderate) (hfont : fontSize.isFinite) :
    ∀ v ∈ (node.element fontSize).labelText.values, Text.isDefinite v := by
  have hx := Binary.isDefinite_text (h.bounds.middleX (by decide)).finite
  have hy := Binary.isDefinite_text (h.bounds.middleY (by decide)).finite
  have htext := node.kind.isDefinite_style _ (by simp [NodeStyle.values] : node.kind.style.textColor.text ∈ _)
  refine SvgNode.isDefinite_tag ?_ ?_
  · simp only [List.forall_mem_cons]
    exact ⟨hx, hy, by decide, by decide, by decide, Binary.isDefinite_text hfont, htext, nofun⟩
  · exact List.forall_mem_cons.2 ⟨nofun, List.forall_mem_singleton.2 nofun⟩

end PlacedNode.Moderate

namespace LayoutTree

variable {tree : LayoutTree Single} {config : Config Single}

theorem Moderate.isDefinite_line (h : tree.Moderate) {line : Connector} (hline : line ∈ (tree.diagram config).lines) :
    ∀ v ∈ line.element.values, Text.isDefinite v := by
  obtain ⟨hsx, hsy, htx, hty⟩ := h.line_within hline
  obtain ⟨parent, -, child, -, rfl⟩ := exists_of_mem_lines hline
  refine SvgNode.isDefinite_tag (List.forall_mem_append.2 ⟨?_, Palette.isDefinite_connector⟩) nofun
  simp only [List.forall_mem_cons]
  exact ⟨Binary.isDefinite_text hsx.finite, Binary.isDefinite_text hsy.finite, Binary.isDefinite_text htx.finite,
    Binary.isDefinite_text hty.finite, nofun⟩

/-- No value of the document is the text of anything but a finite number. -/
theorem Moderate.isDefinite_document (h : tree.Moderate) (hbounds : (tree.diagram config).bounds.Within 126)
    (hfont : config.fontSize.isFinite) : ∀ v ∈ (tree.diagram config).document.values, Text.isDefinite v := by
  have hx := Binary.isDefinite_text hbounds.minX.finite
  have hy := Binary.isDefinite_text hbounds.minY.finite
  have hwidth := Binary.isDefinite_text (hbounds.width (by decide)).finite
  have hheight := Binary.isDefinite_text (hbounds.height (by decide)).finite
  have hblank : Text.isDefinite " " := by decide
  have hbackground : Text.isDefinite Palette.background.text := by decide
  have hview : Text.isDefinite ((tree.diagram config).bounds.minX.text ++ " " ++
      (tree.diagram config).bounds.minY.text ++ " " ++ (tree.diagram config).bounds.width.text ++ " " ++
      (tree.diagram config).bounds.height.text) := by
    simp only [Text.isDefinite_append, hx, hy, hwidth, hheight, hblank, Bool.and_self]
  refine SvgNode.isDefinite_tag ?_ (LayeredOutput.isDefinite_render ?_)
  · simp only [List.forall_mem_cons]
    exact ⟨by decide, hview, hwidth, hheight, nofun⟩
  · intro part hpart
    rcases Diagram.mem_layers hpart with rfl | ⟨n, hn, hparts⟩ | ⟨l, hl, rfl⟩
    · refine SvgNode.isDefinite_tag ?_ nofun
      simp only [List.forall_mem_cons]
      exact ⟨hx, hy, hwidth, hheight, hbackground, nofun⟩
    · rw [nodes_diagram] at hn
      obtain ⟨node, hnode, rfl⟩ := List.mem_map.1 hn
      rcases hparts with rfl | rfl
      · exact (h node hnode).isDefinite_outline config.fontSize
      · exact (h node hnode).isDefinite_labelText hfont
    · exact h.isDefinite_line hl

end LayoutTree

/-! ### The whole way -/

/-- All that is known of the place of a node is finite. -/
structure PlacedNode.IsFinite (node : PlacedNode Single) : Prop where
  left : node.left.isFinite
  extent : node.extent.isFinite
  x : node.center.x.isFinite
  y : node.center.y.isFinite
  width : node.size.width.isFinite
  height : node.size.height.isFinite

theorem PlacedNode.Moderate.isFinite {node : PlacedNode Single} (h : node.Moderate) : node.IsFinite :=
  ⟨h.left.finite, h.extent.finite, h.x.finite, h.y.finite, h.width.finite, h.height.finite⟩

/-- The layout has no infinite number and none that is no number. -/
def LayoutTree.IsFinite (tree : LayoutTree Single) : Prop :=
  tree.unit.isFinite ∧ ∀ node ∈ tree.nodes.toList, node.IsFinite

structure Bounds.IsFinite (b : Bounds Single) : Prop where
  minX : b.minX.isFinite
  minY : b.minY.isFinite
  maxX : b.maxX.isFinite
  maxY : b.maxY.isFinite

theorem Bounds.Within.isFinite {b : Bounds Single} {e : Nat} (h : b.Within e) : b.IsFinite :=
  ⟨h.minX.finite, h.minY.finite, h.maxX.finite, h.maxY.finite⟩

theorem Bounds.Within.pos_of_lt {b : Bounds Single} (h : b.Within 126) :
    (b.minX.value < b.maxX.value → Scalar.zero < b.width) ∧ (b.minY.value < b.maxY.value → Scalar.zero < b.height) := by
  obtain ⟨hzero, hvalue⟩ := Binary.scalar_zero
  constructor
  · intro hlt
    refine (Binary.lt_iff hzero (h.width (by decide)).finite).2 ?_
    rw [hvalue]
    exact h.maxX.sub_pos h.minX (by decide) hlt
  · intro hlt
    refine (Binary.lt_iff hzero (h.height (by decide)).finite).2 ?_
    rw [hvalue]
    exact h.maxY.sub_pos h.minY (by decide) hlt

/-- A formula that fits in the measures is laid out and drawn in finite numbers, in a rectangle with a width and a
height, and no attribute of its document is infinite or no number. -/
theorem render_finite {source : String} {config : Config Single} {a : AnnotatedFormula}
    (hconfig : config.validate = .ok ()) (hparse : parse source = .ok a) (hfits : a.formula.FitsIn config) :
    (a.formula.layout config).IsFinite ∧
      ((a.formula.layout config).diagram config).bounds.IsFinite ∧
      Scalar.zero < ((a.formula.layout config).diagram config).bounds.width ∧
      Scalar.zero < ((a.formula.layout config).diagram config).bounds.height ∧
      render source config = .ok ((a.formula.layout config).diagram config).document.render ∧
      ∀ v ∈ ((a.formula.layout config).diagram config).document.values,
        ¬"NaN".toList <:+: v.toList ∧ ¬"inf".toList <:+: v.toList := by
  have hmeasured := (isValidated_of_parse hparse).measured
  have hmoderate : (a.formula.layout config).Moderate := fun node hnode => hfits.moderate hconfig hmeasured hnode
  have hmargin := Config.tracks_get hconfig .margin
  obtain ⟨l, hl, r, hr, hwide⟩ := hfits.exists_minX_lt_maxX hconfig hmeasured
  obtain ⟨t, ht, b, hb, hhigh⟩ := hfits.exists_minY_lt_maxY hconfig hmeasured
  obtain ⟨hbounds, hcovers⟩ := hmoderate.bounds_diagram (List.ne_nil_of_mem hl)
    (hmargin.within (hfits.margin_le hconfig) (by decide)) hmargin.nonneg
  have hunit : Binary.isFinite (a.formula.layout config).unit = true := by
    rw [a.formula.layout_unit config]
    exact (hfits.tracks_measures hconfig).unit.finite
  refine ⟨⟨hunit, fun node hnode => (hmoderate node hnode).isFinite⟩,
    hbounds.isFinite, ?_, ?_, ?_, ?_⟩
  · exact hbounds.pos_of_lt.1 (((hcovers l hl).minX.trans_lt hwide).trans_le (hcovers r hr).maxX)
  · exact hbounds.pos_of_lt.2 (((hcovers t ht).minY.trans_lt hhigh).trans_le (hcovers b hb).maxY)
  · exact render_eq_ok_iff.2 ⟨a, hparse, hconfig, rfl⟩
  · intro v hv
    exact Text.not_infix_of_isDefinite
      (hmoderate.isDefinite_document hbounds (Config.tracks_get hconfig .fontSize).finite v hv)

theorem render_finite_of_conjunction : ∃ a, parse "p ∧ q" = .ok a ∧ (default : Config Single).validate = .ok () ∧
    a.formula.FitsIn default ∧ (a.formula.layout default).IsFinite ∧
      ((a.formula.layout default).diagram default).bounds.IsFinite ∧
      Scalar.zero < ((a.formula.layout default).diagram default).bounds.width ∧
      Scalar.zero < ((a.formula.layout default).diagram default).bounds.height ∧
      render "p ∧ q" default = .ok ((a.formula.layout default).diagram default).document.render ∧
      ∀ v ∈ ((a.formula.layout default).diagram default).document.values,
        ¬"NaN".toList <:+: v.toList ∧ ¬"inf".toList <:+: v.toList := by
  have hfits : (parse "p ∧ q").toOption.map (fun a => decide (a.formula.FitsIn default)) = some true := by
    decide +kernel
  have hconfig : (default : Config Single).validate = .ok () := by decide +kernel
  obtain ⟨a, ha, -, hfits⟩ := exists_parse_of_map hfits
  exact ⟨a, ha, hconfig, of_decide_eq_true hfits, render_finite hconfig ha (of_decide_eq_true hfits)⟩

/-- What a label writes is in the document. -/
theorem Diagram.mem_values_document {diagram : Diagram} {n : NodeElement} (hn : n ∈ diagram.nodes) {v : String}
    (hv : v ∈ n.labelText.values) : v ∈ diagram.document.values := by
  have hpart : (Layer.text, n.labelText) ∈ diagram.layers.items.toList := by
    rw [items_layers]
    obtain ⟨primitive, hprimitive, heq⟩ := List.mem_filterMap.1 hn
    cases primitive with
    | node n' =>
        cases heq
        exact List.mem_cons_of_mem _ (List.mem_flatMap.2 ⟨_, hprimitive, List.mem_cons_of_mem _ List.mem_cons_self⟩)
    | line => cases heq
  obtain ⟨node, hnode, hv⟩ := LayeredOutput.exists_render_of_mem hpart hv
  exact SvgNode.mem_values_tag hnode hv

/-- The default measures but for one. -/
def Config.defaultBut (field : ConfigField) (n : Nat) : Config Single :=
  (default : Config Single).set field (Binary.ofNat n)

/-- Measures are checked one by one. With rows far apart the place of a low outline is finite but its middle is not;
two wide columns are infinite together; and at the middle of a column not so wide, half of the outline's width is
rounded away. -/
theorem render_not_finite :
    (∃ a, parse "¬p" = .ok a ∧ (Config.defaultBut .rowHeight (2 * 10 ^ 38)).validate = .ok () ∧
      "inf" ∈ ((a.formula.layout (Config.defaultBut .rowHeight (2 * 10 ^ 38))).diagram
        (Config.defaultBut .rowHeight (2 * 10 ^ 38))).document.values) ∧
    (∃ a, parse "p ∧ q" = .ok a ∧ (Config.defaultBut .unitWidth (3 * 10 ^ 38)).validate = .ok () ∧
      ¬(a.formula.layout (Config.defaultBut .unitWidth (3 * 10 ^ 38))).IsFinite) ∧
    ∃ a, parse "p" = .ok a ∧ (Config.defaultBut .unitWidth (10 ^ 10)).validate = .ok () ∧
      ¬Scalar.zero < ((a.formula.layout (Config.defaultBut .unitWidth (10 ^ 10))).diagram
        (Config.defaultBut .unitWidth (10 ^ 10))).bounds.width := by
  refine ⟨?_, ?_, ?_⟩
  · have hlabels : (parse "¬p").toOption.map (fun a =>
        ((a.formula.layout (Config.defaultBut .rowHeight (2 * 10 ^ 38))).diagram
          (Config.defaultBut .rowHeight (2 * 10 ^ 38))).nodes.any (·.labelText.values.contains "inf")) = some true := by
      decide +kernel
    obtain ⟨a, ha, -, hlabels⟩ := exists_parse_of_map hlabels
    obtain ⟨n, hn, hvalue⟩ := List.any_eq_true.1 hlabels
    exact ⟨a, ha, by decide +kernel, Diagram.mem_values_document hn (List.contains_iff_mem.1 hvalue)⟩
  · have hextents : (parse "p ∧ q").toOption.map (fun a =>
        (a.formula.layout (Config.defaultBut .unitWidth (3 * 10 ^ 38))).nodes.toList.all (·.extent.isFinite)) =
          some false := by
      decide +kernel
    obtain ⟨a, ha, -, hextents⟩ := exists_parse_of_map hextents
    refine ⟨a, ha, by decide +kernel, fun hfinite => ?_⟩
    rw [List.all_eq_true.2 fun node hnode => (hfinite.2 node hnode).extent] at hextents
    cases hextents
  · have hwidth : (parse "p").toOption.map (fun a => decide (Scalar.zero <
        ((a.formula.layout (Config.defaultBut .unitWidth (10 ^ 10))).diagram
          (Config.defaultBut .unitWidth (10 ^ 10))).bounds.width)) = some false := by
      decide +kernel
    obtain ⟨a, ha, -, hwidth⟩ := exists_parse_of_map hwidth
    exact ⟨a, ha, by decide +kernel, of_decide_eq_false hwidth⟩

end FormulaDiagram
