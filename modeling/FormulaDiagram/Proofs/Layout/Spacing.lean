import FormulaDiagram.Proofs.Layout.Exact
import FormulaDiagram.Proofs.Layout.Placement

/-!
Why nothing in a layout comes too close to anything else. The span of a formula is as many units wide as it has atoms,
so the spans of the operands fill that of the formula. All nodes of a formula stay in its span, so those of a left
operand lie on the left of those of the right one, and nodes of one row have spans side by side. An outline leaves half
of the gap free on either side of its span, and rows lie apart by the height of the tallest outline and the gap.
-/

namespace FormulaDiagram

namespace Formula

variable {f g : Formula} {depth : Nat} {config : Config Rat} {m : Layout.Measures Rat} {unit left left' : Rat}
  {position child : Nat} {parent : Option Nat} {node : PlacedNode Rat}

theorem Measured.child_within (h : f.Measured depth) (hunit : 0 < unit)
    (hg : (g, child, left') ∈ f.laidChildren unit position left) :
    left ≤ left' ∧ left' + g.units * unit ≤ left + f.units * unit := by
  cases f with
  | atom => cases hg
  | negation facts operand =>
      cases List.mem_singleton.1 hg
      rw [h.units_child rfl rfl]
      exact ⟨le_rfl, le_rfl⟩
  | binary facts connective leftOperand right =>
      have hunits : ((binary facts connective leftOperand right).units : Rat) * unit =
          leftOperand.units * unit + right.units * unit := by
        rw [h.units_operands rfl rfl, Nat.cast_add, add_mul]
      have hl : 0 ≤ (leftOperand.units : Rat) * unit := by positivity
      have hr : 0 ≤ (right.units : Rat) * unit := by positivity
      rw [hunits]
      rcases List.mem_pair.1 hg with hg | hg
      · cases hg
        constructor <;> linarith
      · obtain ⟨rfl, -, hleft⟩ : right = g ∧ position + 1 + leftOperand.size = child ∧
            left + leftOperand.units * unit = left' := by
          cases hg
          exact ⟨rfl, rfl, rfl⟩
        constructor <;> linarith
  | quantified facts quantifier bound body =>
      cases List.mem_singleton.1 hg
      rw [h.units_child rfl rfl]
      exact ⟨le_rfl, le_rfl⟩

/-- Of two children, the first begins with the formula, the second where the first ends, and both end together with the
formula. -/
theorem Measured.siblings_within {k : Formula} {child' : Nat} {left₁ left₂ : Rat} (h : f.Measured depth)
    (hg : (g, child, left₁) ∈ f.laidChildren unit position left)
    (hk : (k, child', left₂) ∈ f.laidChildren unit position left) (horder : child < child') :
    left₁ = left ∧ left₂ = left₁ + g.units * unit ∧ left₂ + k.units * unit = left + f.units * unit := by
  cases f with
  | atom => cases hg
  | negation facts operand =>
      cases List.mem_singleton.1 hg
      cases List.mem_singleton.1 hk
      exact absurd horder (Nat.lt_irrefl _)
  | binary facts connective leftOperand right =>
      have hpos := leftOperand.size_pos
      rcases List.mem_pair.1 hg with hg | hg
      · rcases List.mem_pair.1 hk with hk | hk
        · cases hg
          cases hk
          exact absurd horder (Nat.lt_irrefl _)
        · cases hg
          cases hk
          refine ⟨rfl, rfl, ?_⟩
          rw [h.units_operands rfl rfl, Nat.cast_add, add_mul, ← add_assoc]
          rfl
      · -- The right operand is not in front of any other.
        have hlow : child = position + 1 + leftOperand.size := (Prod.mk.inj (Prod.mk.inj hg).2).1
        rcases List.mem_pair.1 hk with hk | hk
        · have hhigh : child' = position + 1 := (Prod.mk.inj (Prod.mk.inj hk).2).1
          omega
        · have hhigh : child' = position + 1 + leftOperand.size := (Prod.mk.inj (Prod.mk.inj hk).2).1
          omega
  | quantified facts quantifier bound body =>
      cases List.mem_singleton.1 hg
      cases List.mem_singleton.1 hk
      exact absurd horder (Nat.lt_irrefl _)

/-- All nodes of a formula keep to its span. -/
theorem Measured.within (h : f.Measured depth) (hunit : 0 < m.unit)
    (hnode : node ∈ f.placedNodes config m position parent left) :
    left ≤ node.left ∧ node.left + node.extent ≤ left + f.units * m.unit := by
  induction f using induction_children generalizing depth position parent left with
  | h f ih =>
    rcases mem_placedNodes_cases hnode with rfl | ⟨g, child, left', hg, hnode⟩
    · exact ⟨le_rfl, le_rfl⟩
    · have hmem := mem_children_of_laid hg
      obtain ⟨hlow, hhigh⟩ := h.child_within hunit hg
      obtain ⟨hlow', hhigh'⟩ := ih g hmem (h.child hmem) hnode
      exact ⟨hlow.trans hlow', hhigh'.trans hhigh⟩

theorem Measured.le_depth (h : f.Measured depth) (hnode : node ∈ f.placedNodes config m position parent left) :
    depth ≤ node.depth := by
  induction f using induction_children generalizing depth position parent left with
  | h f ih =>
    rcases mem_placedNodes_cases hnode with rfl | ⟨g, child, left', hg, hnode⟩
    · exact h.depth_eq.ge
    · have hmem := mem_children_of_laid hg
      exact Nat.le_of_succ_le (ih g hmem (h.child hmem) hnode)

end Formula

/-- Of two nodes in one row, the span of the first ends before that of the second. -/
def PlacedNode.Before (a b : PlacedNode Rat) : Prop := a.depth = b.depth → a.left + a.extent ≤ b.left

namespace Formula

variable {config : Config Rat} {m : Layout.Measures Rat}

theorem Measured.root_before {f : Formula} {depth : Nat} (h : f.Measured depth) {position : Nat} {parent : Option Nat}
    {left : Rat} {nodes : List (PlacedNode Rat)} (hnodes : ∀ node ∈ nodes, depth + 1 ≤ node.depth) :
    ∀ node ∈ nodes, (f.placedNode config m position parent left).Before node := by
  intro node hnode hrow
  have hbelow := hnodes node hnode
  have hroot : (f.placedNode config m position parent left).depth = depth := h.depth_eq
  omega

/-- In pre-order, the nodes of one row come from the left to the right. -/
theorem Measured.pairwise_before {f : Formula} {depth : Nat} (h : f.Measured depth) (config : Config Rat)
    (hunit : 0 < m.unit) (position : Nat) (parent : Option Nat) (left : Rat) :
    (f.placedNodes config m position parent left).Pairwise PlacedNode.Before := by
  induction f generalizing depth position parent left with
  | atom => exact List.pairwise_singleton _ _
  | negation facts operand ih =>
      have hoperand : operand.Measured (depth + 1) := h.child (by simp [children])
      exact List.pairwise_cons.2 ⟨h.root_before fun node hnode => hoperand.le_depth hnode, ih hoperand _ _ _⟩
  | binary facts connective leftOperand right ihl ihr =>
      have hl : leftOperand.Measured (depth + 1) := h.child (by simp [children])
      have hr : right.Measured (depth + 1) := h.child (by simp [children])
      refine List.pairwise_cons.2 ⟨h.root_before ?_, List.pairwise_append.2 ⟨ihl hl _ _ _, ihr hr _ _ _, ?_⟩⟩
      · intro node hnode
        rcases List.mem_append.1 hnode with hnode | hnode
        · exact hl.le_depth hnode
        · exact hr.le_depth hnode
      · intro a ha b hb hrow
        exact (hl.within hunit ha).2.trans (hr.within hunit hb).1
  | quantified facts quantifier bound body ih =>
      have hbody : body.Measured (depth + 1) := h.child (by simp [children])
      exact List.pairwise_cons.2 ⟨h.root_before fun node hnode => hbody.le_depth hnode, ih hbody _ _ _⟩

end Formula

/-- The nodes have spans side by side, which fill the stretch between two places. -/
def Tile : Rat → List (PlacedNode Rat) → Rat → Prop
  | low, [], high => low = high
  | low, node :: nodes, high => node.left = low ∧ Tile (low + node.extent) nodes high

namespace Formula

variable {config : Config Rat} {m : Layout.Measures Rat}

/-- The children of a formula, at their places. -/
def childNodes (config : Config Rat) (m : Layout.Measures Rat) (position : Nat) (left : Rat) (f : Formula) :
    List (PlacedNode Rat) :=
  (f.laidChildren m.unit position left).map fun (g, child, left) => g.placedNode config m child (some position) left

theorem Measured.tile_childNodes {f : Formula} {depth : Nat} (h : f.Measured depth) (hchildren : f.children ≠ [])
    (position : Nat) (left : Rat) :
    Tile left (f.childNodes config m position left) (left + f.units * m.unit) := by
  cases f with
  | atom => exact absurd rfl hchildren
  | negation facts operand =>
      rw [h.units_child rfl rfl]
      exact ⟨rfl, rfl⟩
  | binary facts connective leftOperand right =>
      refine ⟨rfl, rfl, ?_⟩
      rw [h.units_operands rfl rfl, Nat.cast_add, add_mul, ← add_assoc]
      rfl
  | quantified facts quantifier bound body =>
      rw [h.units_child rfl rfl]
      exact ⟨rfl, rfl⟩

theorem LaidAt.childNodes {nodes : List (PlacedNode Rat)} {f : Formula} {position : Nat} {parent : Option Nat}
    {left : Rat} (h : f.LaidAt config m nodes position parent left) :
    (f.placedNode config m position parent left).children.map (nodes[·]?) =
      (f.childNodes config m position left).map some := by
  have hpositions : (f.placedNode config m position parent left).children =
      (f.laidChildren m.unit position left).map fun c => c.2.1 := by
    cases f <;> rfl
  rw [hpositions, Formula.childNodes, List.map_map, List.map_map]
  apply List.map_congr_left
  rintro ⟨g, child, left'⟩ hg
  exact (h.child_of_mem hg).node

section

variable {f : Formula} {config : Config Rat} {i j k : Nat} {a b c : PlacedNode Rat}

/-- A child stands in the next row, in the span of its parent. -/
theorem child_layout (hf : f.Measured 0) (hconfig : config.Sound) (ha : (f.layout config).nodes[i]? = some a)
    (hb : (f.layout config).nodes[j]? = some b) (hj : j ∈ a.children) :
    b.depth = a.depth + 1 ∧ a.left ≤ b.left ∧ b.left + b.extent ≤ a.left + a.extent := by
  refine ⟨depth_child_layout hf ha hb hj, ?_⟩
  obtain ⟨g, parent, left, hg, hlaid, rfl⟩ := exists_part_of_layout hf ha
  rw [← Array.getElem?_toList] at hb
  obtain ⟨child, left', hchild, rfl⟩ := hlaid.exists_child hb hj
  exact hg.child_within (f.fit_measures hconfig).unit_pos hchild

/-- Of two children, the first begins where the parent does, the second where the first ends, and it ends where the
parent does. -/
theorem siblings_layout (hf : f.Measured 0) (ha : (f.layout config).nodes[i]? = some a)
    (hb : (f.layout config).nodes[j]? = some b) (hc : (f.layout config).nodes[k]? = some c) (hj : j ∈ a.children)
    (hk : k ∈ a.children) (hjk : j < k) :
    b.left = a.left ∧ c.left = b.left + b.extent ∧ c.left + c.extent = a.left + a.extent := by
  obtain ⟨g, parent, left, hg, hlaid, rfl⟩ := exists_part_of_layout hf ha
  rw [← Array.getElem?_toList] at hb hc
  obtain ⟨first, left₁, hfirst, rfl⟩ := hlaid.exists_child hb hj
  obtain ⟨second, left₂, hsecond, rfl⟩ := hlaid.exists_child hc hk
  exact hg.siblings_within hfirst hsecond hjk

theorem root_layout (hf : f.Measured 0) (ha : (f.layout config).nodes[0]? = some a) : a.depth = 0 := by
  rw [LayoutTree.toTreeNode_eq (f.standsAt_layout config) ha]
  exact hf.depth_eq

theorem parent_layout (hf : f.Measured 0) (hb : (f.layout config).nodes[j]? = some b) (hdepth : 0 < b.depth) :
    ∃ i, (f.layout config).IsChild i j := by
  have hstands := f.standsAt_layout config
  have hsize := f.size_layout config
  have hparent : b.parent ≠ none := by
    intro hnone
    obtain rfl : j = 0 := (LayoutTree.parent_eq_none_iff hstands hsize hb).1 hnone
    rw [root_layout hf hb] at hdepth
    exact Nat.lt_irrefl 0 hdepth
  obtain ⟨i, hi⟩ := Option.ne_none_iff_exists'.1 hparent
  exact ⟨i, (LayoutTree.hasParent_iff_isChild hstands hsize i j).1 ⟨b, hb, hi⟩⟩

end

end Formula

/-- A layout on a grid: nodes stand in the middle of their spans and of their rows, the spans of one row come from the
left to the right, and children stand in the next row, in the span of their parent. -/
structure LayoutTree.Gridded (gap : Rat) (m : Layout.Measures Rat) (tree : LayoutTree Rat) : Prop where
  gap_nonneg : 0 ≤ gap
  row : 2 * m.halfHeight + gap ≤ m.rowHeight
  unit_pos : 0 < m.unit
  centred : ∀ (i : Nat) (a : PlacedNode Rat), tree.nodes[i]? = some a → a.Centred gap m
  before : ∀ (i j : Nat) (a b : PlacedNode Rat), tree.nodes[i]? = some a → tree.nodes[j]? = some b → i < j → a.Before b
  child : ∀ (i j : Nat) (a b : PlacedNode Rat), tree.nodes[i]? = some a → tree.nodes[j]? = some b → j ∈ a.children →
    b.depth = a.depth + 1 ∧ a.left ≤ b.left ∧ b.left + b.extent ≤ a.left + a.extent
  siblings : ∀ (i j k : Nat) (a b c : PlacedNode Rat), tree.nodes[i]? = some a → tree.nodes[j]? = some b →
    tree.nodes[k]? = some c → j ∈ a.children → k ∈ a.children → j < k →
      b.left = a.left ∧ c.left = b.left + b.extent ∧ c.left + c.extent = a.left + a.extent
  parent : ∀ (j : Nat) (b : PlacedNode Rat), tree.nodes[j]? = some b → 0 < b.depth → ∃ i, tree.IsChild i j

theorem Formula.gridded_layout {f : Formula} (hf : f.Measured 0) {config : Config Rat} (hconfig : config.Sound) :
    (f.layout config).Gridded config.siblingGap (f.measures config) := by
  have hfit := f.fit_measures hconfig
  have hnodes := f.layout_nodes config
  constructor
  · exact hconfig.siblingGap
  · exact hfit.row
  · exact hfit.unit_pos
  · intro i a ha
    have hmem := Array.mem_of_getElem? ha
    rw [hnodes, List.mem_toArray] at hmem
    exact centred_of_mem hconfig hmem
  · intro i j a b ha hb hij
    have hbefore := hf.pairwise_before config hfit.unit_pos 0 none 0
    rw [hnodes, List.getElem?_toArray] at ha hb
    obtain ⟨hi, rfl⟩ := List.getElem?_eq_some_iff.1 ha
    obtain ⟨hj, rfl⟩ := List.getElem?_eq_some_iff.1 hb
    exact List.pairwise_iff_getElem.1 hbefore i j hi hj hij
  · intro i j a b ha hb hj
    exact child_layout hf hconfig ha hb hj
  · intro i j k a b c ha hb hc hj hk hjk
    exact siblings_layout hf ha hb hc hj hk hjk
  · intro j b hb hdepth
    exact parent_layout hf hb hdepth

theorem Formula.tile_layout {f : Formula} (hf : f.Measured 0) {config : Config Rat} {i : Nat} {node : PlacedNode Rat}
    (hnode : (f.layout config).nodes[i]? = some node) (hchildren : node.children ≠ []) :
    ∃ below, node.children.map ((f.layout config).nodes[·]?) = below.map some ∧
      Tile node.left below (node.left + node.extent) := by
  obtain ⟨g, parent, left, hg, hlaid, rfl⟩ := exists_part_of_layout hf hnode
  have hsome : g.children ≠ [] := by
    intro hnil
    apply hchildren
    rw [← g.children_placedChildren i] at hnil
    show (g.placedChildren i).map Prod.snd = []
    rw [List.map_eq_nil_iff.1 hnil, List.map_nil]
  have hbelow := hlaid.childNodes
  simp only [Array.getElem?_toList] at hbelow
  exact ⟨_, hbelow, hg.tile_childNodes hsome i left⟩

/-- The outlines keep the gap: beside each other in one row, below each other in different rows. -/
structure PlacedNode.Apart (gap : Rat) (a b : PlacedNode Rat) : Prop where
  beside : a.depth = b.depth → a.bounds.maxX + gap ≤ b.bounds.minX
  above : a.depth < b.depth → a.bounds.maxY + gap ≤ b.bounds.minY
  below : b.depth < a.depth → b.bounds.maxY + gap ≤ a.bounds.minY

namespace LayoutTree

/-- The children of a node divide its span, every outline lies in the span of its node, and any two outlines keep the
gap, where of two nodes in one row the first in pre-order is on the left. -/
structure Spaced (gap : Rat) (tree : LayoutTree Rat) : Prop where
  tiled : ∀ (i : Nat) (node : PlacedNode Rat), tree.nodes[i]? = some node → node.children ≠ [] →
    ∃ below, node.children.map (tree.nodes[·]?) = below.map some ∧ Tile node.left below (node.left + node.extent)
  inside : ∀ (i : Nat) (node : PlacedNode Rat), tree.nodes[i]? = some node →
    node.left ≤ node.bounds.minX ∧ node.bounds.maxX ≤ node.left + node.extent
  apart : ∀ (i j : Nat) (a b : PlacedNode Rat), tree.nodes[i]? = some a → tree.nodes[j]? = some b → i < j →
    a.Apart gap b

namespace Gridded

variable {gap : Rat} {m : Layout.Measures Rat} {tree : LayoutTree Rat} {i j : Nat} {a b : PlacedNode Rat}

theorem inside (h : tree.Gridded gap m) (ha : tree.nodes[i]? = some a) :
    a.left ≤ a.bounds.minX ∧ a.bounds.maxX ≤ a.left + a.extent := by
  have hgap := h.gap_nonneg
  have hleft := (h.centred i a ha).left_le_minX
  have hright := (h.centred i a ha).maxX_le_right
  constructor <;> linarith

theorem rowHeight_nonneg (h : tree.Gridded gap m) (ha : tree.nodes[i]? = some a) : 0 ≤ m.rowHeight := by
  have hgap := h.gap_nonneg
  have hrow := h.row
  have hheight := (h.centred i a ha).height
  have hpos := (h.centred i a ha).height_pos
  linarith

/-- A node in a row further up ends above, and leaves the gap. -/
theorem above (h : tree.Gridded gap m) (ha : tree.nodes[i]? = some a) (hb : tree.nodes[j]? = some b)
    (hdepth : a.depth < b.depth) : a.bounds.maxY + gap ≤ b.bounds.minY := by
  have hrow := h.row
  have hnext : ((a.depth + 1 : Nat) : Rat) * m.rowHeight ≤ b.depth * m.rowHeight :=
    mul_le_mul_of_nonneg_right (Nat.cast_le.2 hdepth) (h.rowHeight_nonneg ha)
  calc a.bounds.maxY + gap
      ≤ a.depth * m.rowHeight + 2 * m.halfHeight + gap := add_le_add_left (h.centred i a ha).maxY_le_row gap
    _ ≤ a.depth * m.rowHeight + m.rowHeight := by linarith
    _ = ((a.depth + 1 : Nat) : Rat) * m.rowHeight := by push_cast; ring
    _ ≤ b.depth * m.rowHeight := hnext
    _ ≤ b.bounds.minY := (h.centred j b hb).row_le_minY

theorem beside (h : tree.Gridded gap m) (ha : tree.nodes[i]? = some a) (hb : tree.nodes[j]? = some b) (hij : i < j)
    (hrow : a.depth = b.depth) : a.bounds.maxX + gap ≤ b.bounds.minX := by
  have hspans : a.left + a.extent ≤ b.left := h.before i j a b ha hb hij hrow
  have hright := (h.centred i a ha).maxX_le_right
  have hleft := (h.centred j b hb).left_le_minX
  linarith

end Gridded

end LayoutTree

namespace AnnotatedFormula

/-- In exact arithmetic nothing in the layout of a validated formula comes too close, for all measures in use. -/
theorem spaced_layout {a : AnnotatedFormula} (h : a.IsValidated) {config : Config Rat}
    (hconfig : config.validate = .ok ()) : (a.formula.layout config).Spaced config.siblingGap := by
  have hgrid := a.formula.gridded_layout h.measured (Config.validate_eq_ok_iff.1 hconfig)
  constructor
  · intro i node hnode hchildren
    exact Formula.tile_layout h.measured hnode hchildren
  · intro i node hnode
    exact hgrid.inside hnode
  · intro i j p q hp hq hij
    exact ⟨hgrid.beside hp hq hij, hgrid.above hp hq, hgrid.above hq hp⟩

/-- The spans of `¬p ∧ q` begin at zero, but for that of `q`, which begins behind one unit. -/
theorem spaced_layout_of_conjunction : ∃ a, parse "¬p ∧ q" = .ok a ∧ a.IsValidated ∧
    (default : Config Rat).validate = .ok () ∧
    (a.formula.layout (default : Config Rat)).nodes.toList.map (·.left) = [0, 0, 0, 248 / 5] ∧
      (a.formula.layout (default : Config Rat)).Spaced 16 := by
  have hlefts : (parse "¬p ∧ q").toOption.map (fun a => (a.formula.layout (default : Config Rat)).nodes.toList.map
      (·.left)) = some [0, 0, 0, 248 / 5] := by
    decide +kernel
  have hconfig : (default : Config Rat).validate = .ok () := by decide +kernel
  obtain ⟨a, ha, hvalid, hlists⟩ := exists_parse_of_map hlefts
  exact ⟨a, ha, hvalid, hconfig, hlists, spaced_layout hvalid hconfig⟩

end AnnotatedFormula

end FormulaDiagram
