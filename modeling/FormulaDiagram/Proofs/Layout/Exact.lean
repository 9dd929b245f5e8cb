import Mathlib.Tactic.Linarith
import Mathlib.Tactic.Ring
import Mathlib.Algebra.Order.Field.Rat
import FormulaDiagram.Proofs.Layout.Recursion
import FormulaDiagram.Proofs.Nodes.Reachable

/-!
The layout over the rational numbers, where no operation rounds. The unit is wide enough for every outline with the
gap, and a row high enough, because both are the greatest of all that are needed. So wherever a node is placed it
stands in the middle of its span and of its row, and leaves half of the gap free on either side.
-/

namespace FormulaDiagram

namespace Scalar

@[simp] theorem rat_zero : (Scalar.zero : Rat) = 0 := Nat.cast_zero

theorem rat_max (a b : Rat) : @Max.max Rat Scalar.toMax a b = if a < b then b else a := rfl

theorem rat_le_max_left (a b : Rat) : a ≤ @Max.max Rat Scalar.toMax a b := by
  rw [rat_max]
  split <;> linarith

theorem rat_le_max_right (a b : Rat) : b ≤ @Max.max Rat Scalar.toMax a b := by
  rw [rat_max]
  split <;> linarith

/-- The greatest of a list is no less than where it starts, and no less than any of the list. -/
theorem rat_le_foldl_max {β : Type} (f : β → Rat) (xs : List β) (a : Rat) :
    a ≤ xs.foldl (fun b x => @Max.max Rat Scalar.toMax b (f x)) a ∧
      ∀ x ∈ xs, f x ≤ xs.foldl (fun b x => @Max.max Rat Scalar.toMax b (f x)) a := by
  induction xs generalizing a with
  | nil => exact ⟨le_rfl, nofun⟩
  | cons x xs ih =>
      obtain ⟨hstart, hrest⟩ := ih (@Max.max Rat Scalar.toMax a (f x))
      have hleft := rat_le_max_left a (f x)
      have hright := rat_le_max_right a (f x)
      exact ⟨hleft.trans hstart, List.forall_mem_cons.2 ⟨hright.trans hstart, hrest⟩⟩

end Scalar

namespace Config

/-- The measures that may be used: lengths that are divided into are positive, distances are not negative. -/
structure Sound (config : Config Rat) : Prop where
  unitWidth : 0 < config.unitWidth
  rowHeight : 0 < config.rowHeight
  nodeHeight : 0 < config.nodeHeight
  fontSize : 0 < config.fontSize
  siblingGap : 0 ≤ config.siblingGap
  nodePadding : 0 ≤ config.nodePadding
  margin : 0 ≤ config.margin

variable {config : Config Rat}

theorem checkPositive_eq_ok_iff (field : ConfigField) :
    config.checkPositive field = .ok () ↔ 0 < config.get field := by
  unfold checkPositive
  by_cases h : config.get field ≤ 0
  · simp [h]
  · simp [h, lt_of_not_ge h]

theorem checkNotNegative_eq_ok_iff (field : ConfigField) :
    config.checkNotNegative field = .ok () ↔ 0 ≤ config.get field := by
  unfold checkNotNegative
  by_cases h : config.get field < 0
  · simp [h, not_le_of_gt h]
  · simp [h, le_of_not_gt h]

theorem check_eq_ok_iff {ε : Type} (first second : Except ε Unit) :
    (first >>= fun _ => second) = .ok () ↔ first = .ok () ∧ second = .ok () := by
  cases first <;> simp [bind, Except.bind]

theorem validate_eq_ok_iff : config.validate = .ok () ↔ config.Sound := by
  simp only [validate, check_eq_ok_iff, checkPositive_eq_ok_iff, checkNotNegative_eq_ok_iff, get]
  constructor
  · rintro ⟨hunit, hrow, hnode, hfont, hgap, hpadding, hmargin⟩
    exact ⟨hunit, hrow, hnode, hfont, hgap, hpadding, hmargin⟩
  · rintro ⟨hunit, hrow, hnode, hfont, hgap, hpadding, hmargin⟩
    exact ⟨hunit, hrow, hnode, hfont, hgap, hpadding, hmargin⟩

end Config

namespace Layout

variable {config : Config Rat}

theorem nodeHeight_le_nodeSize (config : Config Rat) (label : String) (kind : NodeKind) :
    config.nodeHeight ≤ (nodeSize config label kind).height := by
  have hheight := Scalar.rat_le_max_left config.nodeHeight (labelSize label config.fontSize).height
  unfold nodeSize
  cases kind.isRound with
  | false => exact hheight
  | true => exact hheight.trans (Scalar.rat_le_max_left _ _)

/-- The measures leave room for outlines of some sizes. -/
structure Measures.Fit (gap : Rat) (m : Measures Rat) (sizes : List (Size Rat)) : Prop where
  unit_pos : 0 < m.unit
  row : 2 * m.halfHeight + gap ≤ m.rowHeight
  width : ∀ size ∈ sizes, size.width + gap ≤ m.unit
  height : ∀ size ∈ sizes, size.height ≤ 2 * m.halfHeight

theorem fit_measures (hconfig : config.Sound) (sizes : Array (Size Rat)) :
    (measures config sizes).Fit config.siblingGap sizes.toList := by
  obtain ⟨widest, hwidest⟩ : ∃ w, w = sizes.foldl (fun w size => @Max.max Rat Scalar.toMax w size.width) Scalar.zero :=
    ⟨_, rfl⟩
  obtain ⟨tallest, htallest⟩ :
      ∃ h, h = sizes.foldl (fun h size => @Max.max Rat Scalar.toMax h size.height) config.nodeHeight := ⟨_, rfl⟩
  have hmeasures : measures config sizes =
      { unit := @Max.max Rat Scalar.toMax config.unitWidth (widest + config.siblingGap)
        rowHeight := @Max.max Rat Scalar.toMax config.rowHeight (tallest + config.siblingGap)
        halfHeight := tallest / 2 } := by
    rw [hwidest, htallest]
    rfl
  rw [← Array.foldl_toList] at hwidest htallest
  rw [hmeasures]
  constructor
  · exact hconfig.unitWidth.trans_le (Scalar.rat_le_max_left _ _)
  · have hrow := Scalar.rat_le_max_right config.rowHeight (tallest + config.siblingGap)
    have hhalf : 2 * (tallest / 2) = tallest := by ring
    rwa [hhalf]
  · intro size hsize
    have hwidth : size.width ≤ widest :=
      hwidest ▸ (Scalar.rat_le_foldl_max Size.width sizes.toList Scalar.zero).2 size hsize
    have hunit := Scalar.rat_le_max_right config.unitWidth (widest + config.siblingGap)
    linarith
  · intro size hsize
    have hheight : size.height ≤ tallest :=
      htallest ▸ (Scalar.rat_le_foldl_max Size.height sizes.toList config.nodeHeight).2 size hsize
    have hhalf : 2 * (tallest / 2) = tallest := by ring
    rwa [hhalf]

end Layout

/-- The node stands in the middle of its span and of its row, with half of the gap free on either side of it. -/
structure PlacedNode.Centred (gap : Rat) (m : Layout.Measures Rat) (node : PlacedNode Rat) : Prop where
  unit_le : m.unit ≤ node.extent
  x : node.center.x = node.left + node.extent / 2
  y : node.center.y = node.depth * m.rowHeight + m.halfHeight
  width : node.size.width + gap ≤ m.unit
  height : node.size.height ≤ 2 * m.halfHeight
  height_pos : 0 < node.size.height

namespace PlacedNode.Centred

variable {gap : Rat} {m : Layout.Measures Rat} {node : PlacedNode Rat}

theorem minX_eq (h : node.Centred gap m) : node.bounds.minX = node.left + (node.extent - node.size.width) / 2 := by
  show node.center.x - node.size.width / 2 = _
  rw [h.x]
  ring

theorem maxX_eq (h : node.Centred gap m) : node.bounds.maxX = node.left + (node.extent + node.size.width) / 2 := by
  show node.center.x + node.size.width / 2 = _
  rw [h.x]
  ring

theorem minY_eq (h : node.Centred gap m) :
    node.bounds.minY = node.depth * m.rowHeight + (m.halfHeight - node.size.height / 2) := by
  show node.center.y - node.size.height / 2 = _
  rw [h.y]
  ring

theorem maxY_eq (h : node.Centred gap m) :
    node.bounds.maxY = node.depth * m.rowHeight + (m.halfHeight + node.size.height / 2) := by
  show node.center.y + node.size.height / 2 = _
  rw [h.y]
  ring

theorem middleX_eq (h : node.Centred gap m) : node.bounds.middleX = node.left + node.extent / 2 := by
  show (node.bounds.minX + node.bounds.maxX) / 2 = _
  rw [h.minX_eq, h.maxX_eq]
  ring

/-- Half of the gap is free between the outline and the left end of the span. -/
theorem left_le_minX (h : node.Centred gap m) : node.left + gap / 2 ≤ node.bounds.minX := by
  have hunit := h.unit_le
  have hwidth := h.width
  rw [h.minX_eq]
  linarith

theorem maxX_le_right (h : node.Centred gap m) : node.bounds.maxX + gap / 2 ≤ node.left + node.extent := by
  have hunit := h.unit_le
  have hwidth := h.width
  rw [h.maxX_eq]
  linarith

theorem row_le_minY (h : node.Centred gap m) : node.depth * m.rowHeight ≤ node.bounds.minY := by
  have hheight := h.height
  rw [h.minY_eq]
  linarith

theorem maxY_le_row (h : node.Centred gap m) : node.bounds.maxY ≤ node.depth * m.rowHeight + 2 * m.halfHeight := by
  have hheight := h.height
  rw [h.maxY_eq]
  linarith

end PlacedNode.Centred

namespace Formula

variable {config : Config Rat}

theorem fit_measures (f : Formula) (hconfig : config.Sound) : (f.measures config).Fit config.siblingGap
    (f.arena.toList.map fun node => Layout.nodeSize config node.label node.kind) := by
  have hfit := Layout.fit_measures hconfig (f.arena.map fun node => Layout.nodeSize config node.label node.kind)
  rwa [Array.toList_map] at hfit

/-- The nodes of the layout are centred, because the measures were taken of all of them. -/
theorem centred_of_mem (hconfig : config.Sound) {f : Formula} {node : PlacedNode Rat}
    (h : node ∈ f.placedNodes config (f.measures config) 0 none Scalar.zero) :
    node.Centred config.siblingGap (f.measures config) := by
  have hfit := f.fit_measures hconfig
  have hsize : Layout.nodeSize config node.label node.kind ∈
      f.arena.toList.map fun node => Layout.nodeSize config node.label node.kind := by
    have htree := List.mem_map_of_mem (f := PlacedNode.toTreeNode) h
    rw [toTreeNode_placedNodes] at htree
    rw [arena_eq]
    exact List.mem_map_of_mem (f := fun t : TreeNode => Layout.nodeSize config t.label t.kind) htree
  -- The measures stay those of the whole formula while the node is traced to a part of it.
  generalize f.measures config = m at h hfit ⊢
  have hwidth := hfit.width _ hsize
  have hheight := hfit.height _ hsize
  have hpos := hconfig.nodeHeight.trans_le (Layout.nodeHeight_le_nodeSize config node.label node.kind)
  obtain ⟨g, position, parent, left, rfl⟩ := exists_of_mem_placedNodes h
  refine ⟨?_, rfl, rfl, hwidth, hheight, hpos⟩
  have hunits : (1 : Rat) ≤ (g.units : Rat) := Nat.one_le_cast.2 (Nat.le_max_right _ _)
  have hextent := mul_le_mul_of_nonneg_right hunits hfit.unit_pos.le
  rwa [one_mul] at hextent

end Formula

end FormulaDiagram
