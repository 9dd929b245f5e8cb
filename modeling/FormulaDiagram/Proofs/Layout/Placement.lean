import FormulaDiagram.Proofs.Layout.Preorder

/-!
The places of the nodes as the loop leaves them. In the array of a layout the nodes below a formula are those of the
recursion, wherever the formula stands. So every node gets its place from its left side, its number of atoms and its
depth, and hands its left side down: to its first child as it is, to the second one moved by the width of the first.
The scalars may be any, as no law of arithmetic is used; what is the same is the same to the last bit.
-/

namespace FormulaDiagram

namespace Formula

section

variable {f g : Formula} {depth : Nat}

theorem Measured.units_eq (h : f.Measured depth) : f.units = f.atoms.length := by
  obtain ⟨hleaves, -, -⟩ := h
  have hpos := f.length_atoms_pos
  unfold units
  omega

theorem Measured.units_eq_leafCount (h : f.Measured depth) : f.units = f.annotation.leafCount := by
  obtain ⟨hleaves, -, -⟩ := id h
  rw [h.units_eq, hleaves]

theorem Measured.child (h : f.Measured depth) (hg : g ∈ f.children) : g.Measured (depth + 1) := by
  obtain ⟨-, -, hchildren⟩ := h
  exact hchildren g hg

theorem Measured.depth_eq (h : f.Measured depth) : f.annotation.depth = depth := by
  obtain ⟨-, hdepth, -⟩ := h
  exact hdepth

theorem Measured.units_child (h : f.Measured depth) (hg : f.children = [g]) (hatoms : f.atoms = g.atoms) :
    f.units = g.units := by
  have hmem : g ∈ f.children := by simp [hg]
  rw [h.units_eq, (h.child hmem).units_eq, hatoms]

theorem Measured.units_operands {k : Formula} (h : f.Measured depth) (hchildren : f.children = [g, k])
    (hatoms : f.atoms = g.atoms ++ k.atoms) : f.units = g.units + k.units := by
  have hg : g ∈ f.children := by simp [hchildren]
  have hk : k ∈ f.children := by simp [hchildren]
  rw [h.units_eq, (h.child hg).units_eq, (h.child hk).units_eq, hatoms, List.length_append]

end

variable {α : Type} [Scalar α] {config : Config α} {m : Layout.Measures α} {nodes : List (PlacedNode α)}
  {f : Formula} {position i : Nat} {parent : Option Nat} {left : α}

/-- Wherever a formula is laid out its occurrences are laid out, as far behind it as they come in pre-order. -/
theorem LaidAt.of_occurrence (h : f.LaidAt config m nodes position parent left) (above : List Formula)
    {o : Occurrence} (ho : (f.occurrencesBelow above)[i]? = some o) :
    ∃ parent left, o.node.LaidAt config m nodes (position + i) parent left := by
  induction f using induction_children generalizing position parent left above i with
  | h f ih =>
    rcases occurrence_cases position ho with ⟨rfl, rfl⟩ | ⟨g, child, k, hg, hposition, hk⟩
    · exact ⟨parent, left, h⟩
    · obtain ⟨left', hg⟩ := exists_laid_of_placed m.unit left hg
      rw [hposition]
      exact ih g (mem_children_of_laid hg) (h.child_of_mem hg) _ hk

theorem laidAt_layout (f : Formula) (config : Config α) :
    f.LaidAt config (f.measures config) (f.layout config).nodes.toList 0 none Scalar.zero := by
  rw [f.layout_nodes config]
  exact List.prefix_refl _

/-- What occurs at a position is laid out there. -/
theorem laidAt_of_occurrence (config : Config α) {o : Occurrence} (ho : f.occurrences[i]? = some o) :
    ∃ parent left, o.node.LaidAt config (f.measures config) (f.layout config).nodes.toList i parent left := by
  obtain ⟨parent, left, hlaid⟩ := (f.laidAt_layout config).of_occurrence [] ho
  rw [Nat.zero_add] at hlaid
  exact ⟨parent, left, hlaid⟩

/-- Where a node of the layout stands a part of the formula is laid out. -/
theorem exists_part_of_layout (hf : f.Measured 0) {node : PlacedNode α}
    (h : (f.layout config).nodes[i]? = some node) :
    ∃ (g : Formula) (parent : Option Nat) (left : α), g.Measured node.depth ∧
      g.LaidAt config (f.measures config) (f.layout config).nodes.toList i parent left ∧
        node = g.placedNode config (f.measures config) i parent left := by
  have hi : i < f.occurrences.length := by
    rw [occurrences, length_occurrencesBelow, ← f.size_layout config]
    exact (Array.getElem?_eq_some_iff.1 h).1
  have ho := List.getElem?_eq_getElem hi
  obtain ⟨parent, left, hlaid⟩ := laidAt_of_occurrence config ho
  have hg := Measured.of_occurrence [] hf ho
  have hnode := hlaid.node
  rw [Array.getElem?_toList, h] at hnode
  cases hnode
  -- The depth that the node carries is the number of nodes above the part.
  rw [← hg.depth_eq] at hg
  exact ⟨_, parent, left, hg, hlaid, rfl⟩

/-- A child stands in the next row. -/
theorem depth_child_layout (hf : f.Measured 0) {j : Nat} {a b : PlacedNode α}
    (ha : (f.layout config).nodes[i]? = some a) (hb : (f.layout config).nodes[j]? = some b) (hj : j ∈ a.children) :
    b.depth = a.depth + 1 := by
  obtain ⟨g, parent, left, hg, hlaid, rfl⟩ := exists_part_of_layout hf ha
  rw [← Array.getElem?_toList] at hb
  obtain ⟨child, left', hchild, rfl⟩ := hlaid.exists_child hb hj
  exact (hg.child (mem_children_of_laid hchild)).depth_eq

/-- A child that begins with its formula and has as many units fills the span of it. -/
theorem LaidAt.child_fills {g : Formula} {child : Nat} (h : f.LaidAt config m nodes position parent left)
    (hg : (g, child, left) ∈ f.laidChildren m.unit position left) (hunits : f.units = g.units) :
    ∃ b : PlacedNode α, nodes[child]? = some b ∧ b.left = left ∧
      b.extent = (f.placedNode config m position parent left).extent ∧
      b.center.x = (f.placedNode config m position parent left).center.x := by
  have hextent : Layout.extent m.unit g.units = Layout.extent m.unit f.units := by rw [hunits]
  exact ⟨_, (h.child_of_mem hg).node, rfl, hextent, congrArg (left + Scalar.half ·) hextent⟩

/-- A formula with one child hands its whole span down. -/
theorem LaidAt.only_child {depth child : Nat} (h : f.LaidAt config m nodes position parent left)
    (hf : f.Measured depth) (hchild : (f.placedNode config m position parent left).children = [child]) :
    ∃ b : PlacedNode α, nodes[child]? = some b ∧ b.left = left ∧
      b.extent = (f.placedNode config m position parent left).extent ∧
      b.center.x = (f.placedNode config m position parent left).center.x := by
  cases f with
  | atom => cases hchild
  | negation facts operand =>
      obtain rfl : position + 1 = child := (List.cons.inj hchild).1
      exact h.child_fills (List.mem_singleton.2 rfl) (hf.units_child rfl rfl)
  | binary => cases hchild
  | quantified facts quantifier bound body =>
      obtain rfl : position + 1 = child := (List.cons.inj hchild).1
      exact h.child_fills (List.mem_singleton.2 rfl) (hf.units_child rfl rfl)

/-- A formula with two children hands its left side down to the first of them, and that moved by the span of the first
to the second. -/
theorem LaidAt.two_children {first second : Nat} (h : f.LaidAt config m nodes position parent left)
    (hchildren : (f.placedNode config m position parent left).children = [first, second]) :
    ∃ b c : PlacedNode α, nodes[first]? = some b ∧ nodes[second]? = some c ∧ b.left = left ∧
      c.left = left + Scalar.ofNat b.leafCount * m.unit := by
  cases f with
  | atom => cases hchildren
  | negation => cases hchildren
  | binary facts connective leftOperand right =>
      obtain ⟨rfl, hrest⟩ := List.cons.inj hchildren
      obtain ⟨rfl, -⟩ := List.cons.inj hrest
      have hl := h.child_of_mem (List.mem_cons_self)
      have hr := h.child_of_mem (List.mem_cons_of_mem _ (List.mem_singleton.2 rfl))
      exact ⟨_, _, hl.node, hr.node, rfl, rfl⟩
  | quantified => cases hchildren

end Formula

variable {α : Type} [Scalar α]

/-- The nodes of the tree are those of the recursion over the formula, operation for operation. The root begins at
zero; a node has its extent from its atoms, stands in the middle of it, and in the row of its depth; its first child
begins where it begins, the second one as many units further on as the first has atoms. -/
structure LayoutTree.ByRecursion (tree : LayoutTree α) (f : Formula) (config : Config α) (m : Layout.Measures α) :
    Prop where
  unit : tree.unit = m.unit
  nodes : tree.nodes = (f.placedNodes config m 0 none Scalar.zero).toArray
  root : ∃ a : PlacedNode α, tree.nodes[0]? = some a ∧ a.left = Scalar.zero
  place : ∀ i o, f.occurrences[i]? = some o → ∃ a : PlacedNode α, tree.nodes[i]? = some a ∧ a.Shows i o ∧
    a.extent = Scalar.ofNat o.node.annotation.leafCount * m.unit ∧
    a.center.x = a.left + Scalar.half a.extent ∧
    a.center.y = Scalar.ofNat o.node.annotation.depth * m.rowHeight + m.halfHeight
  only : ∀ (i : Nat) (a : PlacedNode α) (j : Nat), tree.nodes[i]? = some a → a.children = [j] →
    ∃ b : PlacedNode α, tree.nodes[j]? = some b ∧ b.left = a.left ∧ b.extent = a.extent ∧ b.center.x = a.center.x
  two : ∀ (i : Nat) (a : PlacedNode α) (j k : Nat), tree.nodes[i]? = some a → a.children = [j, k] →
    ∃ b c : PlacedNode α, tree.nodes[j]? = some b ∧ tree.nodes[k]? = some c ∧ b.left = a.left ∧
      c.left = a.left + Scalar.ofNat b.leafCount * m.unit
  row : ∀ (i j : Nat) (a b : PlacedNode α), tree.nodes[i]? = some a → tree.nodes[j]? = some b → a.depth = b.depth →
    a.center.y = b.center.y

namespace AnnotatedFormula

/-- The layout of a validated formula is that of the recursion, whatever the measures and the arithmetic are. -/
theorem byRecursion_layout {a : AnnotatedFormula} (h : a.IsValidated) (config : Config α) :
    (a.formula.layout config).ByRecursion a.formula config (a.formula.measures config) := by
  have hf := h.measured
  constructor
  · exact a.formula.layout_unit config
  · exact a.formula.layout_nodes config
  · have hnode := (a.formula.laidAt_layout config).node
    rw [Array.getElem?_toList] at hnode
    exact ⟨_, hnode, rfl⟩
  · intro i o ho
    have hmeasured : o.node.Measured o.ancestors.length := Formula.Measured.of_occurrence [] hf ho
    obtain ⟨parent, left, hlaid⟩ := Formula.laidAt_of_occurrence config ho
    have hnode := hlaid.node
    rw [Array.getElem?_toList] at hnode
    refine ⟨_, hnode, PlacedNode.shows_of_eq hmeasured rfl, ?_, rfl, rfl⟩
    rw [← hmeasured.units_eq_leafCount]
    rfl
  · intro i node j hnode hchild
    obtain ⟨g, parent, left, hg, hlaid, rfl⟩ := Formula.exists_part_of_layout hf hnode
    rw [← Array.getElem?_toList]
    exact hlaid.only_child hg hchild
  · intro i node j k hnode hchildren
    obtain ⟨g, parent, left, -, hlaid, rfl⟩ := Formula.exists_part_of_layout hf hnode
    rw [← Array.getElem?_toList, ← Array.getElem?_toList]
    exact hlaid.two_children hchildren
  · intro i j p q hp hq hrow
    obtain ⟨g, parent, left, -, -, rfl⟩ := Formula.exists_part_of_layout hf hp
    obtain ⟨k, parent', left', -, -, rfl⟩ := Formula.exists_part_of_layout hf hq
    have hdepth : g.annotation.depth = k.annotation.depth := hrow
    exact congrArg (Scalar.ofNat · * (a.formula.measures config).rowHeight +
      (a.formula.measures config).halfHeight) hdepth

/-- Without a unit width, which validation refuses, the operands of `¬(p ∧ q)` begin at zero and at the width that the
widest node needs. -/
theorem byRecursion_layout_of_negation : ∃ (config : Config Single) (a : AnnotatedFormula),
    config = (default : Config Single).set .unitWidth Scalar.zero ∧ config.validate ≠ .ok () ∧
    parse "¬(p ∧ q)" = .ok a ∧ a.IsValidated ∧
    (a.formula.layout config).nodes.toList.map (·.left) =
      [Scalar.zero, Scalar.zero, Scalar.zero, Scalar.ratio 248 5] ∧
    (a.formula.layout config).ByRecursion a.formula config (a.formula.measures config) := by
  have hlefts : (parse "¬(p ∧ q)").toOption.map (fun a =>
      (a.formula.layout ((default : Config Single).set .unitWidth Scalar.zero)).nodes.toList.map (·.left)) =
        some [Scalar.zero, Scalar.zero, Scalar.zero, Scalar.ratio 248 5] := by
    decide +kernel
  obtain ⟨a, ha, hvalid, hlefts⟩ := exists_parse_of_map hlefts
  exact ⟨_, a, rfl, by decide +kernel, ha, hvalid, hlefts, byRecursion_layout hvalid _⟩

end AnnotatedFormula

end FormulaDiagram
