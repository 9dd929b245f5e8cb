import Mathlib.Logic.Relation
import FormulaDiagram.Proofs.Layout.Recursion
import FormulaDiagram.Proofs.Nodes.Reachable

/-!
A layout as a tree of positions. Its nodes are the nodes of the formula in pre-order, so the first child of a node
stands right behind it, the second one behind all that stands below the first, and what stands below a node is one
stretch of positions. Links to parents and lists of children say the same, and the edges are all pairs that they
link, one for each node but the root.
-/

namespace FormulaDiagram

variable {α : Type}

/-- Formulas that stand one behind the other have these positions. -/
def positionsFrom (position : Nat) : List Formula → List Nat
  | [] => []
  | f :: fs => position :: positionsFrom (position + f.nodeCount) fs

/-- The node at a position shows a node of a formula as it occurs there. -/
structure PlacedNode.Shows (node : PlacedNode α) (position : Nat) (o : Occurrence) : Prop where
  label : node.label = o.node.label
  kind : node.kind = .ofFormula o.node
  leafCount : node.leafCount = o.node.annotation.leafCount
  atoms : node.leafCount = o.node.atoms.length
  depth : node.depth = o.node.annotation.depth
  ancestors : node.depth = o.ancestors.length
  arity : node.children.length = node.kind.arity
  children : node.children = positionsFrom (position + 1) o.node.children

namespace Formula

theorem length_occurrencesBelow (f : Formula) (above : List Formula) : (f.occurrencesBelow above).length = f.size := by
  induction f generalizing above with
  | atom => rfl
  | negation facts operand ih => simp [occurrencesBelow, size, ih]
  | binary facts connective left right ihl ihr => simp [occurrencesBelow, size, ihl, ihr]
  | quantified facts quantifier bound body ih => simp [occurrencesBelow, size, ih]

/-- An occurrence is the root, or it occurs in a child, as far behind that as it stands. -/
theorem occurrence_cases {f : Formula} {above : List Formula} {i : Nat} {o : Occurrence} (position : Nat)
    (ho : (f.occurrencesBelow above)[i]? = some o) :
    (i = 0 ∧ o = ⟨f, above⟩) ∨ ∃ g child k, (g, child) ∈ f.placedChildren position ∧ position + i = child + k ∧
      (g.occurrencesBelow (f :: above))[k]? = some o := by
  cases i with
  | zero =>
      refine .inl ⟨rfl, ?_⟩
      cases f <;> exact (Option.some.inj ho).symm
  | succ i =>
      right
      cases f with
      | atom => cases ho
      | negation facts operand => exact ⟨operand, position + 1, i, by simp [placedChildren], by omega, ho⟩
      | binary facts connective left right =>
          rw [occurrencesBelow, List.getElem?_cons_succ, List.getElem?_append, length_occurrencesBelow] at ho
          split at ho
          · exact ⟨left, position + 1, i, by simp [placedChildren], by omega, ho⟩
          · exact ⟨right, position + 1 + left.size, i - left.size, by simp [placedChildren], by omega, ho⟩
      | quantified facts quantifier bound body =>
          exact ⟨body, position + 1, i, by simp [placedChildren], by omega, ho⟩

/-- An occurrence stands as far behind the formula as it comes behind the root in pre-order. -/
theorem StandsAt.of_occurrence {nodes : List TreeNode} {f : Formula} {position : Nat} {parent : Option Nat}
    (h : f.StandsAt nodes position parent) (above : List Formula) {i : Nat} {o : Occurrence}
    (ho : (f.occurrencesBelow above)[i]? = some o) : ∃ parent, o.node.StandsAt nodes (position + i) parent := by
  induction f using induction_children generalizing position parent above i with
  | h f ih =>
    rcases occurrence_cases position ho with ⟨rfl, rfl⟩ | ⟨g, child, k, hg, hposition, hk⟩
    · exact ⟨parent, h⟩
    · rw [hposition]
      exact ih g (mem_children_of_placed hg) (h.child_of_mem hg) _ hk

theorem Measured.of_occurrence {f : Formula} (above : List Formula) (h : f.Measured above.length) {i : Nat}
    {o : Occurrence} (ho : (f.occurrencesBelow above)[i]? = some o) : o.node.Measured o.ancestors.length := by
  induction f using induction_children generalizing above i with
  | h f ih =>
    rcases occurrence_cases 0 ho with ⟨-, rfl⟩ | ⟨g, child, k, hg, -, hk⟩
    · exact h
    · obtain ⟨-, -, hchildren⟩ := h
      have hmem := mem_children_of_placed hg
      exact ih g hmem (f :: above) (hchildren g hmem) hk

theorem positionsFrom_children (f : Formula) (position : Nat) :
    positionsFrom (position + 1) f.children = (f.placedChildren position).map Prod.snd := by
  cases f <;> simp [children, placedChildren, positionsFrom, nodeCount_eq_size]

theorem length_placedChildren (f : Formula) (position : Nat) :
    (f.placedChildren position).length = (NodeKind.ofFormula f).arity := by
  cases f <;> rfl

end Formula

theorem PlacedNode.shows_of_eq {node : PlacedNode α} {position : Nat} {parent : Option Nat} {o : Occurrence}
    (h : o.node.Measured o.ancestors.length) (htree : node.toTreeNode = o.node.treeNode position parent) :
    node.Shows position o := by
  obtain ⟨hleaves, hdepth, -⟩ := h
  have hunits : node.leafCount = o.node.annotation.leafCount := by
    have hpos := o.node.length_atoms_pos
    rw [htree]
    show max o.node.annotation.leafCount 1 = _
    omega
  have hkind : node.kind = .ofFormula o.node := by rw [htree]; rfl
  have hchildren : node.children = (o.node.placedChildren position).map Prod.snd := by rw [htree]; rfl
  constructor
  · rw [htree]
    rfl
  · exact hkind
  · exact hunits
  · rw [hunits, hleaves]
  · rw [htree]
    rfl
  · rw [htree, ← hdepth]
    rfl
  · rw [hchildren, hkind, List.length_map, Formula.length_placedChildren]
  · rw [hchildren, Formula.positionsFrom_children]

namespace LayoutTree

/-- The second position is among the children of the first one. -/
def IsChild (tree : LayoutTree α) (i j : Nat) : Prop := ∃ node, tree.nodes[i]? = some node ∧ j ∈ node.children

/-- The second position is the parent of the first one. -/
def HasParent (tree : LayoutTree α) (j i : Nat) : Prop := ∃ node, tree.nodes[j]? = some node ∧ node.parent = some i

/-- The nodes of the tree are those of the formula in pre-order, linked as there. What stands below a node is a
stretch of positions; the edges come in the order of the children, one for each node but the root. -/
structure Mirrors [Scalar α] (tree : LayoutTree α) (f : Formula) : Prop where
  size : tree.nodes.size = f.nodeCount
  nodes : ∀ i o, f.occurrences[i]? = some o → ∃ node : PlacedNode α, tree.nodes[i]? = some node ∧ node.Shows i o
  hasParent_iff : ∀ i j, tree.HasParent j i ↔ tree.IsChild i j
  root_iff : ∀ j node, tree.nodes[j]? = some node → (node.parent = none ↔ j = 0)
  below_iff : ∀ i o, f.occurrences[i]? = some o →
    ∀ j, Relation.ReflTransGen tree.IsChild i j ↔ i ≤ j ∧ j < i + o.node.nodeCount
  mem_edges_iff : ∀ e, e ∈ tree.edges ↔ tree.IsChild e.parent e.child
  children_edges : tree.edges.map Edge.child = List.range' 1 (f.nodeCount - 1)
  length_edges : tree.edges.length = f.nodeCount - 1
  connector : ∀ e ∈ tree.edges, ∃ parent child, tree.nodes[e.parent]? = some parent ∧
    tree.nodes[e.child]? = some child ∧ tree.connector? e = some (parent.bottomAnchor, child.topAnchor)

/-- The nodes of the tree without their places. -/
def skeleton (tree : LayoutTree α) : List TreeNode := tree.nodes.toList.map PlacedNode.toTreeNode

theorem exists_of_skeleton {tree : LayoutTree α} {i : Nat} {node : TreeNode} (h : tree.skeleton[i]? = some node) :
    ∃ placed, tree.nodes[i]? = some placed ∧ placed.toTreeNode = node := by
  rw [skeleton, List.getElem?_map, Array.getElem?_toList] at h
  exact Option.map_eq_some_iff.1 h

section

variable {tree : LayoutTree α} {f g : Formula} {i j : Nat} {parent : Option Nat}

theorem toTreeNode_eq (h : f.StandsAt tree.skeleton i parent) {node : PlacedNode α}
    (hnode : tree.nodes[i]? = some node) : node.toTreeNode = f.treeNode i parent := by
  have hskeleton := h.node
  rw [skeleton, List.getElem?_map, Array.getElem?_toList, hnode] at hskeleton
  exact Option.some.inj hskeleton

theorem isChild_iff (h : f.StandsAt tree.skeleton i parent) (j : Nat) :
    tree.IsChild i j ↔ ∃ g, (g, j) ∈ f.placedChildren i := by
  obtain ⟨placed, hplaced, htree⟩ := exists_of_skeleton h.node
  have hchildren : placed.children = (f.placedChildren i).map Prod.snd := by rw [htree, Formula.treeNode]
  simp [IsChild, hplaced, hchildren]

/-- What stands below a formula are the positions of its nodes. -/
theorem below_iff_of_standsAt (h : f.StandsAt tree.skeleton i parent) (j : Nat) :
    Relation.ReflTransGen tree.IsChild i j ↔ i ≤ j ∧ j < i + f.size := by
  induction f using Formula.induction_children generalizing i parent with
  | h f ih =>
    have hpos := f.size_pos
    constructor
    · intro hbelow
      rcases Relation.ReflTransGen.cases_head hbelow with rfl | ⟨child, hchild, hbelow⟩
      · omega
      · obtain ⟨g, hg⟩ := (isChild_iff h child).1 hchild
        have hbounds := Formula.placedChild_bounds hg
        have hrange := (ih g (Formula.mem_children_of_placed hg) (h.child_of_mem hg)).1 hbelow
        omega
    · rintro ⟨hlow, hhigh⟩
      by_cases hij : i = j
      · rw [hij]
      · obtain ⟨g, child, hg, hrange⟩ := Formula.exists_placedChild (f := f) (by omega : i < j) hhigh
        have hbelow := (ih g (Formula.mem_children_of_placed hg) (h.child_of_mem hg)).2 hrange
        exact .head ((isChild_iff h child).2 ⟨g, hg⟩) hbelow

/-- Behind its root, every node of a formula has a parent in it that lists it. -/
theorem exists_parent (h : f.StandsAt tree.skeleton i parent) (hlow : i < j) (hhigh : j < i + f.size) :
    ∃ q, tree.HasParent j q ∧ tree.IsChild q j := by
  induction f using Formula.induction_children generalizing i parent with
  | h f ih =>
    obtain ⟨g, child, hg, hrange⟩ := Formula.exists_placedChild hlow hhigh
    have hchild := h.child_of_mem hg
    by_cases hj : child = j
    · obtain ⟨placed, hplaced, htree⟩ := exists_of_skeleton hchild.node
      refine ⟨i, ⟨placed, hj ▸ hplaced, ?_⟩, (isChild_iff h j).2 ⟨g, hj ▸ hg⟩⟩
      rw [htree]
      rfl
    · exact ih g (Formula.mem_children_of_placed hg) hchild (by omega) hrange.2

theorem exists_standsAt (h : f.StandsAt tree.skeleton 0 none) (hi : i < f.size) :
    ∃ (g : Formula) (parent : Option Nat), g.StandsAt tree.skeleton i parent := by
  rw [← Formula.length_occurrencesBelow f []] at hi
  obtain ⟨q, hq⟩ := h.of_occurrence [] (List.getElem?_eq_getElem hi)
  rw [Nat.zero_add] at hq
  exact ⟨_, q, hq⟩

theorem hasParent_iff_isChild (h : f.StandsAt tree.skeleton 0 none) (hsize : tree.nodes.size = f.size) (i j : Nat) :
    tree.HasParent j i ↔ tree.IsChild i j := by
  constructor
  · rintro ⟨placed, hplaced, hparent⟩
    have hj := (Array.getElem?_eq_some_iff.1 hplaced).1
    by_cases hj0 : j = 0
    · -- The root has no parent.
      rw [toTreeNode_eq h (hj0 ▸ hplaced)] at hparent
      cases hparent
    · -- A node has one link only, so its parent is the node that lists it.
      obtain ⟨q, ⟨placed', hplaced', hparent'⟩, hchild⟩ := exists_parent h (Nat.pos_of_ne_zero hj0) (by omega)
      rw [hplaced] at hplaced'
      cases hplaced'
      rw [hparent] at hparent'
      cases hparent'
      exact hchild
  · intro hchild
    have hi : i < tree.nodes.size := by
      obtain ⟨placed, hplaced, -⟩ := hchild
      exact (Array.getElem?_eq_some_iff.1 hplaced).1
    obtain ⟨g, q, hg⟩ := exists_standsAt h (hsize ▸ hi)
    obtain ⟨k, hk⟩ := (isChild_iff hg j).1 hchild
    obtain ⟨child, hchild, htree⟩ := exists_of_skeleton (hg.child_of_mem hk).node
    refine ⟨child, hchild, ?_⟩
    rw [htree]
    rfl

theorem parent_eq_none_iff (h : f.StandsAt tree.skeleton 0 none) (hsize : tree.nodes.size = f.size)
    {node : PlacedNode α} (hnode : tree.nodes[j]? = some node) : node.parent = none ↔ j = 0 := by
  have hj := (Array.getElem?_eq_some_iff.1 hnode).1
  by_cases hj0 : j = 0
  · have htree := toTreeNode_eq h (hj0 ▸ hnode)
    simp [hj0, htree, Formula.treeNode, TreeNode.ofFormula]
  · obtain ⟨q, ⟨node', hnode', hparent⟩, -⟩ := exists_parent h (Nat.pos_of_ne_zero hj0) (by omega)
    rw [hnode] at hnode'
    cases hnode'
    simp [hj0, hparent]

/-- The edge that ends at a position. -/
def edgeTo? (tree : LayoutTree α) (child : Nat) : Option Edge := do
  let node ← tree.nodes[child]?
  let parent ← node.parent
  return ⟨parent, child⟩

theorem edgeTo?_eq_some_iff (tree : LayoutTree α) (child : Nat) (e : Edge) :
    tree.edgeTo? child = some e ↔ e.child = child ∧ tree.HasParent child e.parent := by
  unfold edgeTo? HasParent
  cases hnode : tree.nodes[child]? with
  | none => simp
  | some node =>
      cases hparent : node.parent with
      | none => simp [hparent]
      | some parent =>
          simp only [Option.bind_eq_bind, Option.bind_some, hparent, Option.pure_def, Option.some.injEq,
            exists_eq_left']
          constructor
          · rintro rfl
            exact ⟨rfl, rfl⟩
          · rintro ⟨rfl, rfl⟩
            rfl

theorem mem_edges (tree : LayoutTree α) (e : Edge) : e ∈ tree.edges ↔ tree.HasParent e.child e.parent := by
  show e ∈ (List.range tree.nodes.size).filterMap tree.edgeTo? ↔ _
  simp only [List.mem_filterMap, edgeTo?_eq_some_iff, List.mem_range]
  constructor
  · rintro ⟨child, -, rfl, h⟩
    exact h
  · intro h
    obtain ⟨node, hnode, -⟩ := id h
    exact ⟨e.child, (Array.getElem?_eq_some_iff.1 hnode).1, rfl, h⟩

theorem children_edges_eq (h : f.StandsAt tree.skeleton 0 none) (hsize : tree.nodes.size = f.size) :
    tree.edges.map Edge.child = List.range' 1 (f.size - 1) := by
  have hrange : List.range tree.nodes.size = 0 :: List.range' 1 (f.size - 1) := by
    rw [hsize, List.range_eq_range', ← Nat.sub_add_cancel f.size_pos, List.range'_succ, Nat.add_sub_cancel]
  -- The root is the only position that no edge ends at.
  have hroot : tree.edgeTo? 0 = none := by
    obtain ⟨root, hroot, htree⟩ := exists_of_skeleton h.node
    simp [edgeTo?, hroot, htree, Formula.treeNode, TreeNode.ofFormula]
  have hchild : ∀ j ∈ List.range' 1 (f.size - 1), (tree.edgeTo? j).map Edge.child = some j := by
    intro j hj
    obtain ⟨hlow, hhigh⟩ := List.mem_range'_1.1 hj
    obtain ⟨q, hparent, -⟩ := exists_parent h (by omega : 0 < j) (by omega)
    rw [(edgeTo?_eq_some_iff tree j ⟨q, j⟩).2 ⟨rfl, hparent⟩]
    rfl
  calc tree.edges.map Edge.child
    _ = ((List.range tree.nodes.size).filterMap tree.edgeTo?).map Edge.child := rfl
    _ = (List.range' 1 (f.size - 1)).filterMap fun j => (tree.edgeTo? j).map Edge.child := by
      rw [hrange, List.filterMap_cons_none hroot, List.map_filterMap]
    _ = (List.range' 1 (f.size - 1)).filterMap some := List.filterMap_congr hchild
    _ = List.range' 1 (f.size - 1) := List.filterMap_some

theorem connector_of_mem [Scalar α] {e : Edge} (hparent : tree.HasParent e.child e.parent)
    (hchild : tree.IsChild e.parent e.child) : ∃ parent child, tree.nodes[e.parent]? = some parent ∧
    tree.nodes[e.child]? = some child ∧ tree.connector? e = some (parent.bottomAnchor, child.topAnchor) := by
  obtain ⟨child, hc, -⟩ := hparent
  obtain ⟨parent, hp, -⟩ := hchild
  refine ⟨parent, child, hp, hc, ?_⟩
  simp [connector?, hp, hc]

end

end LayoutTree

namespace Formula

/-- The layout of a formula keeps its nodes and their links. -/
theorem skeleton_layout [Scalar α] (f : Formula) (config : Config α) :
    (f.layout config).skeleton = f.treeNodes 0 none := by
  rw [LayoutTree.skeleton, f.layout_nodes, List.toList_toArray, toTreeNode_placedNodes]

theorem standsAt_layout [Scalar α] (f : Formula) (config : Config α) :
    f.StandsAt (f.layout config).skeleton 0 none := by
  rw [skeleton_layout]
  exact .refl f

theorem size_layout [Scalar α] (f : Formula) (config : Config α) : (f.layout config).nodes.size = f.size := by
  have hlength := congrArg List.length (f.skeleton_layout config)
  simpa [LayoutTree.skeleton] using hlength

end Formula

namespace AnnotatedFormula

/-- The layout of a validated formula mirrors it, whatever the measures are. -/
theorem mirrors_layout [Scalar α] {a : AnnotatedFormula} (h : a.IsValidated) (config : Config α) :
    (a.formula.layout config).Mirrors a.formula := by
  have hstands := a.formula.standsAt_layout config
  have hsize := a.formula.size_layout config
  have hcount := a.formula.nodeCount_eq_size
  have hlinks := LayoutTree.hasParent_iff_isChild hstands hsize
  have hedges := LayoutTree.children_edges_eq hstands hsize
  constructor
  · rw [hcount, hsize]
  · intro i o ho
    have hmeasured : o.node.Measured o.ancestors.length := Formula.Measured.of_occurrence [] h.measured ho
    obtain ⟨q, hq⟩ := hstands.of_occurrence [] ho
    rw [Nat.zero_add] at hq
    obtain ⟨node, hnode, htree⟩ := LayoutTree.exists_of_skeleton hq.node
    exact ⟨node, hnode, PlacedNode.shows_of_eq hmeasured htree⟩
  · exact hlinks
  · intro j node hnode
    exact LayoutTree.parent_eq_none_iff hstands hsize hnode
  · intro i o ho j
    obtain ⟨q, hq⟩ := hstands.of_occurrence [] ho
    rw [Nat.zero_add] at hq
    rw [o.node.nodeCount_eq_size]
    exact LayoutTree.below_iff_of_standsAt hq j
  · intro e
    rw [LayoutTree.mem_edges, hlinks]
  · rw [hcount, hedges]
  · rw [hcount, ← List.length_map, hedges, List.length_range']
  · intro e he
    have hparent := (LayoutTree.mem_edges _ e).1 he
    exact LayoutTree.connector_of_mem hparent ((hlinks e.parent e.child).1 hparent)

/-- The tree of `¬p ∧ q` has four nodes, of which the second one has a child. -/
theorem mirrors_layout_of_conjunction : ∃ a, parse "¬p ∧ q" = .ok a ∧ a.IsValidated ∧
    (a.formula.layout (default : Config Single)).nodes.toList.map (·.children) = [[1, 3], [2], [], []] ∧
      (a.formula.layout (default : Config Single)).Mirrors a.formula := by
  have hchildren : (parse "¬p ∧ q").toOption.map (fun a => (a.formula.layout (default : Config Single)).nodes.toList.map
      (·.children)) = some [[1, 3], [2], [], []] := by
    decide +kernel
  obtain ⟨a, ha, hvalid, hlists⟩ := exists_parse_of_map hchildren
  exact ⟨a, ha, hvalid, hlists, mirrors_layout hvalid default⟩

end AnnotatedFormula

end FormulaDiagram
