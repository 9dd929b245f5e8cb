import Mathlib.Data.List.Basic
import FormulaDiagram.Layout.Tree
import FormulaDiagram.Proofs.Layout.Arena

/-!
The places of the nodes by recursion on the formula. The loop over positions settles one node and then writes the left
sides of its children, which stand further down: when a node is reached its left side is final, and what is written
later lies behind it. So the nodes before a position are placed for good, and of the nodes behind it the roots of the
formulas that are next have their left sides. The children of a node begin where the node begins, each where the one
before it ends, operation for operation, whatever the scalars are.
-/

namespace FormulaDiagram

variable {α : Type} [Scalar α]

namespace Formula

/-- The number of units that the span of a formula takes. -/
def units (f : Formula) : Nat := max f.annotation.leafCount 1

/-- The node of a formula that knows its left side and is not settled yet. -/
def waitingNode (config : Config α) (position : Nat) (parent : Option Nat) (left : α) (f : Formula) : PlacedNode α :=
  { Layout.unplaced config (f.treeNode position parent) with left }

/-- The nodes of a formula before the loop reaches it: the left side of its root is known, the nodes below are as
they were. -/
def waitingNodes (config : Config α) (position : Nat) (parent : Option Nat) (left : α) (f : Formula) :
    List (PlacedNode α) :=
  f.waitingNode config position parent left :: (f.treeNodes position parent).tail.map (Layout.unplaced config)

/-- The node of a formula at its place. -/
def placedNode (config : Config α) (m : Layout.Measures α) (position : Nat) (parent : Option Nat) (left : α)
    (f : Formula) : PlacedNode α :=
  Layout.settle m (f.waitingNode config position parent left)

/-- The nodes of a formula that stands at a position and begins at a left side, at their places, in pre-order. -/
def placedNodes (config : Config α) (m : Layout.Measures α) (position : Nat) (parent : Option Nat) (left : α) :
    Formula → List (PlacedNode α)
  | f@(.atom _ _) => [f.placedNode config m position parent left]
  | f@(.negation _ operand) =>
    f.placedNode config m position parent left :: operand.placedNodes config m (position + 1) (some position) left
  | f@(.binary _ _ leftOperand right) =>
    f.placedNode config m position parent left ::
      (leftOperand.placedNodes config m (position + 1) (some position) left ++
        right.placedNodes config m (position + 1 + leftOperand.size) (some position)
          (left + Layout.extent m.unit leftOperand.units))
  | f@(.quantified _ _ _ body) =>
    f.placedNode config m position parent left :: body.placedNodes config m (position + 1) (some position) left

def measures (f : Formula) (config : Config α) : Layout.Measures α :=
  Layout.measures config (f.arena.map fun node => Layout.nodeSize config node.label node.kind)

section

variable (config : Config α)

@[simp] theorem toTreeNode_placedNode (f : Formula) (m : Layout.Measures α) (position : Nat) (parent : Option Nat)
    (left : α) : (f.placedNode config m position parent left).toTreeNode = f.treeNode position parent := rfl

/-- Places apart, the nodes of the layout are those of the arena. -/
theorem toTreeNode_placedNodes (f : Formula) (m : Layout.Measures α) (position : Nat) (parent : Option Nat) (left : α) :
    (f.placedNodes config m position parent left).map PlacedNode.toTreeNode = f.treeNodes position parent := by
  induction f generalizing position parent left with
  | atom => rfl
  | negation facts operand ih => simp [placedNodes, treeNodes, ih]
  | binary facts connective leftOperand right ihl ihr => simp [placedNodes, treeNodes, ihl, ihr]
  | quantified facts quantifier bound body ih => simp [placedNodes, treeNodes, ih]

@[simp] theorem length_placedNodes (f : Formula) (m : Layout.Measures α) (position : Nat) (parent : Option Nat)
    (left : α) :
    (f.placedNodes config m position parent left).length = f.size := by
  rw [← length_treeNodes f position parent, ← toTreeNode_placedNodes config f m position parent left, List.length_map]

@[simp] theorem length_waitingNodes (f : Formula) (position : Nat) (parent : Option Nat) (left : α) :
    (f.waitingNodes config position parent left).length = f.size := by
  rw [waitingNodes, List.length_cons, List.length_map, List.length_tail, length_treeNodes,
    Nat.sub_add_cancel f.size_pos]

/-- What is not reached yet begins at zero. -/
theorem waitingNodes_zero (f : Formula) (position : Nat) (parent : Option Nat) :
    f.waitingNodes config position parent Scalar.zero =
      (f.treeNodes position parent).map (Layout.unplaced config) := by
  cases f <;> rfl

end

end Formula

namespace Layout

variable {config : Config α} {m : Measures α} {before behind : List (PlacedNode α)} {position : Nat}
  {parent : Option Nat}

theorem getElem?_at {β : Type} {before : List β} (h : before.length = position) (node : β) (behind : List β) :
    (before ++ node :: behind).toArray[position]? = some node := by
  rw [List.getElem?_toArray, ← h, List.getElem?_append_right (Nat.le_refl _), Nat.sub_self, List.getElem?_cons_zero]

theorem setIfInBounds_at {β : Type} {before : List β} (h : before.length = position) (node new : β)
    (behind : List β) :
    (before ++ node :: behind).toArray.setIfInBounds position new = (before ++ new :: behind).toArray := by
  rw [List.setIfInBounds_toArray, ← h, List.set_append_right _ _ (Nat.le_refl _), Nat.sub_self, List.set_cons_zero]

/-- A child that was not reached yet gets its left side, and nothing else changes. -/
theorem handOut_at (h : before.length = position) (unit cursor : α) (f : Formula) (behind : List (PlacedNode α)) :
    handOut unit
        ((before ++ ((f.treeNodes position parent).map (unplaced config) ++ behind)).toArray, cursor) position =
      ((before ++ (f.waitingNodes config position parent cursor ++ behind)).toArray,
        cursor + extent unit f.units) := by
  rw [← f.waitingNodes_zero, Formula.waitingNodes, List.cons_append, handOut, getElem?_at h]
  dsimp only
  rw [setIfInBounds_at h]
  rfl

/-- At the root of a formula the root is settled, and its span is handed out to its children. -/
theorem placeAt_eq (h : before.length = position) (f : Formula) (left : α) (behind : List (PlacedNode α)) :
    placeAt m (before ++ (f.waitingNodes config position parent left ++ behind)).toArray position =
      (((f.placedChildren position).map (·.2)).foldl (handOut m.unit)
        ((before ++ [f.placedNode config m position parent left] ++
          ((f.treeNodes position parent).tail.map (unplaced config) ++ behind)).toArray, left)).1 := by
  rw [Formula.waitingNodes, List.cons_append, placeAt, getElem?_at h, List.append_assoc before]
  dsimp only
  rw [setIfInBounds_at h]
  rfl

/-- Visiting the positions of a formula places its nodes as the recursion says, and leaves the others as they are. -/
def Places (config : Config α) (m : Measures α) (f : Formula) : Prop :=
  ∀ (position : Nat) (parent : Option Nat) (before behind : List (PlacedNode α)) (left : α),
    before.length = position →
      (List.range' position f.size).foldl (placeAt m)
          (before ++ (f.waitingNodes config position parent left ++ behind)).toArray =
        (before ++ (f.placedNodes config m position parent left ++ behind)).toArray

theorem Places.only {f g : Formula} (hg : Places config m g)
    (hchildren : ∀ position, f.placedChildren position = [(g, position + 1)])
    (hbelow : ∀ position parent, (f.treeNodes position parent).tail = g.treeNodes (position + 1) (some position))
    (hnodes : ∀ position parent (left : α), f.placedNodes config m position parent left =
      f.placedNode config m position parent left :: g.placedNodes config m (position + 1) (some position) left)
    (hsize : f.size = g.size + 1) : Places config m f := by
  intro position parent before behind left h
  let root := f.placedNode config m position parent left
  have hroot : (before ++ [root]).length = position + 1 := by simp [h]
  have hstep : placeAt m (before ++ (f.waitingNodes config position parent left ++ behind)).toArray position =
      (before ++ [root] ++ (g.waitingNodes config (position + 1) (some position) left ++ behind)).toArray := by
    rw [placeAt_eq h, hchildren, hbelow]
    exact congrArg Prod.fst (handOut_at hroot m.unit left g behind)
  rw [hsize, List.range'_succ, List.foldl_cons, hstep, hg _ _ _ behind left hroot, hnodes]
  simp [root]

theorem places (config : Config α) (m : Measures α) (f : Formula) : Places config m f := by
  -- A right operand gets its left side first and waits with it while the left operand is placed.
  induction f with
  | atom facts a =>
      intro position parent before behind left h
      rw [Formula.size, List.range'_one, List.foldl_cons, List.foldl_nil, placeAt_eq h, List.append_assoc]
      rfl
  | negation facts operand ih => exact ih.only (fun _ => rfl) (fun _ _ => rfl) (fun _ _ _ => rfl) rfl
  | binary facts connective leftOperand right ihl ihr =>
      intro position parent before behind left h
      let root := (Formula.binary facts connective leftOperand right).placedNode config m position parent left
      let next := left + extent m.unit leftOperand.units
      let waitingLeft := leftOperand.waitingNodes config (position + 1) (some position) left
      let waitingRight := right.waitingNodes config (position + 1 + leftOperand.size) (some position) next
      let placedLeft := leftOperand.placedNodes config m (position + 1) (some position) left
      have hroot : (before ++ [root]).length = position + 1 := by simp [h]
      have hwaiting : (before ++ [root] ++ waitingLeft).length = position + 1 + leftOperand.size := by
        rw [List.length_append, hroot, Formula.length_waitingNodes]
      have hplaced : (before ++ [root] ++ placedLeft).length = position + 1 + leftOperand.size := by
        rw [List.length_append, hroot, Formula.length_placedNodes]
      have hstep : placeAt m (before ++ ((Formula.binary facts connective leftOperand right).waitingNodes config
            position parent left ++ behind)).toArray position =
          (before ++ [root] ++ (waitingLeft ++ (waitingRight ++ behind))).toArray := by
        have hbelow : ((Formula.binary facts connective leftOperand right).treeNodes position parent).tail.map
              (unplaced config) ++ behind =
            (leftOperand.treeNodes (position + 1) (some position)).map (unplaced config) ++
              ((right.treeNodes (position + 1 + leftOperand.size) (some position)).map (unplaced config) ++
                behind) := by
          rw [← List.append_assoc, ← List.map_append]
          rfl
        rw [placeAt_eq h, hbelow, Formula.placedChildren, List.map_cons, List.map_cons, List.map_nil, List.foldl_cons,
          handOut_at hroot, ← List.append_assoc (before ++ [root]), List.foldl_cons, handOut_at hwaiting,
          List.foldl_nil, List.append_assoc]
      have hrange : List.range' position (Formula.binary facts connective leftOperand right).size =
          position :: (List.range' (position + 1) leftOperand.size ++
            List.range' (position + 1 + leftOperand.size) right.size) := by
        rw [Formula.size, List.range'_succ, List.range'_append_1]
      rw [hrange, List.foldl_cons, hstep, List.foldl_append, ihl _ _ _ (waitingRight ++ behind) left hroot,
        ← List.append_assoc (before ++ [root]), ihr _ _ _ behind next hplaced, Formula.placedNodes]
      simp [root, placedLeft, next]
  | quantified facts quantifier bound body ih => exact ih.only (fun _ => rfl) (fun _ _ => rfl) (fun _ _ _ => rfl) rfl

end Layout

namespace Formula

variable (config : Config α)

theorem layout_eq (f : Formula) :
    f.layout config =
      ⟨Layout.place (f.measures config) (f.arena.map (Layout.unplaced config)), (f.measures config).unit⟩ := by
  rw [layout, Layout.ofArena, Array.map_map]
  rfl

theorem layout_unit (f : Formula) : (f.layout config).unit = (f.measures config).unit := by
  rw [layout_eq]

/-- The layout of a formula is that of the recursion, which begins at zero. -/
theorem layout_nodes (f : Formula) :
    (f.layout config).nodes = (f.placedNodes config (f.measures config) 0 none Scalar.zero).toArray := by
  have hwaiting : f.arena.map (Layout.unplaced config) = (f.waitingNodes config 0 none Scalar.zero).toArray := by
    rw [waitingNodes_zero, arena_eq, List.map_toArray]
  have hplaces := Layout.places config (f.measures config) f 0 none [] [] Scalar.zero rfl
  rw [List.append_nil, List.append_nil, List.nil_append, List.nil_append] at hplaces
  rw [layout_eq, hwaiting, Layout.place, List.size_toArray, length_waitingNodes, List.range_eq_range']
  exact hplaces

theorem toTreeNode_mem_arena {config : Config α} {f : Formula} {m : Layout.Measures α} {left : α} {node : PlacedNode α}
    (h : node ∈ f.placedNodes config m 0 none left) : node.toTreeNode ∈ f.arena.toList := by
  rw [arena_eq, ← toTreeNode_placedNodes config f m 0 none left]
  exact List.mem_map_of_mem h

/-! ### Where formulas are laid out -/

/-- The children of a formula that stands at a position and begins at a left side, with their own ones. -/
def laidChildren (unit : α) (position : Nat) (left : α) : Formula → List (Formula × Nat × α)
  | .atom _ _ => []
  | .negation _ operand => [(operand, position + 1, left)]
  | .binary _ _ leftOperand right =>
    [(leftOperand, position + 1, left),
      (right, position + 1 + leftOperand.size, left + Layout.extent unit leftOperand.units)]
  | .quantified _ _ _ body => [(body, position + 1, left)]

/-- The nodes of the formula stand in a list from a position on, and begin at a left side. -/
def LaidAt (config : Config α) (m : Layout.Measures α) (nodes : List (PlacedNode α)) (position : Nat)
    (parent : Option Nat) (left : α) (f : Formula) : Prop :=
  f.placedNodes config m position parent left <+: nodes.drop position

section

variable {config : Config α} {m : Layout.Measures α} {nodes : List (PlacedNode α)} {position child : Nat}
  {parent : Option Nat} {left left' : α} {f g : Formula}

theorem LaidAt.node (h : f.LaidAt config m nodes position parent left) :
    nodes[position]? = some (f.placedNode config m position parent left) := by
  obtain ⟨behind, h⟩ := h
  have hhead : nodes[position]? = (f.placedNodes config m position parent left ++ behind)[0]? := by
    rw [h, List.getElem?_drop, Nat.add_zero]
  rw [hhead]
  cases f <;> rfl

theorem LaidAt.child_of_mem (h : f.LaidAt config m nodes position parent left)
    (hg : (g, child, left') ∈ f.laidChildren m.unit position left) :
    g.LaidAt config m nodes child (some position) left' := by
  cases f with
  | atom => cases hg
  | negation facts operand =>
      cases List.mem_singleton.1 hg
      exact prefix_behind [_] h
  | binary facts connective leftOperand right =>
      have hboth := prefix_behind [_] h
      rcases List.mem_pair.1 hg with hg | hg
      · cases hg
        exact (List.prefix_append _ _).trans hboth
      · cases hg
        have hright := prefix_behind _ hboth
        rw [length_placedNodes] at hright
        exact hright
  | quantified facts quantifier bound body =>
      cases List.mem_singleton.1 hg
      exact prefix_behind [_] h

theorem mem_placedNodes_cases {node : PlacedNode α} (h : node ∈ f.placedNodes config m position parent left) :
    node = f.placedNode config m position parent left ∨
      ∃ g child left', (g, child, left') ∈ f.laidChildren m.unit position left ∧
        node ∈ g.placedNodes config m child (some position) left' := by
  cases f with
  | atom => exact .inl (List.mem_singleton.1 h)
  | negation facts operand =>
      rcases List.mem_cons.1 h with h | h
      · exact .inl h
      · exact .inr ⟨operand, _, _, List.mem_singleton.2 rfl, h⟩
  | binary facts connective leftOperand right =>
      rcases List.mem_cons.1 h with h | h
      · exact .inl h
      · rcases List.mem_append.1 h with h | h
        · exact .inr ⟨leftOperand, _, _, by simp [laidChildren], h⟩
        · exact .inr ⟨right, _, _, by simp [laidChildren], h⟩
  | quantified facts quantifier bound body =>
      rcases List.mem_cons.1 h with h | h
      · exact .inl h
      · exact .inr ⟨body, _, _, List.mem_singleton.2 rfl, h⟩

theorem placed_of_laid {unit : α} (h : (g, child, left') ∈ f.laidChildren unit position left) :
    (g, child) ∈ f.placedChildren position := by
  have hmap : (f.laidChildren unit position left).map (fun c => (c.1, c.2.1)) = f.placedChildren position := by
    cases f <;> rfl
  rw [← hmap]
  exact List.mem_map_of_mem (f := fun c : Formula × Nat × α => (c.1, c.2.1)) h

theorem exists_laid_of_placed (unit : α) (left : α) (h : (g, child) ∈ f.placedChildren position) :
    ∃ left', (g, child, left') ∈ f.laidChildren unit position left := by
  have hmap : f.placedChildren position = (f.laidChildren unit position left).map (fun c => (c.1, c.2.1)) := by
    cases f <;> rfl
  rw [hmap] at h
  obtain ⟨⟨g, child, left'⟩, hg, heq⟩ := List.mem_map.1 h
  cases heq
  exact ⟨left', hg⟩

theorem mem_children_of_laid {unit : α} (h : (g, child, left') ∈ f.laidChildren unit position left) :
    g ∈ f.children :=
  mem_children_of_placed (placed_of_laid h)

/-- What a node lists as a child is the node of a child of its formula. -/
theorem LaidAt.exists_child (h : f.LaidAt config m nodes position parent left) {b : PlacedNode α}
    (hb : nodes[child]? = some b) (hchild : child ∈ (f.placedNode config m position parent left).children) :
    ∃ g left', (g, child, left') ∈ f.laidChildren m.unit position left ∧
      b = g.placedNode config m child (some position) left' := by
  obtain ⟨⟨g, child'⟩, hg, hposition⟩ := List.mem_map.1 hchild
  obtain rfl : child' = child := hposition
  obtain ⟨left', hg⟩ := exists_laid_of_placed m.unit left hg
  have hnode := (h.child_of_mem hg).node
  rw [hb] at hnode
  exact ⟨g, left', hg, Option.some.inj hnode⟩

/-- What holds of a formula with its left side, and then of its children with theirs, holds wherever a node is
placed. -/
theorem exists_of_mem_of_step {P : Formula → α → Prop} {node : PlacedNode α}
    (hstep : ∀ (f : Formula) (position : Nat) (left : α), P f left →
      ∀ g child left', (g, child, left') ∈ f.laidChildren m.unit position left → P g left')
    (hf : P f left) (h : node ∈ f.placedNodes config m position parent left) :
    ∃ g position parent left, P g left ∧ node = placedNode config m position parent left g := by
  induction f using induction_children generalizing position parent left with
  | h f ih =>
    rcases mem_placedNodes_cases h with rfl | ⟨g, child, left', hg, hnode⟩
    · exact ⟨f, position, parent, left, hf, rfl⟩
    · exact ih g (mem_children_of_laid hg) (hstep f position left hf g child left' hg) hnode

theorem exists_of_mem_placedNodes {node : PlacedNode α} (h : node ∈ f.placedNodes config m position parent left) :
    ∃ g position parent left, node = placedNode config m position parent left g := by
  obtain ⟨g, position, parent, left, -, hnode⟩ :=
    exists_of_mem_of_step (P := fun _ _ => True) (fun _ _ _ _ _ _ _ _ => trivial) trivial h
  exact ⟨g, position, parent, left, hnode⟩

end

end Formula

end FormulaDiagram
