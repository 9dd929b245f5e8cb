import Mathlib.Data.List.Basic
import FormulaDiagram.Layout.Arena
import FormulaDiagram.Proofs.Nodes.Basic

/-!
What the arena of a formula holds. A formula that is added behind other nodes fills one stretch of positions with its
own nodes in pre-order, and of the nodes before it only its parent changes, which gets one child more. So the loop
over waiting formulas does what a recursion on the formula says, in which every node knows where its children will
stand from the number of nodes in between.
-/

namespace FormulaDiagram

namespace Formula

/-- The children of a formula that stands at a position, with the positions at which they stand. -/
def placedChildren (position : Nat) : Formula → List (Formula × Nat)
  | .atom _ _ => []
  | .negation _ operand => [(operand, position + 1)]
  | .binary _ _ left right => [(left, position + 1), (right, position + 1 + left.size)]
  | .quantified _ _ _ body => [(body, position + 1)]

/-- The node of a formula that stands at a position, with the positions of its children. -/
def treeNode (position : Nat) (parent : Option Nat) (f : Formula) : TreeNode :=
  { TreeNode.ofFormula f parent with children := (f.placedChildren position).map (·.2) }

/-- The nodes of a formula that stands at a position, in pre-order. -/
def treeNodes (position : Nat) (parent : Option Nat) : Formula → List TreeNode
  | f@(.atom _ _) => [f.treeNode position parent]
  | f@(.negation _ operand) =>
    f.treeNode position parent :: operand.treeNodes (position + 1) (some position)
  | f@(.binary _ _ left right) =>
    f.treeNode position parent :: (left.treeNodes (position + 1) (some position) ++
      right.treeNodes (position + 1 + left.size) (some position))
  | f@(.quantified _ _ _ body) =>
    f.treeNode position parent :: body.treeNodes (position + 1) (some position)

@[simp] theorem length_treeNodes (f : Formula) (position : Nat) (parent : Option Nat) :
    (f.treeNodes position parent).length = f.size := by
  induction f generalizing position parent with
  | atom => rfl
  | negation facts operand ih => simp [treeNodes, size, ih]
  | binary facts connective left right ihl ihr => simp [treeNodes, size, ihl, ihr]
  | quantified facts quantifier bound body ih => simp [treeNodes, size, ih]

end Formula

namespace Arena

variable {nodes : Array TreeNode}

/-- Adds a position to the children of a node, if there is one. -/
def link (parent : Option Nat) (child : Nat) (nodes : Array TreeNode) : Array TreeNode :=
  match parent with
  | none => nodes
  | some p => nodes.modify p fun node => { node with children := node.children ++ [child] }

@[simp] theorem size_link (parent : Option Nat) (child : Nat) : (link parent child nodes).size = nodes.size := by
  cases parent with
  | none => rfl
  | some p => exact Array.size_modify

theorem link_append {parent : Option Nat} (h : ∀ p ∈ parent, p < nodes.size) (child : Nat) (behind : Array TreeNode) :
    link parent child (nodes ++ behind) = link parent child nodes ++ behind := by
  cases parent with
  | none => rfl
  | some p =>
      have hp : p < nodes.size := h p rfl
      apply Array.ext_getElem?
      intro i
      simp only [link, Array.getElem?_modify, Array.getElem?_append, Array.size_modify]
      grind

theorem link_at (child : Nat) (node : TreeNode) (behind : List TreeNode) :
    link (some nodes.size) child (nodes ++ (node :: behind).toArray) =
      nodes ++ ({ node with children := node.children ++ [child] } :: behind).toArray := by
  apply Array.ext_getElem?
  intro i
  simp only [link, Array.getElem?_modify, Array.getElem?_append]
  grind

theorem add_eq {node : TreeNode} (h : ∀ p ∈ node.parent, p < nodes.size) :
    add nodes node = link node.parent nodes.size nodes ++ [node].toArray := by
  rw [← link_append h]
  cases hp : node.parent <;> simp [add, link, hp]

/-- Adding a formula appends its nodes and makes it a child of its parent. -/
def Adds (f : Formula) : Prop :=
  ∀ (parent : Option Nat) (nodes : Array TreeNode) (rest : List (Formula × Option Nat)),
    (∀ p ∈ parent, p < nodes.size) →
      fill ((f, parent) :: rest) nodes =
        fill rest (link parent nodes.size nodes ++ (f.treeNodes nodes.size parent).toArray)

theorem fill_root (f : Formula) {parent : Option Nat} (h : ∀ p ∈ parent, p < nodes.size)
    (rest : List (Formula × Option Nat)) :
    fill ((f, parent) :: rest) nodes =
      fill (f.children.map (·, some (link parent nodes.size nodes).size) ++ rest)
        (link parent nodes.size nodes ++ [TreeNode.ofFormula f parent].toArray) := by
  rw [fill, add_eq h, size_link]
  rfl

theorem Adds.child {f : Formula} (h : Adds f) (before : Array TreeNode) (node : TreeNode) (below : List TreeNode)
    (rest : List (Formula × Option Nat)) :
    fill ((f, some before.size) :: rest) (before ++ (node :: below).toArray) =
      fill rest (before ++ ({ node with children := node.children ++ [before.size + 1 + below.length] } ::
        (below ++ f.treeNodes (before.size + 1 + below.length) (some before.size))).toArray) := by
  have hsize : (before ++ (node :: below).toArray).size = before.size + 1 + below.length := by
    simp only [Array.size_append, List.size_toArray, List.length_cons]
    omega
  have hparent : ∀ p ∈ some before.size, p < (before ++ (node :: below).toArray).size := by
    rintro p ⟨⟩
    omega
  rw [h _ _ _ hparent, hsize, link_at]
  simp

theorem Adds.only {f g : Formula} (h : Adds g) (hchildren : f.children = [g])
    (hnodes : ∀ position parent, f.treeNodes position parent =
      { TreeNode.ofFormula f parent with children := [position + 1] } :: g.treeNodes (position + 1) (some position)) :
    Adds f := by
  intro parent nodes rest hparent
  obtain ⟨before, hbefore⟩ : ∃ before, before = link parent nodes.size nodes := ⟨_, rfl⟩
  have hsize : before.size = nodes.size := by rw [hbefore, size_link]
  rw [fill_root _ hparent, ← hbefore, ← hsize, hchildren, List.map_cons, List.map_nil, List.singleton_append, h.child,
    hnodes]
  rfl

theorem adds (f : Formula) : Adds f := by
  -- Each child finds the parent right in front of what was added below it so far, so it is linked there.
  induction f with
  | atom facts a =>
      intro parent nodes rest h
      rw [fill_root _ h]
      rfl
  | negation facts operand ih => exact ih.only rfl fun _ _ => rfl
  | binary facts connective left right ihl ihr =>
      intro parent nodes rest h
      obtain ⟨before, hbefore⟩ : ∃ before, before = link parent nodes.size nodes := ⟨_, rfl⟩
      have hsize : before.size = nodes.size := by rw [hbefore, size_link]
      rw [fill_root _ h, ← hbefore, ← hsize, Formula.children, List.map_cons, List.map_cons, List.map_nil,
        List.cons_append, List.singleton_append, ihl.child, ihr.child, List.nil_append, Formula.length_treeNodes]
      rfl
  | quantified facts quantifier bound body ih => exact ih.only rfl fun _ _ => rfl

end Arena

namespace Formula

/-! ### Where formulas stand -/

section

variable {f g : Formula} {position child : Nat}

theorem children_placedChildren (f : Formula) (position : Nat) :
    (f.placedChildren position).map Prod.fst = f.children := by
  cases f <;> rfl

theorem mem_children_of_placed (h : (g, child) ∈ f.placedChildren position) : g ∈ f.children := by
  rw [← children_placedChildren f position]
  exact List.mem_map_of_mem h

/-- The stretch of a child lies behind the root in that of the formula. -/
theorem placedChild_bounds (h : (g, child) ∈ f.placedChildren position) :
    position < child ∧ child + g.size ≤ position + f.size := by
  cases f with
  | atom => cases h
  | negation facts operand =>
      obtain ⟨rfl, rfl⟩ := Prod.mk.inj (List.mem_singleton.1 h)
      rw [size]
      omega
  | binary facts connective left right =>
      rw [size]
      rcases List.mem_pair.1 h with h | h
      all_goals
        obtain ⟨rfl, rfl⟩ := Prod.mk.inj h
        omega
  | quantified facts quantifier bound body =>
      obtain ⟨rfl, rfl⟩ := Prod.mk.inj (List.mem_singleton.1 h)
      rw [size]
      omega

/-- Every position behind the root is in the stretch of a child. -/
theorem exists_placedChild {i : Nat} (hlow : position < i) (hhigh : i < position + f.size) :
    ∃ g child, (g, child) ∈ f.placedChildren position ∧ child ≤ i ∧ i < child + g.size := by
  cases f with
  | atom =>
      simp only [size] at hhigh
      omega
  | negation facts operand =>
      simp only [size] at hhigh
      exact ⟨operand, position + 1, by simp [placedChildren], by omega, by omega⟩
  | binary facts connective left right =>
      simp only [size] at hhigh
      by_cases hi : i < position + 1 + left.size
      · exact ⟨left, position + 1, by simp [placedChildren], by omega, hi⟩
      · exact ⟨right, position + 1 + left.size, by simp [placedChildren], by omega, by omega⟩
  | quantified facts quantifier bound body =>
      simp only [size] at hhigh
      exact ⟨body, position + 1, by simp [placedChildren], by omega, by omega⟩

end

/-- The nodes of the formula stand in a list from a position on. -/
def StandsAt (nodes : List TreeNode) (position : Nat) (parent : Option Nat) (f : Formula) : Prop :=
  f.treeNodes position parent <+: nodes.drop position

theorem prefix_behind {β : Type} (above : List β) {below list : List β} {position : Nat}
    (h : above ++ below <+: list.drop position) : below <+: list.drop (position + above.length) := by
  obtain ⟨rest, h⟩ := h
  refine ⟨rest, ?_⟩
  rw [← List.drop_drop, ← h, List.append_assoc, List.drop_left]

namespace StandsAt

variable {nodes : List TreeNode} {position child : Nat} {parent : Option Nat} {f g : Formula}

theorem refl (f : Formula) : StandsAt (f.treeNodes 0 none) 0 none f := List.prefix_refl _

theorem node (h : StandsAt nodes position parent f) : nodes[position]? = some (f.treeNode position parent) := by
  obtain ⟨behind, h⟩ := h
  have hhead : nodes[position]? = (f.treeNodes position parent ++ behind)[0]? := by
    rw [h, List.getElem?_drop, Nat.add_zero]
  rw [hhead]
  cases f <;> rfl

theorem child_of_mem (h : StandsAt nodes position parent f) (hg : (g, child) ∈ f.placedChildren position) :
    StandsAt nodes child (some position) g := by
  cases f with
  | atom => cases hg
  | negation facts operand =>
      obtain ⟨rfl, rfl⟩ := Prod.mk.inj (List.mem_singleton.1 hg)
      exact prefix_behind [_] h
  | binary facts connective left right =>
      have hboth := prefix_behind [_] h
      rcases List.mem_pair.1 hg with hg | hg
      · obtain ⟨rfl, rfl⟩ := Prod.mk.inj hg
        exact (List.prefix_append _ _).trans hboth
      · obtain ⟨rfl, rfl⟩ := Prod.mk.inj hg
        have hright := prefix_behind _ hboth
        rw [length_treeNodes] at hright
        exact hright
  | quantified facts quantifier bound body =>
      obtain ⟨rfl, rfl⟩ := Prod.mk.inj (List.mem_singleton.1 hg)
      exact prefix_behind [_] h

end StandsAt

/-- The arena of a formula holds its nodes from the first position on. -/
theorem arena_eq (f : Formula) : f.arena = (f.treeNodes 0 none).toArray := by
  have h := Arena.adds f none #[] [] nofun
  rw [Arena.fill, Arena.link, Array.empty_append] at h
  exact h

end Formula

end FormulaDiagram
