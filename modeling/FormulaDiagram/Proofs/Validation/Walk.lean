import FormulaDiagram.Formula.Validation
import FormulaDiagram.Proofs.Nodes.Basic

/-!
What the walk of validation computes. It visits the nodes in pre-order, each in the scope of the variables that are
bound above it: the nodes that are pending keep no more variables than the node that is visited, so the part of the
scope that they will need is never dropped before they are reached. The annotations and the warnings are therefore
those that a recursion on the formula gives, which carries the scope down.
-/

namespace FormulaDiagram

namespace Formula

/-- The visits of the nodes of a formula at some depth and in the scope of variables, in pre-order. -/
def visits (depth : Nat) (scope : List BoundVariable) : Formula → List Visit
  | f@(.atom _ _) => [⟨f, depth, scope⟩]
  | f@(.negation _ operand) => ⟨f, depth, scope⟩ :: operand.visits (depth + 1) scope
  | f@(.binary _ _ left right) =>
    ⟨f, depth, scope⟩ :: (left.visits (depth + 1) scope ++ right.visits (depth + 1) scope)
  | f@(.quantified _ _ bound body) => ⟨f, depth, scope⟩ :: body.visits (depth + 1) (bound :: scope)

end Formula

namespace Validation

variable {m n : Nat} {scope : List BoundVariable} {pending : List PendingNode}

/-! ### Scopes that are cut -/

theorem length_outermost (h : n ≤ scope.length) : (outermost n scope).length = n := by
  rw [outermost, List.length_drop]
  omega

theorem outermost_length (scope : List BoundVariable) : outermost scope.length scope = scope := by
  rw [outermost, Nat.sub_self, List.drop_zero]

theorem outermost_outermost (h : m ≤ n) (scope : List BoundVariable) :
    outermost m (outermost n scope) = outermost m scope := by
  have hcount : scope.length - n + ((scope.length - (scope.length - n)) - m) = scope.length - m := by omega
  rw [outermost, outermost, outermost, List.drop_drop, List.length_drop, hcount]

theorem outermost_cons (bound : BoundVariable) (h : n ≤ scope.length) :
    outermost n (bound :: scope) = outermost n scope := by
  rw [outermost, outermost, List.length_cons, Nat.succ_sub h, List.drop_succ_cons]

/-! ### The walk -/

/-- The visits that are still to be made. -/
def visitsOf (scope : List BoundVariable) (pending : List PendingNode) : List Visit :=
  pending.flatMap fun p => p.node.visits p.depth (outermost p.scopeLength scope)

theorem visitsOf_cons (scope : List BoundVariable) (p : PendingNode) (pending : List PendingNode) :
    visitsOf scope (p :: pending) =
      p.node.visits p.depth (outermost p.scopeLength scope) ++ visitsOf scope pending := List.flatMap_cons

/-- Nodes that are visited later keep no more variables, and the first one no more than so many. -/
def Descending : Nat → List PendingNode → Prop
  | _, [] => True
  | n, p :: pending => p.scopeLength ≤ n ∧ Descending p.scopeLength pending

theorem Descending.mono (h : Descending m pending) (hm : m ≤ n) : Descending n pending := by
  cases pending with
  | nil => trivial
  | cons p pending => exact ⟨Nat.le_trans h.1 hm, h.2⟩

theorem Descending.le (h : Descending n pending) : ∀ p ∈ pending, p.scopeLength ≤ n := by
  induction pending generalizing n with
  | nil => nofun
  | cons p pending ih =>
      obtain ⟨hp, h⟩ := h
      exact List.forall_mem_cons.2 ⟨hp, fun q hq => Nat.le_trans (ih h q hq) hp⟩

/-- What was bound elsewhere has no part in later visits. -/
theorem visitsOf_outermost (h : Descending n pending) (scope : List BoundVariable) :
    visitsOf (outermost n scope) pending = visitsOf scope pending := by
  have hle := h.le
  clear h
  induction pending with
  | nil => rfl
  | cons p pending ih =>
      obtain ⟨hp, hle⟩ := List.forall_mem_cons.1 hle
      rw [visitsOf_cons, visitsOf_cons, outermost_outermost hp, ih hle]

theorem visitsOf_below (bound : BoundVariable) (h : Descending scope.length pending) :
    visitsOf (bound :: scope) pending = visitsOf scope pending := by
  have hscope : outermost scope.length (bound :: scope) = scope := by
    rw [outermost_cons bound (Nat.le_refl _), outermost_length]
  rw [← visitsOf_outermost h (bound :: scope), hscope]

/-- The walk makes the visits of all that is pending, one node after the other. -/
theorem walk_eq (h : Descending scope.length pending) (visited : List Visit) :
    walk scope pending visited = visited.reverse ++ visitsOf scope pending := by
  -- A step leaves what is pending descending: the nodes below keep what their parent keeps, or its variable besides.
  fun_induction walk scope pending visited with
  | case1 scope visited => exact (List.append_nil _).symm
  | case2 scope visited depth n pending outer facts a visited' ih =>
      obtain ⟨hn, h⟩ := h
      have hlength : outer.length = n := length_outermost hn
      rw [ih (hlength ▸ h), visitsOf_outermost h, visitsOf_cons]
      simp [visited', Formula.visits, outer]
  | case3 scope visited depth n pending outer facts operand visited' ih =>
      obtain ⟨hn, h⟩ := h
      have hlength : outer.length = n := length_outermost hn
      have hbelow : Descending n (⟨operand, depth + 1, n⟩ :: pending) := ⟨Nat.le_refl n, h⟩
      rw [ih (hlength ▸ hbelow), visitsOf_outermost hbelow, visitsOf_cons, visitsOf_cons]
      simp [visited', Formula.visits, outer]
  | case4 scope visited depth n pending outer facts connective left right visited' ih =>
      obtain ⟨hn, h⟩ := h
      have hlength : outer.length = n := length_outermost hn
      have hbelow : Descending n (⟨left, depth + 1, n⟩ :: ⟨right, depth + 1, n⟩ :: pending) :=
        ⟨Nat.le_refl n, Nat.le_refl n, h⟩
      rw [ih (hlength ▸ hbelow), visitsOf_outermost hbelow, visitsOf_cons, visitsOf_cons, visitsOf_cons]
      simp [visited', Formula.visits, outer]
  | case5 scope visited depth n pending outer facts quantifier bound body visited' ih =>
      obtain ⟨hn, h⟩ := h
      have hlength : outer.length = n := length_outermost hn
      have hlater : Descending outer.length pending := hlength ▸ h
      have hkeep : outermost (outer.length + 1) (bound :: outer) = bound :: outer := outermost_length (bound :: outer)
      rw [ih ⟨Nat.le_refl _, hlater.mono (Nat.le_succ _)⟩, visitsOf_cons, visitsOf_cons, visitsOf_below bound hlater,
        visitsOf_outermost h]
      simp [visited', Formula.visits, hkeep, outer]

theorem walk_root (f : Formula) : walk [] [⟨f, 0, 0⟩] [] = f.visits 0 [] := by
  have hroot : Descending ([] : List BoundVariable).length [⟨f, 0, 0⟩] := ⟨Nat.le_refl 0, trivial⟩
  rw [walk_eq hroot]
  exact List.append_nil _

end Validation

namespace Formula

/-! ### The recursion -/

/-- The formula with annotations, at some depth and in the scope of variables, the innermost first. -/
def annotate (depth : Nat) (scope : List BoundVariable) : Formula → Formula
  | .atom facts a => .atom (annotatedFacts facts depth false false) a
  | .negation facts operand =>
    .negation (annotatedFacts facts depth false false) (operand.annotate (depth + 1) scope)
  | .binary facts connective left right =>
    .binary (annotatedFacts facts depth false false) connective (left.annotate (depth + 1) scope)
      (right.annotate (depth + 1) scope)
  | .quantified facts quantifier bound body =>
    .quantified (annotatedFacts facts depth (isVacuous bound body) (bound.outer? scope).isSome) quantifier bound
      (body.annotate (depth + 1) (bound :: scope))

/-- The warnings about the formula in the scope of variables, from left to right, in front of later ones. -/
def warningsOnto (scope : List BoundVariable) : Formula → List Diagnostic → List Diagnostic
  | .atom _ _, later => later
  | .negation _ operand, later => operand.warningsOnto scope later
  | .binary _ _ left right, later => left.warningsOnto scope (right.warningsOnto scope later)
  | .quantified facts quantifier bound body, later =>
    let vacuous := if isVacuous bound body then [vacuousWarning quantifier bound facts.span.start] else []
    let shadowing := (bound.outer? scope).toList.map (shadowingWarning bound)
    vacuous ++ shadowing ++ body.warningsOnto (bound :: scope) later

/-- Annotations leave the places of nodes as they are. -/
theorem spans_annotate (f : Formula) (depth : Nat) (scope : List BoundVariable) :
    (f.annotate depth scope).preorder.map Formula.span = f.preorder.map Formula.span := by
  induction f generalizing depth scope with
  | atom facts a => rfl
  | negation facts operand ih =>
      rw [annotate, preorder_negation, preorder_negation, List.map_cons, List.map_cons, ih]
      rfl
  | binary facts connective left right ihl ihr =>
      rw [annotate, preorder_binary, preorder_binary, List.map_cons, List.map_cons, List.map_append, List.map_append,
        ihl, ihr]
      rfl
  | quantified facts quantifier bound body ih =>
      rw [annotate, preorder_quantified, preorder_quantified, List.map_cons, List.map_cons, ih]
      rfl

/-- The facts that the visits find make the formula the annotated one. -/
theorem refill_visits (f : Formula) (depth : Nat) (scope : List BoundVariable) (rest : List NodeFacts) :
    f.refill ((f.visits depth scope).map Visit.facts ++ rest) = (f.annotate depth scope, rest) := by
  induction f generalizing depth scope rest with
  | atom facts a => rfl
  | negation facts operand ih =>
      rw [visits, List.map_cons, List.cons_append, refill, ih]
      rfl
  | binary facts connective left right ihl ihr =>
      simp only [visits, List.map_cons, List.map_append, List.cons_append, List.append_assoc, refill, ihl, ihr]
      rfl
  | quantified facts quantifier bound body ih =>
      rw [visits, List.map_cons, List.cons_append, refill, ih]
      rfl

theorem warnings_visits (f : Formula) (depth : Nat) (scope : List BoundVariable) (later : List Diagnostic) :
    (f.visits depth scope).flatMap Visit.warnings ++ later = f.warningsOnto scope later := by
  induction f generalizing depth scope later with
  | atom facts a => rfl
  | negation facts operand ih => exact ih (depth + 1) scope later
  | binary facts connective left right ihl ihr =>
      rw [visits, List.flatMap_cons, List.flatMap_append, warningsOnto, ← ihl (depth + 1), ← ihr (depth + 1)]
      simp [Visit.warnings]
  | quantified facts quantifier bound body ih =>
      rw [visits, List.flatMap_cons, List.append_assoc, ih]
      rfl

/-- No warning is an error. -/
theorem warningsOnto_isError (f : Formula) (scope : List BoundVariable) (later : List Diagnostic) :
    (f.warningsOnto scope later).any (·.isError) = later.any (·.isError) := by
  induction f generalizing scope later with
  | atom => rfl
  | negation facts operand ih => exact ih scope later
  | binary facts connective left right ihl ihr =>
      rw [warningsOnto, ihl, ihr]
  | quantified facts quantifier bound body ih =>
      have hshadow (outer : Option BoundVariable) :
          ((outer.toList.map (shadowingWarning bound)).any (·.isError)) = false := by
        cases outer <;> rfl
      rw [warningsOnto, List.any_append, ih, List.any_append, hshadow]
      split <;> rfl

/-- Validation returns every formula, annotated. -/
theorem validate_eq (f : Formula) : f.validate = .ok ⟨f.annotate 0 [], f.warningsOnto [] []⟩ := by
  have hrefill := f.refill_visits 0 [] []
  have hwarnings := f.warnings_visits 0 [] []
  rw [List.append_nil] at hrefill hwarnings
  rw [validate, Validation.walk_root, hrefill, hwarnings, warningsOnto_isError]
  rfl

end Formula

end FormulaDiagram
