import FormulaDiagram.Proofs.Printing.Names
import FormulaDiagram.Proofs.Validation.Occurrences

/-!
Which formulas there are. A formula comes from the constructors, from validation, or out of another formula, so every
node of it knows the number of its atoms. After validation every node is therefore annotated with that number and
with the number of nodes above it, whatever annotations the parts had before.
-/

namespace FormulaDiagram

namespace Formula

/-- The formula was put together by the constructors, or validated, or is a part of such a formula. -/
inductive Reachable : Formula → Prop where
  | ofAtom (a : Atom) (span : Span) : Reachable (ofAtom a span)
  | not {f : Formula} (span : Span) : Reachable f → Reachable (not f span)
  | joinAt {f g : Formula} (connective : Connective) (span : Span) : Reachable f → Reachable g →
      Reachable (joinAt connective f g span)
  | quantify {f : Formula} (quantifier : Quantifier) (bound : BoundVariable) (span : Span) : Reachable f →
      Reachable (quantify quantifier bound f span)
  | child {f g : Formula} : Reachable f → g ∈ f.children → Reachable g
  | validated {f : Formula} {a : AnnotatedFormula} : Reachable f → f.validate = .ok a → Reachable a.formula

theorem Built.reachable {f : Formula} (h : Built f) : Reachable f := by
  induction h with
  | ofAtom a span => exact .ofAtom a span
  | not span _ ih => exact .not span ih
  | joinAt connective span _ _ ihf ihg => exact .joinAt connective span ihf ihg
  | quantify quantifier bound span _ ih => exact .quantify quantifier bound span ih

/-- Every node knows the number of its atoms. -/
def Counted (f : Formula) : Prop := ∀ g ∈ f.preorder, g.leaves = g.atoms.length

section

variable {f g : Formula}

theorem counted_iff : Counted f ↔ f.leaves = f.atoms.length ∧ ∀ g ∈ f.children, Counted g := forall_mem_preorder_iff

theorem Counted.root (h : Counted f) : f.leaves = f.atoms.length := (counted_iff.1 h).1

theorem leaves_annotate (f : Formula) (depth : Nat) (scope : List BoundVariable) :
    (f.annotate depth scope).leaves = f.leaves := by
  cases f <;> rfl

theorem leafCount_annotate (f : Formula) (depth : Nat) (scope : List BoundVariable) :
    (Formula.annotation (f.annotate depth scope)).leafCount = f.leaves := by
  cases f <;> rfl

theorem depth_annotate (f : Formula) (depth : Nat) (scope : List BoundVariable) :
    (Formula.annotation (f.annotate depth scope)).depth = depth := by
  cases f <;> rfl

/-- The children are annotated one level further down, below the variable that the root binds. -/
theorem children_annotate (f : Formula) (depth : Nat) (scope : List BoundVariable) :
    (f.annotate depth scope).children = f.children.map (annotate (depth + 1) (f.bound?.toList ++ scope)) := by
  cases f <;> rfl

theorem Counted.annotate (h : Counted f) (depth : Nat) (scope : List BoundVariable) :
    Counted (f.annotate depth scope) := by
  induction f using induction_children generalizing depth scope with
  | h f ih =>
    obtain ⟨hroot, hchildren⟩ := counted_iff.1 h
    refine counted_iff.2 ⟨by rw [leaves_annotate, hroot, atoms_annotate], ?_⟩
    rw [children_annotate]
    exact List.forall_mem_map.2 fun g hg => ih g hg (hchildren g hg) _ _

theorem Reachable.counted (h : Reachable f) : Counted f := by
  induction h with
  | ofAtom a span => exact counted_iff.2 ⟨rfl, nofun⟩
  | not span _ ih => exact counted_iff.2 ⟨ih.root, List.forall_mem_singleton.2 ih⟩
  | @joinAt f g connective span _ _ ihf ihg =>
      refine counted_iff.2 ⟨?_, List.forall_mem_cons.2 ⟨ihf, List.forall_mem_singleton.2 ihg⟩⟩
      show f.leaves + g.leaves = (f.atoms ++ g.atoms).length
      rw [List.length_append, ihf.root, ihg.root]
  | quantify quantifier bound span _ ih => exact counted_iff.2 ⟨ih.root, List.forall_mem_singleton.2 ih⟩
  | child _ hg ih => exact (counted_iff.1 ih).2 _ hg
  | @validated f a _ ha ih =>
      rw [validate_eq] at ha
      cases ha
      exact ih.annotate 0 []

/-- Every node is annotated with the number of its atoms and with its depth, where the root has the given one. -/
inductive Measured : Nat → Formula → Prop where
  | node {depth : Nat} {f : Formula} : f.annotation.leafCount = f.atoms.length → f.annotation.depth = depth →
      (∀ g ∈ f.children, Measured (depth + 1) g) → Measured depth f

theorem Counted.measured (h : Counted f) (depth : Nat) (scope : List BoundVariable) :
    Measured depth (f.annotate depth scope) := by
  induction f using induction_children generalizing depth scope with
  | h f ih =>
    obtain ⟨hroot, hchildren⟩ := counted_iff.1 h
    refine .node ?_ (depth_annotate f depth scope) ?_
    · rw [leafCount_annotate, hroot, atoms_annotate]
    · rw [children_annotate]
      exact List.forall_mem_map.2 fun g hg => ih g hg (hchildren g hg) _ _

theorem length_atoms_pos (f : Formula) : 0 < f.atoms.length := by
  induction f with
  | atom facts a => exact Nat.one_pos
  | negation facts operand ih => exact ih
  | binary facts connective left right ihl ihr =>
      rw [atoms, List.length_append]
      omega
  | quantified facts quantifier bound body ih => exact ih

end

end Formula

/-- The formula was validated. -/
def AnnotatedFormula.IsValidated (a : AnnotatedFormula) : Prop := ∃ f : Formula, f.Reachable ∧ f.validate = .ok a

theorem AnnotatedFormula.IsValidated.measured {a : AnnotatedFormula} (h : a.IsValidated) : a.formula.Measured 0 := by
  obtain ⟨f, hf, ha⟩ := h
  rw [Formula.validate_eq] at ha
  cases ha
  exact hf.counted.measured 0 []

/-- What is parsed is validated. -/
theorem isValidated_of_parse {source : String} {a : AnnotatedFormula} (h : parse source = .ok a) : a.IsValidated := by
  obtain ⟨tokens, f, ht, hf, -⟩ := exists_of_parse h
  obtain ⟨n, -, hs⟩ := (Grammar.ofTokens_iff tokens source.utf8ByteSize f).1 hf
  have hbuilt : f.Built := hs.built
  rw [parse_eq_ok ht hf] at h
  cases h
  exact ⟨f, hbuilt.reachable, Formula.validate_eq f⟩

theorem exists_parse_of_map {β : Type} {source : String} {φ : AnnotatedFormula → β} {b : β}
    (h : (parse source).toOption.map φ = some b) : ∃ a, parse source = .ok a ∧ a.IsValidated ∧ φ a = b := by
  cases ha : parse source with
  | error e =>
      rw [ha] at h
      cases h
  | ok a =>
      rw [ha] at h
      exact ⟨a, rfl, isValidated_of_parse ha, Option.some.inj h⟩

end FormulaDiagram
