import Mathlib.Data.List.Forall2
import FormulaDiagram.Lexer
import FormulaDiagram.Proofs.Grammar.LongestMatch
import FormulaDiagram.Proofs.Nodes.Atoms
import FormulaDiagram.Proofs.Validation.Walk

/-!
What validation says of a formula that was read. An occurrence is a node together with the nodes above it, and
everything that validation finds is a fact about one occurrence: how many atoms are below it, how many nodes are
above it, whether a quantifier's variable occurs in an atom of its body, and whether a quantifier above binds the
same name. The warnings are those of the occurrences, in pre-order.
-/

namespace FormulaDiagram

namespace Formula

/-- The variable that a quantifier at the root binds. -/
def bound? : Formula → Option BoundVariable
  | .quantified _ _ bound _ => some bound
  | _ => none

/-- The root is a quantifier whose variable occurs in no atom of its body. -/
def BindsNothing : Formula → Prop
  | .quantified _ _ bound body => ∀ a ∈ body.atoms, ¬a.Occurs bound.name
  | _ => False

instance : (f : Formula) → Decidable f.BindsNothing
  | .quantified _ _ bound body => inferInstanceAs (Decidable (∀ a ∈ body.atoms, ¬a.Occurs bound.name))
  | .atom _ _ | .negation _ _ | .binary _ _ _ _ => inferInstanceAs (Decidable False)

end Formula

/-- What there is to find at a quantifier: that it binds nothing, or that its variable shadows another one. -/
inductive Finding where
  | bindsNothing (quantifier : Quantifier) (bound : BoundVariable)
  | shadows (bound outer : BoundVariable)

/-- The diagnostic is the warning about what was found. That of a shadowed variable points at the variable of the
quantifier itself, and besides at the one that it shadows. -/
def Finding.ReportedBy : Finding → Diagnostic → Prop
  | .bindsNothing quantifier bound, d =>
    d.severity = .warning ∧ d.topic.map Topic.code = some "W200" ∧
      d.message = "quantifier `" ++ quantifier.glyph ++ bound.name ++ "` binds nothing"
  | .shadows bound outer, d =>
    d.severity = .warning ∧ d.topic.map Topic.code = some "W201" ∧
      d.message = "variable `" ++ bound.name ++ "` shadows an outer binding" ∧
      d.labels.map (fun l => (l.isPrimary, l.span)) = [(true, bound.span), (false, outer.span)]

/-- A node and the nodes above it, the innermost first. -/
structure Occurrence where
  node : Formula
  ancestors : List Formula

namespace Occurrence

variable (o : Occurrence)

/-- The variables that the quantifiers above the node bind, the innermost first. -/
def scope : List BoundVariable := o.ancestors.filterMap Formula.bound?

/-- The node is a quantifier below another one that binds the same name. -/
def Shadows : Prop := ∃ bound, o.node.bound? = some bound ∧ ∃ outer ∈ o.scope, outer.name = bound.name

/-- The innermost variable that is bound above under the same name. -/
def outer? (bound : BoundVariable) : Option BoundVariable := o.scope.find? (·.name == bound.name)

/-- What there is to find at the node: that it binds nothing, and then the innermost variable that it shadows. -/
def findings : List Finding :=
  match o.node with
  | .quantified _ quantifier bound _ =>
    (if o.node.BindsNothing then [.bindsNothing quantifier bound] else []) ++
      (o.outer? bound).toList.map (.shadows bound)
  | _ => []

/-- The warnings about the node, in the words of validation. -/
def warnings : List Diagnostic :=
  match o.node with
  | .quantified facts quantifier bound _ =>
    (if o.node.BindsNothing then [vacuousWarning quantifier bound facts.span.start] else []) ++
      (o.outer? bound).toList.map (shadowingWarning bound)
  | _ => []

/-- The warnings report what there is to find. -/
theorem reported : List.Forall₂ Finding.ReportedBy o.findings o.warnings := by
  obtain ⟨node, ancestors⟩ := o
  cases node with
  | quantified facts quantifier bound body =>
      apply List.rel_append
      · split
        · exact .cons ⟨rfl, rfl, rfl⟩ .nil
        · exact .nil
      · cases outer? _ bound with
        | none => exact .nil
        | some outer => exact .cons ⟨rfl, rfl, rfl, rfl⟩ .nil
  | _ => exact .nil

theorem reported_all (os : List Occurrence) :
    List.Forall₂ Finding.ReportedBy (os.flatMap findings) (os.flatMap warnings) := by
  induction os with
  | nil => exact .nil
  | cons o os ih => exact List.rel_append o.reported ih

/-- The annotation of the node says how the node occurs. -/
structure Annotated : Prop where
  leafCount : o.node.annotation.leafCount = o.node.atoms.length
  depth : o.node.annotation.depth = o.ancestors.length
  vacuous : o.node.annotation.vacuous ↔ o.node.BindsNothing
  shadows : o.node.annotation.shadows ↔ o.Shadows

end Occurrence

namespace Formula

/-- The occurrences of the nodes of a formula that stands below other nodes, in pre-order. -/
def occurrencesBelow (above : List Formula) : Formula → List Occurrence
  | f@(.atom _ _) => [⟨f, above⟩]
  | f@(.negation _ operand) => ⟨f, above⟩ :: operand.occurrencesBelow (f :: above)
  | f@(.binary _ _ left right) =>
    ⟨f, above⟩ :: (left.occurrencesBelow (f :: above) ++ right.occurrencesBelow (f :: above))
  | f@(.quantified _ _ _ body) => ⟨f, above⟩ :: body.occurrencesBelow (f :: above)

/-- The occurrences of the nodes of a formula, in pre-order. -/
def occurrences (f : Formula) : List Occurrence := f.occurrencesBelow []

theorem nodes_occurrencesBelow (f : Formula) (above : List Formula) :
    (f.occurrencesBelow above).map Occurrence.node = f.preorder := by
  induction f generalizing above with
  | atom facts a => rfl
  | negation facts operand ih => simp [occurrencesBelow, ih]
  | binary facts connective left right ihl ihr => simp [occurrencesBelow, ihl, ihr]
  | quantified facts quantifier bound body ih => simp [occurrencesBelow, ih]

/-- The formula without annotations. -/
def unannotated : Formula → Formula
  | .atom facts a => .atom { facts with annotation := {} } a
  | .negation facts operand => .negation { facts with annotation := {} } operand.unannotated
  | .binary facts connective left right =>
    .binary { facts with annotation := {} } connective left.unannotated right.unannotated
  | .quantified facts quantifier bound body =>
    .quantified { facts with annotation := {} } quantifier bound body.unannotated

/-! ### Annotations -/

variable {f : Formula}

theorem atoms_annotate (f : Formula) (depth : Nat) (scope : List BoundVariable) :
    (f.annotate depth scope).atoms = f.atoms := by
  induction f generalizing depth scope with
  | atom facts a => rfl
  | negation facts operand ih => exact ih _ _
  | binary facts connective left right ihl ihr => rw [annotate, atoms, ihl, ihr, atoms]
  | quantified facts quantifier bound body ih => exact ih _ _

/-- Validation changes nothing but annotations. -/
theorem Built.unannotated_annotate (h : Built f) (depth : Nat) (scope : List BoundVariable) :
    (f.annotate depth scope).unannotated = f := by
  induction h generalizing depth scope with
  | ofAtom a span => rfl
  | not span _ ih =>
      rw [Formula.not, annotate, unannotated, ih]
      rfl
  | joinAt connective span _ _ ihf ihg =>
      rw [Formula.joinAt, annotate, unannotated, ihf, ihg]
      rfl
  | quantify quantifier bound span _ ih =>
      rw [Formula.quantify, annotate, unannotated, ih]
      rfl

/-- A quantifier is found to be vacuous if its variable occurs in no atom of its body. -/
theorem isVacuous_iff (facts : NodeFacts) (quantifier : Quantifier) (bound : BoundVariable) (body : Formula)
    (depth : Nat) (scope : List BoundVariable) :
    isVacuous bound body ↔ ((quantified facts quantifier bound body).annotate depth scope).BindsNothing := by
  show _ ↔ ∀ a ∈ (body.annotate _ _).atoms, ¬a.Occurs bound.name
  rw [isVacuous, Bool.not_eq_true', Bool.eq_false_iff, Ne, mentions_iff, atoms_annotate]
  simp

/-- A node that binds no variable is annotated with its depth and the number of its atoms alone. -/
theorem Built.annotation_annotate (h : Built f) (hb : f.bound? = none) (depth : Nat) (scope : List BoundVariable) :
    Formula.annotation (f.annotate depth scope) = ⟨f.leaves, depth, false, false⟩ := by
  cases h with
  | quantify => cases hb
  | _ => rfl

theorem bound?_annotate (f : Formula) (depth : Nat) (scope : List BoundVariable) :
    (f.annotate depth scope).bound? = f.bound? := by
  cases f <;> rfl

theorem not_bindsNothing (hb : f.bound? = none) : ¬f.BindsNothing := by
  cases f with
  | quantified => cases hb
  | _ => exact not_false

/-- The root of a formula that stands below other nodes is annotated as it occurs there. -/
theorem Built.annotated_root (h : Built f) (above : List Formula) :
    Occurrence.Annotated ⟨f.annotate above.length (above.filterMap bound?), above⟩ := by
  have hleaves : f.leaves = (f.annotate above.length (above.filterMap bound?)).atoms.length := by
    rw [atoms_annotate, h.leaves]
  by_cases hb : f.bound? = none
  · have hb' := (bound?_annotate f above.length (above.filterMap bound?)).trans hb
    have ha := h.annotation_annotate hb above.length (above.filterMap bound?)
    constructor
    · rw [ha, hleaves]
    · rw [ha]
    · simp [ha, not_bindsNothing hb']
    · simp [ha, Occurrence.Shadows, hb']
  · cases h with
    | @quantify body quantifier bound span h =>
        refine ⟨hleaves, rfl, ?_, ?_⟩
        · exact isVacuous_iff _ quantifier bound body _ _
        · show (false || (bound.outer? _).isSome) ↔ ∃ b, some bound = some b ∧ _
          rw [Bool.false_or, BoundVariable.outer?, List.find?_isSome]
          simp [Occurrence.scope]
    | _ => exact absurd rfl hb

/-- The recursion keeps the depth and the scope of the nodes above, so it annotates every occurrence as it is. -/
theorem Built.annotated (h : Built f) (above : List Formula) :
    ∀ o ∈ (f.annotate above.length (above.filterMap bound?)).occurrencesBelow above, o.Annotated := by
  induction h generalizing above with
  | ofAtom a span => exact List.forall_mem_singleton.2 ((Built.ofAtom a span).annotated_root above)
  | not span h ih => exact List.forall_mem_cons.2 ⟨(Built.not span h).annotated_root above, ih _⟩
  | joinAt connective span hf hg ihf ihg =>
      have hroot := (Built.joinAt connective span hf hg).annotated_root above
      exact List.forall_mem_cons.2 ⟨hroot, List.forall_mem_append.2 ⟨ihf _, ihg _⟩⟩
  | quantify quantifier bound span h ih =>
      have hroot := (Built.quantify quantifier bound span h).annotated_root above
      exact List.forall_mem_cons.2 ⟨hroot, ih _⟩

/-! ### Warnings -/

/-- The recursion warns of the occurrences one after the other. -/
theorem warningsOnto_eq (f : Formula) (above : List Formula) (later : List Diagnostic) :
    f.warningsOnto (above.filterMap bound?) later =
      ((f.annotate above.length (above.filterMap bound?)).occurrencesBelow above).flatMap Occurrence.warnings ++
        later := by
  induction f generalizing above later with
  | atom facts a => rfl
  | negation facts operand ih =>
      have ho := ih ((negation facts operand).annotate above.length (above.filterMap bound?) :: above) later
      exact ho
  | binary facts connective left right ihl ihr =>
      let root := (binary facts connective left right).annotate above.length (above.filterMap bound?)
      have hl := ihl (root :: above) (right.warningsOnto (above.filterMap bound?) later)
      have hr := ihr (root :: above) later
      have hscope : (root :: above).filterMap bound? = above.filterMap bound? := rfl
      rw [hscope] at hl hr
      rw [warningsOnto, hl, hr, annotate, occurrencesBelow, List.flatMap_cons, List.flatMap_append,
        List.append_assoc, List.append_assoc]
      rfl
  | quantified facts quantifier bound body ih =>
      let root := (quantified facts quantifier bound body).annotate above.length (above.filterMap bound?)
      have hbody := ih (root :: above) later
      have hscope : (root :: above).filterMap bound? = bound :: above.filterMap bound? := rfl
      rw [hscope] at hbody
      have hroot : (⟨root, above⟩ : Occurrence).warnings =
          (if isVacuous bound body then [vacuousWarning quantifier bound facts.span.start] else []) ++
            (bound.outer? (above.filterMap bound?)).toList.map (shadowingWarning bound) := by
        have hvacuous := (isVacuous_iff facts quantifier bound body above.length (above.filterMap bound?)).symm
        exact congrArg (· ++ _) (ite_congr (propext hvacuous) (fun _ => rfl) fun _ => rfl)
      rw [warningsOnto, hbody, ← hroot, ← List.append_assoc]
      rfl

/-- Validation succeeds on every formula that is read from tokens, and changes nothing but annotations. Every node's
annotation says how many atoms are below it and how many nodes above, whether it binds a variable that does not
occur in its body, and whether it binds a name that is bound above. The warnings are, over the quantifiers in
pre-order, that one binds nothing, and then that its variable shadows the innermost one of the same name. -/
theorem validate_ofTokens {tokens : List Token} {sourceLength : Nat}
    (h : Formula.ofTokens tokens sourceLength = .ok f) :
    ∃ a, f.validate = .ok a ∧ a.formula.unannotated = f ∧
      a.formula.occurrences.map Occurrence.node = a.formula.preorder ∧
      (∀ o ∈ a.formula.occurrences, o.Annotated) ∧
      List.Forall₂ Finding.ReportedBy (a.formula.occurrences.flatMap Occurrence.findings) a.warnings := by
  obtain ⟨n, -, hs⟩ := (Grammar.ofTokens_iff tokens sourceLength f).1 h
  have hbuilt : f.Built := hs.built
  refine ⟨_, validate_eq f, hbuilt.unannotated_annotate 0 [], nodes_occurrencesBelow _ [], hbuilt.annotated [], ?_⟩
  have hwarnings : f.warningsOnto [] [] = (f.annotate 0 []).occurrences.flatMap Occurrence.warnings :=
    (warningsOnto_eq f [] []).trans (List.append_nil _)
  show List.Forall₂ _ _ (f.warningsOnto [] [])
  rw [hwarnings]
  exact Occurrence.reported_all _

/-- In `∀x.∃x.p` both quantifiers bind nothing, and the inner one shadows the outer one. -/
theorem validate_ofTokens_of_nested_quantifiers :
    ∃ f a, Formula.ofTokens (lex "∀x.∃x.p").tokens 11 = .ok f ∧ f.validate = .ok a ∧
      a.warnings.map (fun d => d.topic.map Topic.code) = [some "W200", some "W200", some "W201"] ∧
      (∀ o ∈ a.formula.occurrences, o.Annotated) ∧
      List.Forall₂ Finding.ReportedBy (a.formula.occurrences.flatMap Occurrence.findings) a.warnings := by
  have hcodes : ((Formula.ofTokens (lex "∀x.∃x.p").tokens 11).toOption.bind (·.validate.toOption)).map
      (·.warnings.map fun d => d.topic.map Topic.code) = some [some "W200", some "W200", some "W201"] := by
    decide +kernel
  cases hf : Formula.ofTokens (lex "∀x.∃x.p").tokens 11 with
  | error e =>
      rw [hf] at hcodes
      cases hcodes
  | ok f =>
      obtain ⟨a, ha, -, -, hannotated, hreported⟩ := validate_ofTokens hf
      rw [hf, Except.toOption, Option.bind_some, ha] at hcodes
      exact ⟨f, a, rfl, ha, Option.some.inj hcodes, hannotated, hreported⟩

end Formula

end FormulaDiagram
