import FormulaDiagram.Proofs.Nodes.Reachable

/-!
Formulas that were validated before. A part of a validated formula keeps its annotations, and a formula may be built
around it, so validation meets annotations that were made elsewhere. It writes the number of atoms and the depth anew;
that a quantifier binds nothing depends on its body alone, which never changes, so an old mark is still right; but that
a variable is bound again depends on what stands above, and that mark is never taken away. So an old formula is
validated as a new one of the same structure at the same places, but for the marks of variables that are no longer bound
above.
-/

namespace FormulaDiagram

/-! ### Equality of structure and places -/

namespace Term

mutual

theorem eq_of_equals {t t' : Term} (h : t.equals t') : t = t' := by
  cases t with
  | «variable» name span =>
      cases t' with
      | «variable» name' span' =>
          simp only [equals, Bool.and_eq_true, beq_iff_eq] at h
          obtain ⟨rfl, rfl⟩ := h
          rfl
      | function => cases h
  | function name arguments span =>
      cases t' with
      | «variable» => cases h
      | function name' arguments' span' =>
          simp only [equals, Bool.and_eq_true, beq_iff_eq] at h
          obtain ⟨⟨rfl, rfl⟩, harguments⟩ := h
          rw [eq_of_equalsAll harguments]

theorem eq_of_equalsAll {ts ts' : List Term} (h : equalsAll ts ts') : ts = ts' := by
  cases ts with
  | nil =>
      cases ts' with
      | nil => rfl
      | cons => cases h
  | cons t ts =>
      cases ts' with
      | nil => cases h
      | cons t' ts' =>
          obtain ⟨ht, hts⟩ := Bool.and_eq_true_iff.1 h
          rw [eq_of_equals ht, eq_of_equalsAll hts]

end

theorem eq_of_beq_all {ts ts' : List Term} (h : ts == ts') : ts = ts' := by
  induction ts generalizing ts' with
  | nil =>
      cases ts' with
      | nil => rfl
      | cons => cases h
  | cons t ts ih =>
      cases ts' with
      | nil => cases h
      | cons t' ts' =>
          obtain ⟨ht, hts⟩ := Bool.and_eq_true_iff.1 h
          rw [eq_of_equals ht, ih hts]

end Term

theorem Atom.eq_of_beq {a a' : Atom} (h : a == a') : a = a' := by
  cases a with
  | proposition name =>
      cases a' with
      | proposition name' =>
          obtain rfl : name = name' := beq_iff_eq.1 h
          rfl
      | _ => cases h
  | predicate name arguments =>
      cases a' with
      | predicate name' arguments' =>
          obtain ⟨hname, harguments⟩ := Bool.and_eq_true_iff.1 h
          rw [beq_iff_eq.1 hname, Term.eq_of_beq_all harguments]
      | _ => cases h
  | equality left right negated =>
      cases a' with
      | equality left' right' negated' =>
          obtain ⟨hleft, h⟩ := Bool.and_eq_true_iff.1 h
          obtain ⟨hright, hnegated⟩ := Bool.and_eq_true_iff.1 h
          rw [Term.eq_of_equals hleft, Term.eq_of_equals hright, beq_iff_eq.1 hnegated]
      | _ => cases h

namespace Formula

variable {f g : Formula}

/-- The constructors leave no choice but structure and places. -/
theorem Built.eq_of_equals (hf : Built f) (hg : Built g) (h : f.equals g) : f = g := by
  induction hf generalizing g with
  | ofAtom a span =>
      cases hg with
      | ofAtom a' span' =>
          obtain ⟨hspan, ha⟩ := Bool.and_eq_true_iff.1 h
          obtain rfl : span = span' := beq_iff_eq.1 hspan
          rw [Atom.eq_of_beq ha]
      | _ => cases h
  | not span _ ih =>
      cases hg with
      | not span' hg =>
          obtain ⟨hspan, hoperand⟩ := Bool.and_eq_true_iff.1 h
          obtain rfl : span = span' := beq_iff_eq.1 hspan
          rw [ih hg hoperand]
      | _ => cases h
  | joinAt connective span _ _ ihf ihg =>
      cases hg with
      | joinAt connective' span' hf hg =>
          obtain ⟨h, hleft⟩ := Bool.and_eq_true_iff.1 h
          obtain ⟨h, hright⟩ := Bool.and_eq_true_iff.1 h
          obtain ⟨hspan, hconnective⟩ := Bool.and_eq_true_iff.1 h
          obtain rfl : span = span' := beq_iff_eq.1 hspan
          rw [beq_iff_eq.1 hconnective, ihf hf hleft, ihg hg hright]
      | _ => cases h
  | quantify quantifier bound span _ ih =>
      cases hg with
      | quantify quantifier' bound' span' hg =>
          obtain ⟨h, hbody⟩ := Bool.and_eq_true_iff.1 h
          obtain ⟨h, hbound⟩ := Bool.and_eq_true_iff.1 h
          obtain ⟨hspan, hquantifier⟩ := Bool.and_eq_true_iff.1 h
          obtain rfl : span = span' := beq_iff_eq.1 hspan
          rw [beq_iff_eq.1 hquantifier, beq_iff_eq.1 hbound, ih hg hbody]
      | _ => cases h

/-! ### The formula as if it were new -/

theorem equals_unannotated (f g : Formula) : f.unannotated.equals g = f.equals g := by
  induction f generalizing g with
  | atom => cases g <;> rfl
  | negation facts operand ih => cases g <;> simp [unannotated, equals, ih]
  | binary facts connective left right ihl ihr => cases g <;> simp [unannotated, equals, ihl, ihr]
  | quantified facts quantifier bound body ih => cases g <;> simp [unannotated, equals, ih]

theorem facts_unannotated (f : Formula) : f.unannotated.facts = { f.facts with annotation := {} } := by
  cases f <;> rfl

theorem children_unannotated (f : Formula) : f.unannotated.children = f.children.map unannotated := by
  cases f <;> rfl

theorem bound?_unannotated (f : Formula) : f.unannotated.bound? = f.bound? := by
  cases f <;> rfl

theorem atoms_unannotated (f : Formula) : f.unannotated.atoms = f.atoms := by
  induction f with
  | atom => rfl
  | negation facts operand ih => exact ih
  | binary facts connective left right ihl ihr => rw [unannotated, atoms, ihl, ihr, atoms]
  | quantified facts quantifier bound body ih => exact ih

theorem bindsNothing_unannotated (f : Formula) : f.unannotated.BindsNothing ↔ f.BindsNothing := by
  cases f with
  | quantified facts quantifier bound body =>
      show (∀ a ∈ body.unannotated.atoms, ¬a.Occurs bound.name) ↔ ∀ a ∈ body.atoms, ¬a.Occurs bound.name
      rw [atoms_unannotated]
  | _ => exact Iff.rfl

theorem mentions_unannotated (v : String) (f : Formula) : f.unannotated.mentions v = f.mentions v := by
  rw [Bool.eq_iff_iff, mentions_iff, mentions_iff, atoms_unannotated]

theorem isVacuous_unannotated (bound : BoundVariable) (body : Formula) :
    isVacuous bound body.unannotated = isVacuous bound body := by
  rw [isVacuous, mentions_unannotated, isVacuous]

theorem unannotated_annotate (f : Formula) (depth : Nat) (scope : List BoundVariable) :
    (f.annotate depth scope).unannotated = f.unannotated := by
  induction f generalizing depth scope with
  | atom => rfl
  | negation facts operand ih =>
      rw [annotate, unannotated, unannotated, ih]
      rfl
  | binary facts connective left right ihl ihr =>
      rw [annotate, unannotated, unannotated, ihl, ihr]
      rfl
  | quantified facts quantifier bound body ih =>
      rw [annotate, unannotated, unannotated, ih]
      rfl

theorem Built.child (h : Built f) (hg : g ∈ f.children) : Built g := by
  cases h with
  | ofAtom => cases hg
  | not span h =>
      cases List.mem_singleton.1 hg
      exact h
  | joinAt connective span hl hr =>
      rcases List.mem_pair.1 hg with rfl | rfl
      · exact hl
      · exact hr
  | quantify quantifier bound span h =>
      cases List.mem_singleton.1 hg
      exact h

/-- Without its annotations every formula is one that the constructors give. -/
theorem Reachable.built_unannotated (h : Reachable f) : Built f.unannotated := by
  induction h with
  | ofAtom a span => exact .ofAtom a span
  | @not f span _ ih =>
      have hnew : (Formula.not f span).unannotated = Formula.not f.unannotated span := by
        simp only [Formula.not, unannotated, height, leaves, facts_unannotated]
      rw [hnew]
      exact .not span ih
  | @joinAt f g connective span _ _ ihf ihg =>
      have hnew : (Formula.joinAt connective f g span).unannotated =
          Formula.joinAt connective f.unannotated g.unannotated span := by
        simp only [Formula.joinAt, unannotated, height, leaves, facts_unannotated]
      rw [hnew]
      exact .joinAt connective span ihf ihg
  | @quantify f quantifier bound span _ ih =>
      have hnew : (Formula.quantify quantifier bound f span).unannotated =
          Formula.quantify quantifier bound f.unannotated span := by
        simp only [Formula.quantify, unannotated, height, leaves, facts_unannotated]
      rw [hnew]
      exact .quantify quantifier bound span ih
  | @child f g _ hg ih =>
      apply ih.child
      rw [children_unannotated]
      exact List.mem_map_of_mem hg
  | @validated f a _ ha ih =>
      rw [validate_eq] at ha
      cases ha
      rw [unannotated_annotate]
      exact ih

theorem Reachable.unannotated_eq (hf : Reachable f) (hg : Built g) (h : f == g) : f.unannotated = g :=
  hf.built_unannotated.eq_of_equals hg ((equals_unannotated f g).trans h)

theorem warningsOnto_unannotated (f : Formula) (scope : List BoundVariable) (later : List Diagnostic) :
    f.unannotated.warningsOnto scope later = f.warningsOnto scope later := by
  induction f generalizing scope later with
  | atom => rfl
  | negation facts operand ih => exact ih scope later
  | binary facts connective left right ihl ihr => rw [unannotated, warningsOnto, ihr, ihl, warningsOnto]
  | quantified facts quantifier bound body ih =>
      rw [unannotated, warningsOnto, ih, isVacuous_unannotated, warningsOnto]

/-! ### Marks of quantifiers that bind nothing -/

/-- Every quantifier that is marked as binding nothing binds nothing. -/
def Truthful (f : Formula) : Prop := ∀ g ∈ f.preorder, g.annotation.vacuous → g.BindsNothing

theorem truthful_iff : Truthful f ↔ (f.annotation.vacuous → f.BindsNothing) ∧ ∀ g ∈ f.children, Truthful g :=
  forall_mem_preorder_iff

theorem bindsNothing_annotate (f : Formula) (depth : Nat) (scope : List BoundVariable) :
    (f.annotate depth scope).BindsNothing ↔ f.BindsNothing := by
  cases f with
  | quantified facts quantifier bound body =>
      show (∀ a ∈ (body.annotate _ _).atoms, ¬a.Occurs bound.name) ↔ ∀ a ∈ body.atoms, ¬a.Occurs bound.name
      rw [atoms_annotate]
  | _ => exact Iff.rfl

/-- What validation finds at the root: whether it binds nothing, and whether it binds a variable of the scope. -/
theorem facts_annotate (f : Formula) (depth : Nat) (scope : List BoundVariable) :
    (f.annotate depth scope).facts =
      annotatedFacts f.facts depth (decide f.BindsNothing) (f.bound?.bind (·.outer? scope)).isSome := by
  cases f with
  | quantified facts quantifier bound body =>
      have hvacuous := isVacuous_iff facts quantifier bound body depth scope
      rw [bindsNothing_annotate, ← decide_eq_true_iff (p := BindsNothing _), ← Bool.eq_iff_iff] at hvacuous
      rw [← hvacuous]
      rfl
  | _ => rfl

/-- Validation marks what binds nothing, besides what is marked. -/
theorem vacuous_annotate (f : Formula) (depth : Nat) (scope : List BoundVariable) :
    (Formula.annotation (f.annotate depth scope)).vacuous ↔ f.annotation.vacuous ∨ f.BindsNothing := by
  rw [Formula.annotation, facts_annotate]
  exact Bool.or_eq_true_iff.trans (or_congr Iff.rfl decide_eq_true_iff)

theorem Truthful.annotate (h : Truthful f) (depth : Nat) (scope : List BoundVariable) :
    Truthful (f.annotate depth scope) := by
  induction f using induction_children generalizing depth scope with
  | h f ih =>
    obtain ⟨hroot, hchildren⟩ := truthful_iff.1 h
    refine truthful_iff.2 ⟨?_, ?_⟩
    · rw [vacuous_annotate, bindsNothing_annotate]
      rintro (hold | hnew)
      · exact hroot hold
      · exact hnew
    · rw [children_annotate]
      exact List.forall_mem_map.2 fun g hg => ih g hg (hchildren g hg) _ _

theorem Reachable.truthful (h : Reachable f) : Truthful f := by
  induction h with
  | ofAtom a span => exact truthful_iff.2 ⟨nofun, nofun⟩
  | not span _ ih => exact truthful_iff.2 ⟨nofun, List.forall_mem_singleton.2 ih⟩
  | joinAt connective span _ _ ihf ihg =>
      exact truthful_iff.2 ⟨nofun, List.forall_mem_cons.2 ⟨ihf, List.forall_mem_singleton.2 ihg⟩⟩
  | quantify quantifier bound span _ ih => exact truthful_iff.2 ⟨nofun, List.forall_mem_singleton.2 ih⟩
  | child _ hg ih => exact (truthful_iff.1 ih).2 _ hg
  | validated _ ha ih =>
      rw [validate_eq] at ha
      cases ha
      exact ih.annotate 0 []

theorem vacuous_of_bindsNothing {depth : Nat} {scope : List BoundVariable} :
    ∀ g ∈ (f.annotate depth scope).preorder, g.BindsNothing → g.annotation.vacuous := by
  induction f using induction_children generalizing depth scope with
  | h f ih =>
    refine forall_mem_preorder_iff.2 ⟨fun h => ?_, ?_⟩
    · rw [bindsNothing_annotate] at h
      exact (vacuous_annotate f depth scope).2 (.inr h)
    · rw [children_annotate]
      exact List.forall_mem_map.2 fun g hg => ih g hg

end Formula

/-- In a validated formula the marked quantifiers are those that bind nothing. -/
theorem AnnotatedFormula.IsValidated.vacuous_iff {a : AnnotatedFormula} (h : a.IsValidated) {g : Formula}
    (hg : g ∈ a.formula.preorder) : g.annotation.vacuous ↔ g.BindsNothing := by
  obtain ⟨f, hf, ha⟩ := h
  have htruthful := (hf.validated ha).truthful
  rw [Formula.validate_eq] at ha
  cases ha
  exact ⟨htruthful g hg, Formula.vacuous_of_bindsNothing g hg⟩

/-! ### Annotations beside those of a new formula -/

/-- The annotation of a node that was annotated before: the mark of a variable that is bound again stays. -/
def Annotation.onto (old new : Annotation) : Annotation := { new with shadows := old.shadows || new.shadows }

namespace Formula

variable {f g : Formula}

theorem length_preorder (f : Formula) : f.preorder.length = f.size := by
  induction f with
  | atom => rfl
  | negation facts operand ih => simp [size, ih]
  | binary facts connective left right ihl ihr => simp [size, ihl, ihr]
  | quantified facts quantifier bound body ih => simp [size, ih]

theorem size_annotate_unannotated (f : Formula) (depth : Nat) (scope : List BoundVariable) :
    (f.unannotated.annotate depth scope).size = f.size := by
  induction f generalizing depth scope with
  | atom => rfl
  | negation facts operand ih => simp [unannotated, annotate, size, ih]
  | binary facts connective left right ihl ihr => simp [unannotated, annotate, size, ihl, ihr]
  | quantified facts quantifier bound body ih => simp [unannotated, annotate, size, ih]

theorem facts_annotate_unannotated (f : Formula) (depth : Nat) (scope : List BoundVariable) :
    (f.unannotated.annotate depth scope).facts =
      annotatedFacts { f.facts with annotation := {} } depth (decide f.BindsNothing)
        (f.bound?.bind (·.outer? scope)).isSome := by
  rw [facts_annotate, facts_unannotated, bound?_unannotated]
  simp only [bindsNothing_unannotated]

/-- The old mark of a quantifier that binds nothing adds nothing to the new one. -/
theorem Truthful.vacuous_root (h : Truthful f) :
    (f.annotation.vacuous || decide f.BindsNothing) = decide f.BindsNothing :=
  Bool.or_eq_right_iff_imp.2 fun hold => decide_eq_true ((truthful_iff.1 h).1 hold)

theorem Truthful.annotation_root (h : Truthful f) (depth : Nat) (scope : List BoundVariable) :
    Formula.annotation (f.annotate depth scope) =
      f.annotation.onto (Formula.annotation (f.unannotated.annotate depth scope)) := by
  have hvacuous := h.vacuous_root
  rw [Formula.annotation] at hvacuous ⊢
  rw [Formula.annotation, Formula.annotation, facts_annotate, facts_annotate_unannotated]
  simp [annotatedFacts, Annotation.onto, hvacuous]

/-- Every node is annotated as in a new formula, over the annotation that it had. -/
theorem Truthful.annotations (h : Truthful f) (depth : Nat) (scope : List BoundVariable) :
    (f.annotate depth scope).preorder.map Formula.annotation =
      List.zipWith Annotation.onto (f.preorder.map Formula.annotation)
        ((f.unannotated.annotate depth scope).preorder.map Formula.annotation) := by
  induction f generalizing depth scope with
  | atom facts a => exact congrArg (fun a => [a]) (h.annotation_root depth scope)
  | negation facts operand ih =>
      have hoperand : Truthful operand := (truthful_iff.1 h).2 _ (by simp [children])
      exact congrArg₂ List.cons (h.annotation_root depth scope) (ih hoperand (depth + 1) scope)
  | binary facts connective left right ihl ihr =>
      have hleft : Truthful left := (truthful_iff.1 h).2 _ (by simp [children])
      have hright : Truthful right := (truthful_iff.1 h).2 _ (by simp [children])
      have hlength : (left.preorder.map Formula.annotation).length =
          ((left.unannotated.annotate (depth + 1) scope).preorder.map Formula.annotation).length := by
        rw [List.length_map, List.length_map, length_preorder, length_preorder, size_annotate_unannotated]
      have hbelow := congrArg₂ (· ++ ·) (ihl hleft (depth + 1) scope) (ihr hright (depth + 1) scope)
      rw [← List.zipWith_append hlength, ← List.map_append, ← List.map_append, ← List.map_append] at hbelow
      simp only [Formula.annotate, unannotated, preorder_binary]
      exact congrArg₂ List.cons (h.annotation_root depth scope) hbelow
  | quantified facts quantifier bound body ih =>
      have hbody : Truthful body := (truthful_iff.1 h).2 _ (by simp [children])
      exact congrArg₂ List.cons (h.annotation_root depth scope) (ih hbody (depth + 1) (bound :: scope))

theorem shadows_iff (f : Formula) (above : List Formula) :
    (f.bound?.bind (·.outer? (above.filterMap bound?))).isSome ↔ Occurrence.Shadows ⟨f, above⟩ := by
  rw [Occurrence.Shadows, Occurrence.scope]
  generalize above.filterMap bound? = scope
  cases f.bound? with
  | none => simp
  | some bound => simp [BoundVariable.outer?]

/-- The root is annotated as in a new formula if its mark, where it has one, is right. -/
theorem Truthful.facts_eq_iff (h : Truthful f) (above : List Formula) :
    (f.annotate above.length (above.filterMap bound?)).facts =
        (f.unannotated.annotate above.length (above.filterMap bound?)).facts ↔
      (f.annotation.shadows → Occurrence.Shadows ⟨f, above⟩) := by
  have hvacuous := h.vacuous_root
  rw [facts_annotate, facts_annotate_unannotated, ← shadows_iff]
  rw [Formula.annotation] at hvacuous ⊢
  simp [annotatedFacts, hvacuous]

/-- An old formula is annotated as a new one if no mark of a variable that is bound again has become wrong. -/
theorem Truthful.annotate_eq_iff (h : Truthful f) (above : List Formula) :
    f.annotate above.length (above.filterMap bound?) = f.unannotated.annotate above.length (above.filterMap bound?) ↔
      ∀ o ∈ f.occurrencesBelow above, o.node.annotation.shadows → o.Shadows := by
  induction f generalizing above with
  | atom facts a =>
      rw [occurrencesBelow, List.forall_mem_singleton, ← h.facts_eq_iff above, unannotated, Formula.annotate,
        Formula.annotate, Formula.atom.injEq]
      exact and_iff_left rfl
  | negation facts operand ih =>
      have hoperand : Truthful operand := (truthful_iff.1 h).2 _ (by simp [children])
      have hbelow := ih hoperand (negation facts operand :: above)
      rw [occurrencesBelow, List.forall_mem_cons, ← h.facts_eq_iff above, ← hbelow, unannotated, Formula.annotate,
        Formula.annotate, Formula.negation.injEq]
      rfl
  | binary facts connective left right ihl ihr =>
      have hleft : Truthful left := (truthful_iff.1 h).2 _ (by simp [children])
      have hright : Truthful right := (truthful_iff.1 h).2 _ (by simp [children])
      have hl := ihl hleft (binary facts connective left right :: above)
      have hr := ihr hright (binary facts connective left right :: above)
      rw [occurrencesBelow, List.forall_mem_cons, List.forall_mem_append, ← h.facts_eq_iff above, ← hl, ← hr,
        unannotated, Formula.annotate, Formula.annotate, Formula.binary.injEq]
      exact and_congr_right fun _ => and_iff_right rfl
  | quantified facts quantifier bound body ih =>
      have hbody : Truthful body := (truthful_iff.1 h).2 _ (by simp [children])
      have hbelow := ih hbody (quantified facts quantifier bound body :: above)
      rw [occurrencesBelow, List.forall_mem_cons, ← h.facts_eq_iff above, ← hbelow, unannotated, Formula.annotate,
        Formula.annotate, Formula.quantified.injEq]
      exact and_congr_right fun _ => (and_iff_right rfl).trans (and_iff_right rfl)

/-- A formula that may have been validated before, as a whole or in parts, gets the annotations and the warnings of a
new formula of the same structure at the same places, but that a quantifier keeps the mark that its variable is bound
again. It is the same formula if every such mark that it had is still right. -/
theorem validate_again {f g : Formula} (hf : f.Reachable) (hg : g.Built) (h : f == g) :
    ∃ a b, f.validate = .ok a ∧ g.validate = .ok b ∧ a.warnings = b.warnings ∧
      a.formula.unannotated = g ∧ b.formula.unannotated = g ∧
      a.formula.preorder.map Formula.annotation =
        List.zipWith Annotation.onto (f.preorder.map Formula.annotation) (b.formula.preorder.map Formula.annotation) ∧
      (a.formula = b.formula ↔ ∀ o ∈ f.occurrences, o.node.annotation.shadows → o.Shadows) := by
  obtain rfl : f.unannotated = g := hf.unannotated_eq hg h
  refine ⟨_, _, validate_eq f, validate_eq f.unannotated, (warningsOnto_unannotated f [] []).symm,
    unannotated_annotate f 0 [], hg.unannotated_annotate 0 [], hf.truthful.annotations 0 [],
    hf.truthful.annotate_eq_iff []⟩

/-- The body of `∀x.∃x.p(x)`, taken out of the validated formula, is a quantifier with the mark. -/
theorem exists_marked_part :
    ∃ a g, parse "∀x.∃x.p(x)" = .ok a ∧ a.formula.children = [g] ∧ g.Reachable ∧ g == g.unannotated ∧
      g.preorder.map Formula.annotation = [⟨1, 1, false, true⟩, ⟨1, 2, false, false⟩] ∧
      (g.unannotated.annotate 0 []).preorder.map Formula.annotation =
        [⟨1, 0, false, false⟩, ⟨1, 1, false, false⟩] := by
  have hpart : (parse "∀x.∃x.p(x)").toOption.map (fun a => a.formula.children.map fun g =>
      (g == g.unannotated, g.preorder.map Formula.annotation,
        (g.unannotated.annotate 0 []).preorder.map Formula.annotation)) =
      some [(true, [⟨1, 1, false, true⟩, ⟨1, 2, false, false⟩], [⟨1, 0, false, false⟩, ⟨1, 1, false, false⟩])] := by
    decide +kernel
  obtain ⟨a, ha, ⟨f, hf, hvalidate⟩, hchildren⟩ := exists_parse_of_map hpart
  obtain ⟨g, hg, hfacts⟩ := List.map_eq_singleton_iff.1 hchildren
  simp only [Prod.mk.injEq] at hfacts
  obtain ⟨hequal, hold, hnew⟩ := hfacts
  have hreachable : g.Reachable := (hf.validated hvalidate).child (hg ▸ List.mem_singleton.2 rfl)
  exact ⟨a, g, ha, hg, hreachable, hequal, hold, hnew⟩

/-- The body of `∀x.∃x.p(x)` is validated with the warnings of a new formula. Its quantifier keeps the mark that the
other one above it gave it. -/
theorem validate_again_of_part :
    ∃ a g b c, parse "∀x.∃x.p(x)" = .ok a ∧ a.formula.children = [g] ∧ g.Reachable ∧ g.unannotated.Built ∧
      g == g.unannotated ∧ g.validate = .ok b ∧ g.unannotated.validate = .ok c ∧ b.warnings = c.warnings ∧
      b.formula.preorder.map Formula.annotation = [⟨1, 0, false, true⟩, ⟨1, 1, false, false⟩] := by
  obtain ⟨a, g, ha, hg, hreachable, hequal, hold, hnew⟩ := exists_marked_part
  have hbuilt := hreachable.built_unannotated
  obtain ⟨b, c, hb, hc, hwarnings, -, -, hannotations, -⟩ := validate_again hreachable hbuilt hequal
  refine ⟨a, g, b, c, ha, hg, hreachable, hbuilt, hequal, hb, hc, hwarnings, ?_⟩
  rw [validate_eq] at hc
  cases hc
  rw [hannotations, hold, hnew]
  rfl

/-- A fact of an earlier validation survives: the body of `∀x.∃x.p(x)` is marked as binding a variable again, though
nothing is above it, and a new formula of the same structure at the same places is not. -/
theorem shadows_survives :
    ∃ a g b c, parse "∀x.∃x.p(x)" = .ok a ∧ a.formula.children = [g] ∧ g.Reachable ∧ g.unannotated.Built ∧
      g == g.unannotated ∧ g.validate = .ok b ∧ g.unannotated.validate = .ok c ∧
      b.formula.preorder.map Formula.annotation = [⟨1, 0, false, true⟩, ⟨1, 1, false, false⟩] ∧
      c.formula.preorder.map Formula.annotation = [⟨1, 0, false, false⟩, ⟨1, 1, false, false⟩] := by
  obtain ⟨a, g, ha, hg, hreachable, hequal, hold, hnew⟩ := exists_marked_part
  refine ⟨a, g, _, _, ha, hg, hreachable, hreachable.built_unannotated, hequal, validate_eq g,
    validate_eq g.unannotated, ?_, hnew⟩
  rw [hreachable.truthful.annotations 0 [], hold, hnew]
  rfl

end Formula

end FormulaDiagram
