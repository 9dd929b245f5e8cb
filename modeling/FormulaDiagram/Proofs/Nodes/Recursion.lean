import FormulaDiagram.Proofs.Validation.History

/-!
What is known of a formula without a recursion over it. Its height and the number of its atoms are kept by the
constructors, and neither validation nor taking a formula apart changes them. Counting its nodes, looking for a variable
in it and writing it go through it with a stack or down a chain. A recursion over the formula gives the same each time.
-/

namespace FormulaDiagram

namespace Formula

variable {f g : Formula} {path : List Formula}

/-! ### Paths to atoms -/

/-- The path goes from the root of the formula down to an atom, from a node to one of its children each time. -/
inductive PathToAtom : Formula → List Formula → Prop where
  | atom (facts : NodeFacts) (a : Atom) : PathToAtom (.atom facts a) [.atom facts a]
  | step {f g : Formula} {path : List Formula} : g ∈ f.children → PathToAtom g path → PathToAtom f (f :: path)

/-- The number of levels of nodes. -/
def levels : Formula → Nat
  | .atom _ _ => 1
  | .negation _ operand => operand.levels + 1
  | .binary _ _ left right => max left.levels right.levels + 1
  | .quantified _ _ _ body => body.levels + 1

theorem levels_lt_of_mem_children (h : g ∈ f.children) : g.levels < f.levels := by
  cases f with
  | atom facts a => cases h
  | negation facts operand =>
      cases List.mem_singleton.1 h
      exact Nat.lt_succ_self _
  | binary facts connective left right =>
      rw [levels]
      rcases List.mem_pair.1 h with rfl | rfl <;> omega
  | quantified facts quantifier bound body =>
      cases List.mem_singleton.1 h
      exact Nat.lt_succ_self _

theorem PathToAtom.length_le (h : f.PathToAtom path) : path.length ≤ f.levels := by
  induction h with
  | atom facts a => exact Nat.le_refl 1
  | step hg _ ih => exact Nat.lt_of_le_of_lt ih (levels_lt_of_mem_children hg)

/-- A path from a child on, where the child has one level less, is continued upwards. -/
theorem exists_pathToAtom_of_child (hg : g ∈ f.children) (hlevels : f.levels = g.levels + 1)
    (h : ∃ path, g.PathToAtom path ∧ path.length = g.levels) : ∃ path, f.PathToAtom path ∧ path.length = f.levels := by
  obtain ⟨path, hpath, hlength⟩ := h
  exact ⟨f :: path, .step hg hpath, by rw [List.length_cons, hlength, hlevels]⟩

/-- There is a path through all levels, that into the higher operand each time. -/
theorem exists_pathToAtom (f : Formula) : ∃ path, f.PathToAtom path ∧ path.length = f.levels := by
  induction f with
  | atom facts a => exact ⟨_, .atom facts a, rfl⟩
  | negation facts operand ih => exact exists_pathToAtom_of_child List.mem_cons_self rfl ih
  | binary facts connective left right ihl ihr =>
      rcases Nat.le_total left.levels right.levels with hle | hle
      · have hlevels : (binary facts connective left right).levels = right.levels + 1 := by
          rw [levels, Nat.max_eq_right hle]
        exact exists_pathToAtom_of_child (List.mem_pair.2 (.inr rfl)) hlevels ihr
      · have hlevels : (binary facts connective left right).levels = left.levels + 1 := by
          rw [levels, Nat.max_eq_left hle]
        exact exists_pathToAtom_of_child (List.mem_pair.2 (.inl rfl)) hlevels ihl
  | quantified facts quantifier bound body ih => exact exists_pathToAtom_of_child List.mem_cons_self rfl ih

/-! ### Facts that are kept -/

theorem levels_unannotated (f : Formula) : f.unannotated.levels = f.levels := by
  induction f with
  | atom => rfl
  | negation facts operand ih => rw [unannotated, levels, ih, levels]
  | binary facts connective left right ihl ihr => rw [unannotated, levels, ihl, ihr, levels]
  | quantified facts quantifier bound body ih => rw [unannotated, levels, ih, levels]

theorem height_unannotated (f : Formula) : f.unannotated.height = f.height := by
  rw [height, facts_unannotated, height]

theorem Built.height_eq (h : Built f) : f.height = f.levels := by
  induction h with
  | ofAtom a span => rfl
  | not span _ ih => exact congrArg (· + 1) ih
  | joinAt connective span _ _ ihf ihg => exact congrArg (· + 1) (congrArg₂ max ihf ihg)
  | quantify quantifier bound span _ ih => exact congrArg (· + 1) ih

theorem Reachable.height_eq (h : Reachable f) : f.height = f.levels := by
  rw [← height_unannotated, h.built_unannotated.height_eq, levels_unannotated]

/-! ### Recursion -/

/-- What is kept of the formula, and what stacks and loops find in it, is what recursion over it gives. -/
structure ByRecursion (f : Formula) : Prop where
  height : f.height = f.levels
  longestPath : ∃ path, f.PathToAtom path ∧ path.length = f.height
  paths : ∀ path, f.PathToAtom path → path.length ≤ f.height
  leaves : f.leaves = f.atoms.length
  nodeCount : f.nodeCount = f.size
  nodes : f.nodeCount = f.preorder.length
  mentions : ∀ v, f.mentions v ↔ ∃ a ∈ f.atoms, a.Occurs v
  text : f.text = f.printed

theorem Reachable.byRecursion (h : Reachable f) : ByRecursion f where
  height := h.height_eq
  longestPath := h.height_eq ▸ exists_pathToAtom f
  paths _ hpath := h.height_eq ▸ hpath.length_le
  leaves := h.counted.root
  nodeCount := f.nodeCount_eq_size
  nodes := by rw [f.nodeCount_eq_size, length_preorder]
  mentions v := f.mentions_iff
  text := f.text_eq_printed

/-- The formula that is read from tokens is one that the constructors give. -/
theorem reachable_of_ofTokens {tokens : List Token} {sourceLength : Nat}
    (h : Formula.ofTokens tokens sourceLength = .ok f) : Reachable f := by
  obtain ⟨n, -, hs⟩ := (Grammar.ofTokens_iff tokens sourceLength f).1 h
  have hbuilt : f.Built := hs.built
  exact hbuilt.reachable

end Formula

theorem AnnotatedFormula.IsValidated.reachable {a : AnnotatedFormula} (h : a.IsValidated) : a.formula.Reachable := by
  obtain ⟨f, hf, ha⟩ := h
  exact .validated hf ha

/-- What is kept of a formula, and what stacks and loops find in it, is what recursion over it gives, if it was put
together by the constructors, read from tokens, parsed or validated, or is a part of such a formula. -/
theorem reachable_byRecursion :
    (∀ f : Formula, f.Reachable → f.ByRecursion) ∧
      (∀ tokens sourceLength f, Formula.ofTokens tokens sourceLength = .ok f → f.Reachable) ∧
        ∀ source a, parse source = .ok a → a.formula.Reachable := by
  refine ⟨fun f hf => hf.byRecursion, fun tokens sourceLength f h => Formula.reachable_of_ofTokens h, ?_⟩
  intro source a h
  exact (isValidated_of_parse h).reachable

/-- Of what is written for `∀x.(p ∧ q ∧ ¬(x = f(y)))` the recursion tells height, number of nodes and text. -/
theorem byRecursion_of_quantified_chain :
    ∃ a, parse "∀x.(p ∧ q ∧ ¬(x = f(y)))" = .ok a ∧ a.formula.Reachable ∧ a.formula.ByRecursion ∧
      a.formula.height = 4 ∧ a.formula.nodeCount = 7 ∧ a.formula.text = "∀x.p ∧ q ∧ ¬x = f(y)" := by
  have hrecursion : (parse "∀x.(p ∧ q ∧ ¬(x = f(y)))").toOption.map (fun a =>
      decide (a.formula.levels = 4 ∧ a.formula.size = 7 ∧ a.formula.printed = "∀x.p ∧ q ∧ ¬x = f(y)")) =
      some true := by decide +kernel
  obtain ⟨a, ha, -, hrecursion⟩ := exists_parse_of_map hrecursion
  obtain ⟨hlevels, hsize, hprinted⟩ := of_decide_eq_true hrecursion
  have hreachable := reachable_byRecursion.2.2 _ a ha
  have h := reachable_byRecursion.1 a.formula hreachable
  exact ⟨a, ha, hreachable, h, h.height.trans hlevels, h.nodeCount.trans hsize, h.text.trans hprinted⟩

end FormulaDiagram
