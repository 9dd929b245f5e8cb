import FormulaDiagram.Formula.Basic

/-!
The nodes of a formula. In pre-order the root comes first and behind it the nodes of its children, so a node is the
root or a node of a child.
-/

namespace FormulaDiagram.Formula

variable (facts : NodeFacts)

/-- The further nodes stay behind those of the formula. -/
theorem preorderOnto_eq (f : Formula) (rest : List Formula) : f.preorderOnto rest = f.preorder ++ rest := by
  induction f generalizing rest with
  | atom facts a => rfl
  | negation facts operand ih =>
      rw [preorderOnto, ih]
      rfl
  | binary facts connective left right ihl ihr =>
      have hboth : (binary facts connective left right).preorder =
          binary facts connective left right :: (left.preorder ++ right.preorder) := by
        rw [preorder, preorderOnto, ihl]
        rfl
      rw [preorderOnto, ihl, ihr, hboth]
      simp
  | quantified facts quantifier bound body ih =>
      rw [preorderOnto, ih]
      rfl

@[simp] theorem preorder_atom (a : Atom) : (atom facts a).preorder = [atom facts a] := rfl

@[simp] theorem preorder_negation (operand : Formula) :
    (negation facts operand).preorder = negation facts operand :: operand.preorder := rfl

@[simp] theorem preorder_binary (connective : Connective) (left right : Formula) :
    (binary facts connective left right).preorder =
      binary facts connective left right :: (left.preorder ++ right.preorder) := by
  rw [preorder, preorderOnto, preorderOnto_eq]
  rfl

@[simp] theorem preorder_quantified (quantifier : Quantifier) (bound : BoundVariable) (body : Formula) :
    (quantified facts quantifier bound body).preorder =
      quantified facts quantifier bound body :: body.preorder := rfl

/-- A node is the root or a node of a child. -/
theorem mem_preorder_iff {f g : Formula} : g ∈ f.preorder ↔ g = f ∨ ∃ h ∈ f.children, g ∈ h.preorder := by
  cases f <;> simp [children]

/-- What holds of all nodes is what holds of the root and of all nodes of its children. -/
theorem forall_mem_preorder_iff {f : Formula} {P : Formula → Prop} :
    (∀ g ∈ f.preorder, P g) ↔ P f ∧ ∀ g ∈ f.children, ∀ k ∈ g.preorder, P k := by
  constructor
  · intro h
    exact ⟨h f (mem_preorder_iff.2 (.inl rfl)), fun g hg k hk => h k (mem_preorder_iff.2 (.inr ⟨g, hg, hk⟩))⟩
  · rintro ⟨hroot, hchildren⟩ k hk
    rcases mem_preorder_iff.1 hk with rfl | ⟨g, hg, hk⟩
    · exact hroot
    · exact hchildren g hg k hk

@[simp] theorem children_withSpan (f : Formula) (span : Span) : (f.withSpan span).children = f.children := by
  cases f <;> rfl

/-- What holds of a formula once it holds of its children holds of all formulas. -/
theorem induction_children {P : Formula → Prop} (h : ∀ f : Formula, (∀ g ∈ f.children, P g) → P f) (f : Formula) :
    P f := by
  induction f with
  | atom => exact h _ nofun
  | negation facts operand ih => exact h _ (List.forall_mem_singleton.2 ih)
  | binary facts connective left right ihl ihr =>
      exact h _ (List.forall_mem_cons.2 ⟨ihl, List.forall_mem_singleton.2 ihr⟩)
  | quantified facts quantifier bound body ih => exact h _ (List.forall_mem_singleton.2 ih)

/-! ### What goes through all nodes -/

/-- Of what is pending all nodes are counted. -/
theorem countPending_eq (count : Nat) (pending : List Formula) :
    countPending count pending = count + sizeAll pending := by
  fun_induction countPending count pending with
  | case1 count => rfl
  | case2 count f pending ih =>
      rw [ih, sizeAll_children]
      omega

theorem nodeCount_eq_size (f : Formula) : f.nodeCount = f.size := by
  rw [nodeCount, countPending_eq]
  exact Nat.zero_add f.size

variable (v : String)

/-- What is pending can be looked through part by part: the search goes on behind a part in which it finds nothing. -/
theorem mentionedIn_append (fs gs : List Formula) :
    mentionedIn v (fs ++ gs) = (mentionedIn v fs || mentionedIn v gs) := by
  fun_induction mentionedIn v fs with
  | case1 => rfl
  | case2 facts a fs h => rw [List.cons_append, mentionedIn, if_pos h, Bool.true_or]
  | case3 facts a fs h ih => rw [List.cons_append, mentionedIn, if_neg h, ih]
  | case4 f fs h ih => rw [List.cons_append, mentionedIn.eq_3 v f _ h, ← List.append_assoc, ih]

theorem mentions_children {f : Formula} (h : ∀ facts a, f = atom facts a → False) :
    f.mentions v = mentionedIn v f.children.reverse := by
  rw [mentions, mentionedIn.eq_3 v f [] h, List.append_nil]

@[simp] theorem mentions_atom (a : Atom) : (atom facts a).mentions v = a.mentions v := by
  rw [mentions, mentionedIn, mentionedIn]
  cases a.mentions v <;> rfl

@[simp] theorem mentions_negation (operand : Formula) : (negation facts operand).mentions v = operand.mentions v :=
  mentions_children v fun _ _ => Formula.noConfusion

@[simp] theorem mentions_binary (connective : Connective) (left right : Formula) :
    (binary facts connective left right).mentions v = (right.mentions v || left.mentions v) := by
  rw [mentions_children v fun _ _ => Formula.noConfusion]
  exact mentionedIn_append v [right] [left]

@[simp] theorem mentions_quantified (quantifier : Quantifier) (bound : BoundVariable) (body : Formula) :
    (quantified facts quantifier bound body).mentions v = body.mentions v :=
  mentions_children v fun _ _ => Formula.noConfusion

end FormulaDiagram.Formula
