import FormulaDiagram.Proofs.Layout.Finite

/-!
Why a drawing has a width and a height, although sums are rounded. Half of a positive value is less than the value. So
an atom at the left end stands in front of one unit, and a right operand behind one, whatever is lost between them;
and the root stands in the upper half of a row, its children below that row. A formula of one column or of one node
has nothing but the outline of a node, which has to be wide against the place where it stands.
-/

namespace FormulaDiagram

open Binary (Tracks Within)

namespace Formula

section

variable {α : Type} [Scalar α] {config : Config α} {m : Layout.Measures α} {f : Formula} {position : Nat}
  {parent : Option Nat} {left : α} {node : PlacedNode α} {depth : Nat}

theorem placedNode_mem_placedNodes (f : Formula) (config : Config α) (m : Layout.Measures α) (position : Nat)
    (parent : Option Nat) (left : α) :
    f.placedNode config m position parent left ∈ f.placedNodes config m position parent left := by
  cases f <;> exact List.mem_cons_self

theorem center_of_mem (h : node ∈ f.placedNodes config m position parent left) :
    node.center = ⟨node.left + Scalar.half node.extent, Scalar.ofNat node.depth * m.rowHeight + m.halfHeight⟩ := by
  obtain ⟨g, position, parent, left, rfl⟩ := exists_of_mem_placedNodes h
  rfl

theorem extent_of_mem (h : node ∈ f.placedNodes config m position parent left) :
    node.extent = Layout.extent m.unit node.leafCount := by
  obtain ⟨g, position, parent, left, rfl⟩ := exists_of_mem_placedNodes h
  rfl

/-- The first atom begins with the formula and is one unit wide. -/
theorem Measured.exists_leaf (h : f.Measured depth) (config : Config α) (m : Layout.Measures α) (position : Nat)
    (parent : Option Nat) (left : α) :
    ∃ node ∈ f.placedNodes config m position parent left, node.left = left ∧ node.leafCount = 1 := by
  induction f generalizing depth position parent left with
  | atom facts a => exact ⟨_, List.mem_cons_self, rfl, h.units_eq⟩
  | negation facts operand ih =>
      obtain ⟨node, hnode, hleaf⟩ := ih (h.child (by simp [children])) (position + 1) (some position) left
      exact ⟨node, List.mem_cons_of_mem _ hnode, hleaf⟩
  | binary facts connective leftOperand right ihl ihr =>
      obtain ⟨node, hnode, hleaf⟩ := ihl (h.child (by simp [children])) (position + 1) (some position) left
      exact ⟨node, List.mem_cons_of_mem _ (List.mem_append_left _ hnode), hleaf⟩
  | quantified facts quantifier bound body ih =>
      obtain ⟨node, hnode, hleaf⟩ := ih (h.child (by simp [children])) (position + 1) (some position) left
      exact ⟨node, List.mem_cons_of_mem _ hnode, hleaf⟩

/-- If there is more than one column a right operand begins at least one unit behind the formula. -/
theorem Measured.exists_right (h : f.Measured depth) (hunits : 1 < f.units) (config : Config α) (m : Layout.Measures α)
    (position : Nat) (parent : Option Nat) (left : α) :
    ∃ node ∈ f.placedNodes config m position parent left, ∃ n, 0 < n ∧ n ≤ f.units ∧
      node.left = left + Layout.extent m.unit n := by
  induction f generalizing depth position parent left with
  | atom facts a =>
      rw [h.units_eq] at hunits
      exact absurd hunits (Nat.lt_irrefl 1)
  | negation facts operand ih =>
      have heq : (negation facts operand).units = operand.units := h.units_child rfl rfl
      rw [heq] at hunits ⊢
      obtain ⟨node, hnode, hright⟩ := ih (h.child (by simp [children])) hunits (position + 1) (some position) left
      exact ⟨node, List.mem_cons_of_mem _ hnode, hright⟩
  | binary facts connective leftOperand right ihl ihr =>
      have hsum : (binary facts connective leftOperand right).units = leftOperand.units + right.units :=
        h.units_operands rfl rfl
      refine ⟨_, List.mem_cons_of_mem _ (List.mem_append_right _ (right.placedNode_mem_placedNodes _ _ _ _ _)),
        leftOperand.units, Nat.le_max_right _ _, by omega, rfl⟩
  | quantified facts quantifier bound body ih =>
      have heq : (quantified facts quantifier bound body).units = body.units := h.units_child rfl rfl
      rw [heq] at hunits ⊢
      obtain ⟨node, hnode, hright⟩ := ih (h.child (by simp [children])) hunits (position + 1) (some position) left
      exact ⟨node, List.mem_cons_of_mem _ hnode, hright⟩

/-- The children of the root stand in the next row. -/
theorem Measured.exists_below (h : f.Measured depth) (hchildren : f.children ≠ []) (config : Config α)
    (m : Layout.Measures α) (position : Nat) (parent : Option Nat) (left : α) :
    ∃ node ∈ f.placedNodes config m position parent left, node.depth = depth + 1 := by
  cases f with
  | atom => exact absurd rfl hchildren
  | negation facts operand =>
      have hbelow : operand.annotation.depth = depth + 1 := (h.child (by simp [children])).depth_eq
      exact ⟨_, List.mem_cons_of_mem _ (operand.placedNode_mem_placedNodes _ _ _ _ _), hbelow⟩
  | binary facts connective leftOperand right =>
      have hbelow : leftOperand.annotation.depth = depth + 1 := (h.child (by simp [children])).depth_eq
      have hmem := leftOperand.placedNode_mem_placedNodes config m (position + 1) (some position) left
      exact ⟨_, List.mem_cons_of_mem _ (List.mem_append_left _ hmem), hbelow⟩
  | quantified facts quantifier bound body =>
      have hbelow : body.annotation.depth = depth + 1 := (h.child (by simp [children])).depth_eq
      exact ⟨_, List.mem_cons_of_mem _ (body.placedNode_mem_placedNodes _ _ _ _ _), hbelow⟩

end

variable {f : Formula} {config : Config Single}

/-! ### Values of the measures -/

theorem FitsIn.unit_pos (h : f.FitsIn config) (hconfig : config.validate = .ok ()) :
    0 < (f.measures config).unit.value := by
  have hpos : 0 < config.unitWidth.value := (Config.sound_of_validate hconfig).2.unitWidth
  rw [measures_eq]
  exact hpos.trans_le
    (Binary.le_max_left (Config.tracks_get hconfig .unitWidth).finite (h.tracks_column hconfig).finite)

theorem FitsIn.tallest_le_row (h : f.FitsIn config) (hconfig : config.validate = .ok ()) :
    (Layout.tallest config f.arena.toList).value ≤ (f.measures config).rowHeight.value := by
  have hgap := Config.tracks_get hconfig .siblingGap
  have htallest := h.tracks_tallest hconfig
  have hrow := h.row_le hconfig
  rw [measures_eq] at hrow ⊢
  have hrounds := htallest.rounds_add (hgap.mono (Nat.zero_le 5) le_rfl) (by decide)
    ((Scalar.rat_le_max_right _ _).trans hrow)
  refine (hrounds.ge_of_ge htallest.finite (le_add_of_nonneg_right hgap.nonneg)).trans ?_
  exact Binary.le_max_right (Config.tracks_get hconfig .rowHeight).finite (h.tracks_row hconfig).finite

theorem FitsIn.halfHeight_lt (h : f.FitsIn config) (hconfig : config.validate = .ok ()) :
    (f.measures config).halfHeight.value < (Layout.tallest config f.arena.toList).value := by
  have hpos : 0 < config.nodeHeight.value := (Config.sound_of_validate hconfig).2.nodeHeight
  have hleast : config.nodeHeight.value ≤ (Layout.tallest config f.arena.toList).value :=
    (Binary.foldl_max_bounds (Config.tracks_get hconfig .nodeHeight).finite
      fun node hnode => (h.sized hconfig hnode).height.finite).2.1
  rw [measures_eq]
  exact Binary.half_lt (h.tracks_tallest hconfig).finite (hpos.trans_le hleast)

/-- One unit is the unit itself. -/
theorem FitsIn.extent_one (h : f.FitsIn config) (hconfig : config.validate = .ok ()) :
    (Layout.extent (f.measures config).unit 1).value = (f.measures config).unit.value := by
  have hrounds := h.rounds_extent hconfig (n := 1) (Nat.le_max_right _ _)
  obtain ⟨-, hone⟩ := Binary.value_ofNat (n := 1) (by decide)
  rw [Binary.scalar_ofNat, hone, Nat.cast_one, one_mul] at hrounds
  exact hrounds.value_eq (h.tracks_measures hconfig).unit.finite rfl

theorem FitsIn.unit_le_extent (h : f.FitsIn config) (hconfig : config.validate = .ok ()) {n : Nat} (hpos : 0 < n)
    (hn : n ≤ f.units) : (f.measures config).unit.value ≤ (Layout.extent (f.measures config).unit n).value := by
  have hlimit : n ≤ 2 ^ 127 := (hn.trans h.units_le).trans (Nat.pow_le_pow_right (by decide) (by decide))
  obtain ⟨hfinite, hone⟩ := Binary.value_ofNat (n := 1) (by decide)
  have hcount : 1 ≤ (Binary.ofNat n : Single).value := by
    have hleast := (Binary.rounds_ofNat hlimit).ge_of_ge hfinite (by rw [hone]; exact Nat.cast_le.2 hpos)
    rwa [hone, Nat.cast_one] at hleast
  have hunit := (h.tracks_measures hconfig).unit
  exact (h.rounds_extent hconfig hn).ge_of_ge hunit.finite (le_mul_of_one_le_left hunit.nonneg hcount)

theorem FitsIn.rounds_rows (h : f.FitsIn config) (hconfig : config.validate = .ok ()) {node : TreeNode}
    (hnode : node ∈ f.arena.toList) :
    (Scalar.ofNat node.depth * (f.measures config).rowHeight).Rounds
      ((Scalar.ofNat node.depth : Single).value * (f.measures config).rowHeight.value) :=
  (Layout.tracks_ofNat (h.counts node hnode).2.1).rounds_mul (h.tracks_measures hconfig).rowHeight (by decide)
    (h.rows_above_le hconfig hnode)

theorem FitsIn.rounds_center_y (h : f.FitsIn config) (hconfig : config.validate = .ok ()) {node : PlacedNode Single}
    (hnode : node ∈ f.placedNodes config (f.measures config) 0 none Scalar.zero) :
    node.center.y.Rounds ((Scalar.ofNat node.depth * (f.measures config).rowHeight).value +
      (f.measures config).halfHeight.value) := by
  have harena := toTreeNode_mem_arena hnode
  have hhalf := (h.tracks_measures hconfig).halfHeight
  rw [center_of_mem hnode]
  exact (h.tracks_rows hconfig harena).rounds_add (hhalf.mono (by decide) le_rfl) (by decide) (h.rows_le hconfig harena)

theorem FitsIn.center_y_of_root (h : f.FitsIn config) (hconfig : config.validate = .ok ()) {node : PlacedNode Single}
    (hnode : node ∈ f.placedNodes config (f.measures config) 0 none Scalar.zero) (hdepth : node.depth = 0) :
    node.center.y.value = (f.measures config).halfHeight.value := by
  have hrounds := h.rounds_rows hconfig (toTreeNode_mem_arena hnode)
  obtain ⟨hfinite, hzero⟩ := Binary.scalar_zero
  have hvalue : (Scalar.ofNat node.depth * (f.measures config).rowHeight).value = 0 := by
    rw [hdepth] at hrounds ⊢
    rw [← hzero]
    refine hrounds.value_eq hfinite ?_
    rw [Scalar.zero] at hzero ⊢
    rw [hzero, zero_mul]
  exact (h.rounds_center_y hconfig hnode).value_eq (h.tracks_measures hconfig).halfHeight.finite
    (by rw [hvalue, zero_add])

theorem FitsIn.row_le_center_y (h : f.FitsIn config) (hconfig : config.validate = .ok ()) {node : PlacedNode Single}
    (hnode : node ∈ f.placedNodes config (f.measures config) 0 none Scalar.zero) (hdepth : node.depth = 1) :
    (f.measures config).rowHeight.value ≤ node.center.y.value := by
  have hmeasures := h.tracks_measures hconfig
  have hrounds := h.rounds_rows hconfig (toTreeNode_mem_arena hnode)
  obtain ⟨-, hone⟩ := Binary.value_ofNat (n := 1) (by decide)
  have hvalue : (Scalar.ofNat node.depth * (f.measures config).rowHeight).value =
      (f.measures config).rowHeight.value := by
    rw [hdepth] at hrounds ⊢
    refine hrounds.value_eq hmeasures.rowHeight.finite ?_
    rw [Binary.scalar_ofNat, hone, Nat.cast_one, one_mul]
  rw [← hvalue]
  exact (h.rounds_center_y hconfig hnode).ge_of_ge hrounds.finite (le_add_of_nonneg_right hmeasures.halfHeight.nonneg)

theorem FitsIn.tallest_le_of_atom (h : f.FitsIn config) (hconfig : config.validate = .ok ())
    (hchildren : f.children = []) :
    (Layout.tallest config f.arena.toList).value ≤
      (f.placedNode config (f.measures config) 0 none Scalar.zero).size.height.value := by
  have hnode := (Config.tracks_get hconfig .nodeHeight).finite
  have hsized := h.sized hconfig f.treeNode_mem_arena
  cases f with
  | atom facts a =>
      have htallest : Layout.tallest config (atom facts a).arena.toList = max config.nodeHeight
          ((atom facts a).placedNode config ((atom facts a).measures config) 0 none Scalar.zero).size.height := by
        rw [arena_eq]
        rfl
      rcases Binary.max_cases hnode hsized.height.finite with ⟨heq, -⟩ | ⟨heq, -⟩
      · exact (htallest.trans heq) ▸ le_rfl
      · exact (htallest.trans heq) ▸ hsized.nodeHeight_le
  | negation => cases hchildren
  | binary => cases hchildren
  | quantified => cases hchildren

/-! ### Nodes apart -/

section

variable (h : f.FitsIn config) (hconfig : config.validate = .ok ()) (hf : f.Measured 0)

include h hconfig hf

theorem FitsIn.moderate_of_mem {node : PlacedNode Single}
    (hnode : node ∈ f.placedNodes config (f.measures config) 0 none Scalar.zero) : node.Moderate := by
  refine h.moderate hconfig hf ?_
  rwa [layout_nodes]

/-- The middle of an atom at the left end stands in front of one unit. -/
theorem FitsIn.center_lt_unit {node : PlacedNode Single}
    (hnode : node ∈ f.placedNodes config (f.measures config) 0 none Scalar.zero) (hleft : node.left = Scalar.zero)
    (hcount : node.leafCount = 1) : node.center.x.value < (f.measures config).unit.value := by
  have hmoderate := h.moderate_of_mem hconfig hf hnode
  have hextent : node.extent.value = (f.measures config).unit.value := by
    rw [extent_of_mem hnode, hcount, h.extent_one hconfig]
  have hcenter : node.center.x = Scalar.zero + Scalar.half node.extent := by
    rw [center_of_mem hnode, hleft]
  rw [hcenter, hmoderate.halfExtent.zero_add (by decide), ← hextent]
  exact Binary.half_lt hmoderate.extent.finite (hextent ▸ h.unit_pos hconfig)

/-- With more than one column, the first atom stands in front of a right operand. -/
theorem FitsIn.exists_apart_of_columns (hunits : 1 < f.units) :
    ∃ a ∈ (f.layout config).nodes.toList, ∃ b ∈ (f.layout config).nodes.toList,
      a.center.x.value < b.center.x.value := by
  obtain ⟨a, ha, hleft, hcount⟩ := hf.exists_leaf config (f.measures config) 0 none Scalar.zero
  obtain ⟨b, hb, n, hpos, hn, hright⟩ := hf.exists_right hunits config (f.measures config) 0 none Scalar.zero
  have hmoderate := h.moderate_of_mem hconfig hf hb
  have hwithin : Within 126 (Layout.extent (f.measures config).unit n) :=
    (h.tracks_extent hconfig hn).within (h.units_mul_le hconfig (Nat.cast_le.2 hn)) (by decide)
  have hcenter : b.center.x = b.left + Scalar.half b.extent := by rw [center_of_mem hb]
  rw [layout_nodes]
  refine ⟨a, ha, b, hb, ?_⟩
  calc a.center.x.value < (f.measures config).unit.value := h.center_lt_unit hconfig hf ha hleft hcount
    _ ≤ (Layout.extent (f.measures config).unit n).value := h.unit_le_extent hconfig hpos hn
    _ = b.left.value := by rw [hright, hwithin.zero_add (by decide)]
    _ ≤ b.center.x.value := by
        rw [hcenter]
        exact hmoderate.left.le_add hmoderate.halfExtent (by decide) hmoderate.halfExtent_nonneg

/-- With more than one row, the root stands in the upper half of its row, and a child below that row. -/
theorem FitsIn.exists_apart_of_rows (hchildren : f.children ≠ []) :
    ∃ a ∈ (f.layout config).nodes.toList, ∃ b ∈ (f.layout config).nodes.toList,
      a.center.y.value < b.center.y.value := by
  have hroot := f.placedNode_mem_placedNodes config (f.measures config) 0 none Scalar.zero
  obtain ⟨b, hb, hdepth⟩ := hf.exists_below hchildren config (f.measures config) 0 none Scalar.zero
  rw [layout_nodes]
  refine ⟨_, hroot, b, hb, ?_⟩
  calc _ = (f.measures config).halfHeight.value := h.center_y_of_root hconfig hroot hf.depth_eq
    _ < (Layout.tallest config f.arena.toList).value := h.halfHeight_lt hconfig
    _ ≤ (f.measures config).rowHeight.value := h.tallest_le_row hconfig
    _ ≤ b.center.y.value := h.row_le_center_y hconfig hb hdepth

/-- The root of a single column is wide against the place where it stands. -/
theorem FitsIn.exists_wide_of_column (hunits : f.units = 1) :
    ∃ a ∈ (f.layout config).nodes.toList, a.center.x.value < a.bounds.maxX.value := by
  obtain ⟨hquanta, hvisible⟩ := h.visible hunits
  have hroot := f.placedNode_mem_placedNodes config (f.measures config) 0 none Scalar.zero
  have hmoderate := h.moderate_of_mem hconfig hf hroot
  have hsized := h.sized hconfig (toTreeNode_mem_arena hroot)
  have hcenter := h.center_lt_unit hconfig hf hroot rfl hunits
  have hunit := (h.tracks_measures hconfig).unit.le
  have hnode : config.exact.nodeHeight ≤
      (f.placedNode config (f.measures config) 0 none Scalar.zero).size.width.value :=
    hsized.nodeHeight_le.trans hsized.height_le
  rw [layout_nodes]
  refine ⟨_, hroot, hmoderate.x.lt_add_half hmoderate.width (by decide) hmoderate.x_nonneg ?_ ?_⟩
  · linarith
  · linarith

/-- The node of an atom is high against the place where it stands. -/
theorem FitsIn.exists_high_of_atom (hchildren : f.children = []) :
    ∃ a ∈ (f.layout config).nodes.toList, a.center.y.value < a.bounds.maxY.value := by
  have hunits : f.units = 1 := by
    rw [hf.units_eq]
    cases f <;> first | rfl | cases hchildren
  have hquanta := (h.visible hunits).1
  have hroot := f.placedNode_mem_placedNodes config (f.measures config) 0 none Scalar.zero
  have hmoderate := h.moderate_of_mem hconfig hf hroot
  have hcenter := h.center_y_of_root hconfig hroot hf.depth_eq
  have hnode : config.exact.nodeHeight ≤
      (f.placedNode config (f.measures config) 0 none Scalar.zero).size.height.value :=
    (h.sized hconfig (toTreeNode_mem_arena hroot)).nodeHeight_le
  have hhalf := (h.halfHeight_lt hconfig).trans_le (h.tallest_le_of_atom hconfig hchildren)
  have hnonneg := (h.tracks_measures hconfig).halfHeight.nonneg
  rw [layout_nodes]
  refine ⟨_, hroot, hmoderate.y.lt_add_half hmoderate.height (by decide) (hcenter ▸ hnonneg) ?_ ?_⟩
  · linarith
  · linarith

/-- In both directions some outline ends behind the place where one begins. -/
theorem FitsIn.exists_minX_lt_maxX :
    ∃ a ∈ (f.layout config).nodes.toList, ∃ b ∈ (f.layout config).nodes.toList,
      a.bounds.minX.value < b.bounds.maxX.value := by
  by_cases hunits : f.units = 1
  · obtain ⟨a, ha, hlt⟩ := h.exists_wide_of_column hconfig hf hunits
    exact ⟨a, ha, a, ha, (h.moderate hconfig hf ha).minX_le.trans_lt hlt⟩
  · have hmany : 1 < f.units := lt_of_le_of_ne (Nat.le_max_right _ _) (Ne.symm hunits)
    obtain ⟨a, ha, b, hb, hlt⟩ := h.exists_apart_of_columns hconfig hf hmany
    have hab := (h.moderate hconfig hf ha).minX_le.trans_lt hlt
    exact ⟨a, ha, b, hb, hab.trans_le (h.moderate hconfig hf hb).le_maxX⟩

theorem FitsIn.exists_minY_lt_maxY :
    ∃ a ∈ (f.layout config).nodes.toList, ∃ b ∈ (f.layout config).nodes.toList,
      a.bounds.minY.value < b.bounds.maxY.value := by
  by_cases hchildren : f.children = []
  · obtain ⟨a, ha, hlt⟩ := h.exists_high_of_atom hconfig hf hchildren
    exact ⟨a, ha, a, ha, (h.moderate hconfig hf ha).minY_le.trans_lt hlt⟩
  · obtain ⟨a, ha, b, hb, hlt⟩ := h.exists_apart_of_rows hconfig hf hchildren
    have hab := (h.moderate hconfig hf ha).minY_le.trans_lt hlt
    exact ⟨a, ha, b, hb, hab.trans_le (h.moderate hconfig hf hb).le_maxY⟩

end

end Formula

end FormulaDiagram
