import FormulaDiagram.Proofs.Layout.Spacing
import FormulaDiagram.Proofs.Numeric.Magnitude

/-!
Layouts without overflow. The layout of values is computed beside that of exact numbers, operation for operation, so
each measure stays within a power of two of the exact one. Only the left sides are sums of any length. They do not
grow by a factor with each addition, because a sum is rounded to within twice what is added to the left side before
it. So if the exact columns and rows stay below a limit, every coordinate is finite, and the nodes do not all stand on
one line.
-/

namespace FormulaDiagram

open Binary (Tracks Within)

namespace Config

/-- The same measures as exact numbers. -/
def exact (config : Config Single) : Config Rat where
  unitWidth := config.unitWidth.value
  siblingGap := config.siblingGap.value
  rowHeight := config.rowHeight.value
  nodeHeight := config.nodeHeight.value
  nodePadding := config.nodePadding.value
  fontSize := config.fontSize.value
  margin := config.margin.value

variable {config : Config Single} {field : ConfigField}

theorem get_exact (config : Config Single) (field : ConfigField) :
    config.exact.get field = (config.get field).value := by
  cases field <;> rfl

theorem of_checkPositive (h : config.checkPositive field = .ok ()) :
    (config.get field).isFinite ∧ 0 < config.exact.get field := by
  unfold checkPositive at h
  dsimp only at h
  split at h
  · cases h
  · next hcheck =>
    rw [Bool.or_eq_true, not_or, Bool.not_eq_true', Bool.not_eq_false, decide_eq_true_eq] at hcheck
    obtain ⟨hfinite, hpos⟩ := hcheck
    obtain ⟨hzero, hvalue⟩ := Binary.scalar_zero
    rw [get_exact]
    exact ⟨hfinite, hvalue ▸ lt_of_not_ge fun hle => hpos ((Binary.le_iff hfinite hzero).2 hle)⟩

theorem of_checkNotNegative (h : config.checkNotNegative field = .ok ()) :
    (config.get field).isFinite ∧ 0 ≤ config.exact.get field := by
  unfold checkNotNegative at h
  dsimp only at h
  split at h
  · cases h
  · next hcheck =>
    rw [Bool.or_eq_true, not_or, Bool.not_eq_true', Bool.not_eq_false, decide_eq_true_eq] at hcheck
    obtain ⟨hfinite, hnonneg⟩ := hcheck
    obtain ⟨hzero, hvalue⟩ := Binary.scalar_zero
    rw [get_exact]
    exact ⟨hfinite, hvalue ▸ le_of_not_gt fun hlt => hnonneg ((Binary.lt_iff hfinite hzero).2 hlt)⟩

/-- Measures that are accepted are finite, and right as exact numbers. -/
theorem sound_of_validate (h : config.validate = .ok ()) :
    (∀ field, (config.get field).isFinite) ∧ config.exact.Sound := by
  simp only [validate, check_eq_ok_iff] at h
  obtain ⟨hunit, hrow, hnode, hfont, hgap, hpadding, hmargin⟩ := h
  have hunit := of_checkPositive hunit
  have hrow := of_checkPositive hrow
  have hnode := of_checkPositive hnode
  have hfont := of_checkPositive hfont
  have hgap := of_checkNotNegative hgap
  have hpadding := of_checkNotNegative hpadding
  have hmargin := of_checkNotNegative hmargin
  refine ⟨?_, hunit.2, hrow.2, hnode.2, hfont.2, hgap.2, hpadding.2, hmargin.2⟩
  intro field
  cases field
  · exact hunit.1
  · exact hgap.1
  · exact hrow.1
  · exact hnode.1
  · exact hpadding.1
  · exact hfont.1
  · exact hmargin.1

theorem Sound.get_nonneg {config : Config Rat} (h : config.Sound) (field : ConfigField) : 0 ≤ config.get field := by
  cases field
  · exact h.unitWidth.le
  · exact h.siblingGap
  · exact h.rowHeight.le
  · exact h.nodeHeight.le
  · exact h.nodePadding
  · exact h.fontSize.le
  · exact h.margin

theorem tracks_get (h : config.validate = .ok ()) (field : ConfigField) :
    Tracks 0 (config.get field) (config.exact.get field) := by
  obtain ⟨hfinite, hsound⟩ := sound_of_validate h
  have hnonneg := hsound.get_nonneg field
  rw [get_exact] at hnonneg ⊢
  exact ⟨hfinite field, hnonneg, by rw [pow_zero, one_mul]⟩

end Config

namespace Layout

/-! ### Sizes -/

theorem tracks_zero : Tracks 0 (Scalar.zero : Single) (Scalar.zero : Rat) := by
  obtain ⟨hfinite, hvalue⟩ := Binary.scalar_zero
  rw [Scalar.rat_zero]
  exact ⟨hfinite, hvalue.ge, by rw [hvalue, mul_zero]⟩

theorem tracks_ofNat {n : Nat} (h : n ≤ 2 ^ 64) : Tracks 1 (Scalar.ofNat n : Single) (Scalar.ofNat n : Rat) :=
  Binary.tracks_ofNat (h.trans (Nat.pow_le_pow_right (by decide) (by decide)))

theorem tracks_labelSize {label : String} {font : Single} {r : Rat} (hfont : Tracks 0 font r)
    (hlength : label.length ≤ 2 ^ 64) (hwidth : (labelSize label r).width ≤ 2 ^ 114)
    (hheight : (labelSize label r).height ≤ 2 ^ 114) :
    Tracks 4 (labelSize label font).width (labelSize label r).width ∧
      Tracks 4 (labelSize label font).height (labelSize label r).height := by
  unfold labelSize at hwidth hheight ⊢
  split
  · exact ⟨tracks_zero.mono (by decide) le_rfl, tracks_zero.mono (by decide) le_rfl⟩
  · next hempty =>
    rw [if_neg hempty] at hwidth hheight
    have hcount : (label.length : Rat) * (3 / 5) ≤ 2 ^ 114 := by
      have hlength' : (label.length : Rat) ≤ 2 ^ 64 := by exact_mod_cast hlength
      linarith [(by norm_num : (2 : Rat) ^ 64 ≤ 2 ^ 114)]
    have hratio : Tracks 1 (Scalar.ratio 3 5 : Single) (Scalar.ratio 3 5) :=
      Binary.tracks_ratio (by decide) (by decide) (by decide)
    have hline : Tracks 1 (Scalar.ratio 6 5 : Single) (Scalar.ratio 6 5) :=
      Binary.tracks_ratio (by decide) (by decide) (by decide)
    have hcharacters := (tracks_ofNat hlength).mul hratio (by decide) hcount
    exact ⟨hcharacters.mul hfont (by decide) hwidth, (hline.mul hfont (by decide) hheight).mono (by decide) le_rfl⟩

theorem labelSize_nonneg {r : Rat} (hr : 0 ≤ r) (label : String) : 0 ≤ (labelSize label r).width := by
  unfold labelSize
  split
  · exact Scalar.rat_zero.ge
  · exact mul_nonneg (mul_nonneg (Nat.cast_nonneg _) (by decide +kernel)) hr

/-- The outline has room for the label. -/
theorem labelSize_le_nodeSize {config : Config Rat} (hsound : config.Sound) (label : String) (kind : NodeKind) :
    (labelSize label config.fontSize).width + config.nodePadding ≤ (nodeSize config label kind).width ∧
      (labelSize label config.fontSize).height ≤ (nodeSize config label kind).height := by
  have hpadding := hsound.nodePadding
  have hheight := Scalar.rat_le_max_right config.nodeHeight (labelSize label config.fontSize).height
  unfold nodeSize
  dsimp only
  cases kind.isRound with
  | false =>
      refine ⟨?_, hheight⟩
      have hdouble : (Scalar.double config.nodePadding : Rat) = 2 * config.nodePadding := rfl
      refine le_trans ?_ (Scalar.rat_le_max_right _ _)
      linarith
  | true => exact ⟨Scalar.rat_le_max_right _ _, hheight.trans (Scalar.rat_le_max_left _ _)⟩

variable {config : Config Single}

/-- The outline is as large as the exact one up to five binary digits, no lower than is configured and no narrower than
it is high. -/
structure Sized (config : Config Single) (size : Size Single) (exact : Size Rat) : Prop where
  width : Tracks 5 size.width exact.width
  height : Tracks 5 size.height exact.height
  nodeHeight_le : config.nodeHeight.value ≤ size.height.value
  height_le : size.height.value ≤ size.width.value

theorem sized_nodeSize (hconfig : config.validate = .ok ()) {label : String} {kind : NodeKind}
    (hlength : label.length ≤ 2 ^ 64) (hwidth : (nodeSize config.exact label kind).width ≤ 2 ^ 114)
    (hheight : (nodeSize config.exact label kind).height ≤ 2 ^ 114) :
    Sized config (nodeSize config label kind) (nodeSize config.exact label kind) := by
  have hnode : Tracks 0 config.nodeHeight config.exact.nodeHeight := Config.tracks_get hconfig .nodeHeight
  have hpadding : Tracks 0 config.nodePadding config.exact.nodePadding := Config.tracks_get hconfig .nodePadding
  have hfont : Tracks 0 config.fontSize config.exact.fontSize := Config.tracks_get hconfig .fontSize
  obtain ⟨hroom, hroom'⟩ := labelSize_le_nodeSize (Config.sound_of_validate hconfig).2 label kind
  have hnonneg := labelSize_nonneg hfont.exact_nonneg label
  have hpadded := hpadding.exact_nonneg
  obtain ⟨htext, htext'⟩ := tracks_labelSize hfont hlength (by linarith) (hroom'.trans hheight)
  have hbox := ((hnode.mono (Nat.zero_le 4) le_rfl).max htext').mono (Nat.le_succ 4) le_rfl
  have hleast := Binary.le_max_left hnode.finite htext'.finite
  unfold nodeSize at hwidth ⊢
  dsimp only at hwidth ⊢
  cases hround : kind.isRound with
  | false =>
      rw [hround] at hwidth
      have hwide := (Scalar.rat_le_max_right _ _).trans hwidth
      have hdouble : Tracks 2 (Scalar.double config.nodePadding) (Scalar.double config.exact.nodePadding) :=
        (tracks_ofNat (by decide)).mul hpadding (by decide) ((le_add_of_nonneg_left hnonneg).trans hwide)
      have hsum := htext.add (hdouble.mono (by decide) le_rfl) (by decide) hwide
      exact ⟨hbox.max hsum, hbox, hleast, Binary.le_max_left hbox.finite hsum.finite⟩
  | true =>
      rw [hround] at hwidth
      have hwide := (Scalar.rat_le_max_right _ _).trans hwidth
      have hsum := htext.add (hpadding.mono (Nat.zero_le 4) le_rfl) (by decide) hwide
      have hdiameter := hbox.max hsum
      exact ⟨hdiameter, hdiameter, hleast.trans (Binary.le_max_left hbox.finite hsum.finite), le_rfl⟩

/-! ### Measures -/

section

variable {α : Type} [Scalar α]

def widest (config : Config α) (nodes : List TreeNode) : α :=
  nodes.foldl (fun w node => max w (nodeSize config node.label node.kind).width) Scalar.zero

def tallest (config : Config α) (nodes : List TreeNode) : α :=
  nodes.foldl (fun h node => max h (nodeSize config node.label node.kind).height) config.nodeHeight

theorem measures_map (config : Config α) (nodes : Array TreeNode) :
    measures config (nodes.map fun node => nodeSize config node.label node.kind) =
      { unit := max config.unitWidth (widest config nodes.toList + config.siblingGap)
        rowHeight := max config.rowHeight (tallest config nodes.toList + config.siblingGap)
        halfHeight := Scalar.half (tallest config nodes.toList) } := by
  rw [measures, ← Array.foldl_toList, ← Array.foldl_toList, Array.toList_map, List.foldl_map, List.foldl_map]
  rfl

end

/-- The measures are finite, and as large as the exact ones up to six binary digits. -/
structure Measures.Tracks (m : Measures Single) (exact : Measures Rat) : Prop where
  unit : Binary.Tracks 6 m.unit exact.unit
  rowHeight : Binary.Tracks 6 m.rowHeight exact.rowHeight
  halfHeight : Binary.Tracks 6 m.halfHeight exact.halfHeight

end Layout

namespace Formula

variable {f : Formula} {config : Config Single}

/-- What the drawing of a formula takes by exact arithmetic: it has no more nodes, rows and characters than a machine
word counts, and its columns and rows with the margin stay below the limit. A single column is not so wide against the
height of its node that the width of the node is lost in it. -/
structure FitsIn (f : Formula) (config : Config Single) : Prop where
  counts : ∀ node ∈ f.arena.toList, node.leafCount ≤ 2 ^ 64 ∧ node.depth ≤ 2 ^ 64 ∧ node.label.length ≤ 2 ^ 64
  columns : f.units * (f.measures config.exact).unit + config.exact.margin ≤ 2 ^ 114
  rows : ∀ node ∈ f.arena.toList,
    (node.depth + 1) * (f.measures config.exact).rowHeight + config.exact.margin ≤ 2 ^ 114
  visible : f.units = 1 →
    1 ≤ 2 ^ 148 * config.exact.nodeHeight ∧ (f.measures config.exact).unit ≤ 2 ^ 16 * config.exact.nodeHeight

theorem fitsIn_iff : f.FitsIn config ↔
    (∀ node ∈ f.arena.toList, node.leafCount ≤ 2 ^ 64 ∧ node.depth ≤ 2 ^ 64 ∧ node.label.length ≤ 2 ^ 64) ∧
      f.units * (f.measures config.exact).unit + config.exact.margin ≤ 2 ^ 114 ∧
      (∀ node ∈ f.arena.toList,
        (node.depth + 1) * (f.measures config.exact).rowHeight + config.exact.margin ≤ 2 ^ 114) ∧
      (f.units = 1 → 1 ≤ 2 ^ 148 * config.exact.nodeHeight ∧
        (f.measures config.exact).unit ≤ 2 ^ 16 * config.exact.nodeHeight) :=
  ⟨fun h => ⟨h.counts, h.columns, h.rows, h.visible⟩, fun ⟨hcounts, hcolumns, hrows, hvisible⟩ =>
    ⟨hcounts, hcolumns, hrows, hvisible⟩⟩

instance (f : Formula) (config : Config Single) : Decidable (f.FitsIn config) := decidable_of_iff _ fitsIn_iff.symm

theorem treeNode_mem_arena (f : Formula) : f.treeNode 0 none ∈ f.arena.toList := by
  rw [arena_eq]
  cases f <;> simp [treeNodes]

theorem FitsIn.unit_le (h : f.FitsIn config) (hconfig : config.validate = .ok ()) :
    (f.measures config.exact).unit ≤ 2 ^ 114 := by
  have hsound := (Config.sound_of_validate hconfig).2
  have hunits : (1 : Rat) ≤ f.units := Nat.one_le_cast.2 (Nat.le_max_right _ _)
  have hwide := mul_le_mul_of_nonneg_right hunits (f.fit_measures hsound).unit_pos.le
  linarith [h.columns, hsound.margin]

theorem FitsIn.margin_le (h : f.FitsIn config) (hconfig : config.validate = .ok ()) :
    config.exact.margin ≤ 2 ^ 114 := by
  have hsound := (Config.sound_of_validate hconfig).2
  have hcolumns := mul_nonneg (Nat.cast_nonneg f.units) (f.fit_measures hsound).unit_pos.le
  linarith [h.columns]

theorem rowHeight_nonneg (hconfig : config.validate = .ok ()) : 0 ≤ (f.measures config.exact).rowHeight := by
  have hsound := (Config.sound_of_validate hconfig).2
  exact hsound.rowHeight.le.trans (Scalar.rat_le_max_left _ _)

theorem FitsIn.row_le (h : f.FitsIn config) (hconfig : config.validate = .ok ()) :
    (f.measures config.exact).rowHeight ≤ 2 ^ 114 := by
  have hsound := (Config.sound_of_validate hconfig).2
  have hrow := h.rows _ f.treeNode_mem_arena
  have hrow' := rowHeight_nonneg (f := f) hconfig
  have hdepth : (0 : Rat) ≤ (f.treeNode 0 none).depth * (f.measures config.exact).rowHeight :=
    mul_nonneg (Nat.cast_nonneg _) hrow'
  linarith [hsound.margin]

theorem FitsIn.nodeSize_le (h : f.FitsIn config) (hconfig : config.validate = .ok ()) {node : TreeNode}
    (hnode : node ∈ f.arena.toList) :
    (Layout.nodeSize config.exact node.label node.kind).width ≤ 2 ^ 114 ∧
      (Layout.nodeSize config.exact node.label node.kind).height ≤ 2 ^ 114 := by
  have hsound := (Config.sound_of_validate hconfig).2
  have hfit := f.fit_measures hsound
  have hsize := List.mem_map_of_mem (f := fun t : TreeNode => Layout.nodeSize config.exact t.label t.kind) hnode
  constructor
  · linarith [hfit.width _ hsize, hsound.siblingGap, h.unit_le hconfig]
  · linarith [hfit.height _ hsize, hfit.row, hsound.siblingGap, h.row_le hconfig]

theorem FitsIn.sized (h : f.FitsIn config) (hconfig : config.validate = .ok ()) {node : TreeNode}
    (hnode : node ∈ f.arena.toList) :
    Layout.Sized config (Layout.nodeSize config node.label node.kind)
      (Layout.nodeSize config.exact node.label node.kind) := by
  obtain ⟨hwidth, hheight⟩ := h.nodeSize_le hconfig hnode
  exact Layout.sized_nodeSize hconfig (h.counts node hnode).2.2 hwidth hheight

theorem FitsIn.tracks_widest (h : f.FitsIn config) (hconfig : config.validate = .ok ()) :
    Tracks 5 (Layout.widest config f.arena.toList) (Layout.widest config.exact f.arena.toList) :=
  (Layout.tracks_zero.mono (Nat.zero_le 5) le_rfl).foldl_max fun _ hnode => (h.sized hconfig hnode).width

theorem FitsIn.tracks_tallest (h : f.FitsIn config) (hconfig : config.validate = .ok ()) :
    Tracks 5 (Layout.tallest config f.arena.toList) (Layout.tallest config.exact f.arena.toList) :=
  ((Config.tracks_get hconfig .nodeHeight).mono (Nat.zero_le 5) le_rfl).foldl_max
    fun _ hnode => (h.sized hconfig hnode).height

theorem measures_eq {α : Type} [Scalar α] (f : Formula) (config : Config α) :
    f.measures config =
      { unit := max config.unitWidth (Layout.widest config f.arena.toList + config.siblingGap)
        rowHeight := max config.rowHeight (Layout.tallest config f.arena.toList + config.siblingGap)
        halfHeight := Scalar.half (Layout.tallest config f.arena.toList) } :=
  Layout.measures_map config f.arena

theorem FitsIn.tracks_column (h : f.FitsIn config) (hconfig : config.validate = .ok ()) :
    Tracks 6 (Layout.widest config f.arena.toList + config.siblingGap)
      (Layout.widest config.exact f.arena.toList + config.exact.siblingGap) := by
  have hunit := h.unit_le hconfig
  rw [measures_eq] at hunit
  exact (h.tracks_widest hconfig).add ((Config.tracks_get hconfig .siblingGap).mono (Nat.zero_le 5) le_rfl) (by decide)
    ((Scalar.rat_le_max_right _ _).trans hunit)

theorem FitsIn.tracks_row (h : f.FitsIn config) (hconfig : config.validate = .ok ()) :
    Tracks 6 (Layout.tallest config f.arena.toList + config.siblingGap)
      (Layout.tallest config.exact f.arena.toList + config.exact.siblingGap) := by
  have hrow := h.row_le hconfig
  rw [measures_eq] at hrow
  exact (h.tracks_tallest hconfig).add ((Config.tracks_get hconfig .siblingGap).mono (Nat.zero_le 5) le_rfl) (by decide)
    ((Scalar.rat_le_max_right _ _).trans hrow)

theorem FitsIn.tracks_measures (h : f.FitsIn config) (hconfig : config.validate = .ok ()) :
    (f.measures config).Tracks (f.measures config.exact) := by
  rw [measures_eq, measures_eq]
  exact
    { unit := ((Config.tracks_get hconfig .unitWidth).mono (Nat.zero_le 6) le_rfl).max (h.tracks_column hconfig)
      rowHeight := ((Config.tracks_get hconfig .rowHeight).mono (Nat.zero_le 6) le_rfl).max (h.tracks_row hconfig)
      halfHeight := (h.tracks_tallest hconfig).half }

/-! ### Places -/

theorem FitsIn.units_le (h : f.FitsIn config) : f.units ≤ 2 ^ 64 := (h.counts _ f.treeNode_mem_arena).1

/-- The formula is laid out behind a number of units of the whole one, and its left side is as large as those are up to
nine binary digits. -/
def Advances (whole : Formula) (unit : Rat) (f : Formula) (left : Single) : Prop :=
  (∃ depth, f.Measured depth) ∧
    ∃ before : Nat, before + f.units ≤ whole.units ∧ Tracks 9 left (before * unit)

/-- Widths of some of the units. -/
theorem FitsIn.units_mul_le (h : f.FitsIn config) (hconfig : config.validate = .ok ()) {r : Rat} (hr : r ≤ f.units) :
    r * (f.measures config.exact).unit ≤ 2 ^ 114 := by
  have hsound := (Config.sound_of_validate hconfig).2
  have hwidth := mul_le_mul_of_nonneg_right hr (f.fit_measures hsound).unit_pos.le
  linarith [h.columns, hsound.margin]

theorem FitsIn.rounds_extent (h : f.FitsIn config) (hconfig : config.validate = .ok ()) {n : Nat} (hn : n ≤ f.units) :
    (Layout.extent (f.measures config).unit n).Rounds
      ((Scalar.ofNat n : Single).value * (f.measures config).unit.value) := by
  have hlimit := h.units_mul_le hconfig (Nat.cast_le.2 hn)
  rw [Layout.extent]
  exact (Layout.tracks_ofNat (hn.trans h.units_le)).rounds_mul (h.tracks_measures hconfig).unit (by decide) hlimit

theorem FitsIn.tracks_extent (h : f.FitsIn config) (hconfig : config.validate = .ok ()) {n : Nat} (hn : n ≤ f.units) :
    Tracks 8 (Layout.extent (f.measures config).unit n) (n * (f.measures config.exact).unit) := by
  have hlimit := h.units_mul_le hconfig (Nat.cast_le.2 hn)
  rw [Layout.extent]
  exact (Layout.tracks_ofNat (hn.trans h.units_le)).mul (h.tracks_measures hconfig).unit (by decide) hlimit

/-- The left side of the next one is a value next to which little is added, so it stays in proportion. -/
theorem FitsIn.tracks_next (h : f.FitsIn config) (hconfig : config.validate = .ok ()) {before n : Nat}
    (hn : before + n ≤ f.units) {left : Single} (hleft : Tracks 9 left (before * (f.measures config.exact).unit)) :
    Tracks 9 (left + Layout.extent (f.measures config).unit n)
      ((before + n : Nat) * (f.measures config.exact).unit) := by
  have hextent := h.tracks_extent hconfig (Nat.le_of_add_left_le hn)
  have hlimit := h.units_mul_le hconfig (Nat.cast_le.2 hn)
  rw [Nat.cast_add, add_mul] at hlimit ⊢
  have hsum := hleft.add (hextent.mono (by decide) le_rfl) (by decide) hlimit
  refine ⟨hsum.finite, hsum.nonneg, ?_⟩
  have hrounds : (left + Layout.extent (f.measures config).unit n).Rounds
      (left.value + (Layout.extent (f.measures config).unit n).value) :=
    hleft.rounds_add (hextent.mono (by decide) le_rfl) (by decide) hlimit
  have hnext := hrounds.le_add hleft.finite hextent.nonneg rfl
  have hleft' := hleft.le
  have hextent' := hextent.le
  rw [mul_add]
  linarith

theorem FitsIn.advances_child (h : f.FitsIn config) (hconfig : config.validate = .ok ()) {g child : Formula}
    {position place : Nat} {left left' : Single} (hg : f.Advances (f.measures config.exact).unit g left)
    (hchild : (child, place, left') ∈ g.laidChildren (f.measures config).unit position left) :
    f.Advances (f.measures config.exact).unit child left' := by
  obtain ⟨⟨depth, hmeasured⟩, before, hbefore, hleft⟩ := hg
  have hbelow := hmeasured.child (mem_children_of_laid hchild)
  cases g with
  | atom => cases hchild
  | negation facts operand =>
      cases List.mem_singleton.1 hchild
      exact ⟨⟨_, hbelow⟩, before, hmeasured.units_child rfl rfl ▸ hbefore, hleft⟩
  | binary facts connective leftOperand right =>
      have hunits := hmeasured.units_operands (g := leftOperand) (k := right) rfl rfl
      rcases List.mem_pair.1 hchild with hchild | hchild
      · cases hchild
        exact ⟨⟨_, hbelow⟩, before, by omega, hleft⟩
      · cases hchild
        exact ⟨⟨_, hbelow⟩, before + leftOperand.units, by omega, h.tracks_next hconfig (by omega) hleft⟩
  | quantified facts quantifier bound body =>
      cases List.mem_singleton.1 hchild
      exact ⟨⟨_, hbelow⟩, before, hmeasured.units_child rfl rfl ▸ hbefore, hleft⟩

end Formula

/-- All of the node is finite, with room to add and subtract a few times. -/
structure PlacedNode.Moderate (node : PlacedNode Single) : Prop where
  left : Within 124 node.left
  extent : Within 124 node.extent
  x : Within 124 node.center.x
  y : Within 124 node.center.y
  width : Within 124 node.size.width
  height : Within 124 node.size.height
  extent_nonneg : 0 ≤ node.extent.value
  x_nonneg : 0 ≤ node.center.x.value
  width_nonneg : 0 ≤ node.size.width.value
  height_nonneg : 0 ≤ node.size.height.value

/-- All coordinates of the rectangle are finite and at most a power of two in size. -/
structure Bounds.Within (e : Nat) (b : Bounds Single) : Prop where
  minX : Binary.Within e b.minX
  minY : Binary.Within e b.minY
  maxX : Binary.Within e b.maxX
  maxY : Binary.Within e b.maxY

namespace PlacedNode.Moderate

variable {node : PlacedNode Single}

theorem halfExtent (h : node.Moderate) : Within 124 (Scalar.half node.extent) :=
  (h.extent.mono (Nat.le_succ 124)).half (by decide)

theorem halfWidth (h : node.Moderate) : Within 124 (Scalar.half node.size.width) :=
  (h.width.mono (Nat.le_succ 124)).half (by decide)

theorem halfHeight (h : node.Moderate) : Within 124 (Scalar.half node.size.height) :=
  (h.height.mono (Nat.le_succ 124)).half (by decide)

theorem halfExtent_nonneg (h : node.Moderate) : 0 ≤ (Scalar.half node.extent).value :=
  (Binary.rounds_half h.extent.finite).nonneg (div_nonneg h.extent_nonneg two_pos.le)

theorem halfWidth_nonneg (h : node.Moderate) : 0 ≤ (Scalar.half node.size.width).value :=
  (Binary.rounds_half h.width.finite).nonneg (div_nonneg h.width_nonneg two_pos.le)

theorem halfHeight_nonneg (h : node.Moderate) : 0 ≤ (Scalar.half node.size.height).value :=
  (Binary.rounds_half h.height.finite).nonneg (div_nonneg h.height_nonneg two_pos.le)

theorem bounds (h : node.Moderate) : node.bounds.Within 125 where
  minX := h.x.sub h.halfWidth (by decide)
  minY := h.y.sub h.halfHeight (by decide)
  maxX := h.x.add h.halfWidth (by decide)
  maxY := h.y.add h.halfHeight (by decide)

theorem minX_le (h : node.Moderate) : node.bounds.minX.value ≤ node.center.x.value :=
  h.x.sub_le h.halfWidth (by decide) h.halfWidth_nonneg

theorem le_maxX (h : node.Moderate) : node.center.x.value ≤ node.bounds.maxX.value :=
  h.x.le_add h.halfWidth (by decide) h.halfWidth_nonneg

theorem minY_le (h : node.Moderate) : node.bounds.minY.value ≤ node.center.y.value :=
  h.y.sub_le h.halfHeight (by decide) h.halfHeight_nonneg

theorem le_maxY (h : node.Moderate) : node.center.y.value ≤ node.bounds.maxY.value :=
  h.y.le_add h.halfHeight (by decide) h.halfHeight_nonneg

end PlacedNode.Moderate

namespace Formula

variable {f : Formula} {config : Config Single}

theorem exists_of_mem_layout (h : f.FitsIn config) (hconfig : config.validate = .ok ()) (hf : f.Measured 0)
    {node : PlacedNode Single} (hnode : node ∈ (f.layout config).nodes.toList) :
    node.toTreeNode ∈ f.arena.toList ∧ ∃ g position parent left,
      f.Advances (f.measures config.exact).unit g left ∧
        node = g.placedNode config (f.measures config) position parent left := by
  rw [layout_nodes] at hnode
  refine ⟨toTreeNode_mem_arena hnode, ?_⟩
  refine exists_of_mem_of_step (P := f.Advances (f.measures config.exact).unit) ?_ ?_ hnode
  · intro g position left hg child place left' hchild
    exact h.advances_child hconfig hg hchild
  · refine ⟨⟨0, hf⟩, 0, by omega, ?_⟩
    rw [Nat.cast_zero, zero_mul, ← Scalar.rat_zero]
    exact Layout.tracks_zero.mono (by decide) le_rfl

theorem FitsIn.tracks_center_x (h : f.FitsIn config) (hconfig : config.validate = .ok ()) {before n : Nat}
    (hn : before + n ≤ f.units) {left : Single} (hleft : Tracks 9 left (before * (f.measures config.exact).unit)) :
    ∃ r ≤ 2 ^ 114, Tracks 10 (left + Scalar.half (Layout.extent (f.measures config).unit n)) r := by
  have hextent := h.tracks_extent hconfig (Nat.le_of_add_left_le hn)
  have hnonneg := hextent.exact_nonneg
  have hwhole := h.units_mul_le hconfig (Nat.cast_le.2 hn)
  rw [Nat.cast_add, add_mul] at hwhole
  have hhalf : (Scalar.half (n * (f.measures config.exact).unit) : Rat) = n * (f.measures config.exact).unit / 2 := rfl
  have hlimit : before * (f.measures config.exact).unit + Scalar.half (n * (f.measures config.exact).unit) ≤
      2 ^ 114 := by
    rw [hhalf]
    linarith
  exact ⟨_, hlimit, hleft.add hextent.half (by decide) hlimit⟩

theorem FitsIn.rows_le (h : f.FitsIn config) (hconfig : config.validate = .ok ()) {node : TreeNode}
    (hnode : node ∈ f.arena.toList) :
    (Scalar.ofNat node.depth : Rat) * (f.measures config.exact).rowHeight + (f.measures config.exact).halfHeight ≤
      2 ^ 114 := by
  obtain ⟨-, hsound⟩ := Config.sound_of_validate hconfig
  have hrow := (f.fit_measures hsound).row
  have hrows := h.rows node hnode
  have hhalf := (h.tracks_measures hconfig).halfHeight.exact_nonneg
  have hcast : (Scalar.ofNat node.depth : Rat) = node.depth := rfl
  rw [hcast]
  linarith [hsound.margin, hsound.siblingGap]

theorem FitsIn.rows_above_le (h : f.FitsIn config) (hconfig : config.validate = .ok ()) {node : TreeNode}
    (hnode : node ∈ f.arena.toList) :
    (Scalar.ofNat node.depth : Rat) * (f.measures config.exact).rowHeight ≤ 2 ^ 114 :=
  (le_add_of_nonneg_right (h.tracks_measures hconfig).halfHeight.exact_nonneg).trans (h.rows_le hconfig hnode)

theorem FitsIn.tracks_rows (h : f.FitsIn config) (hconfig : config.validate = .ok ()) {node : TreeNode}
    (hnode : node ∈ f.arena.toList) :
    Tracks 8 (Scalar.ofNat node.depth * (f.measures config).rowHeight)
      (Scalar.ofNat node.depth * (f.measures config.exact).rowHeight) :=
  (Layout.tracks_ofNat (h.counts node hnode).2.1).mul (h.tracks_measures hconfig).rowHeight (by decide)
    (h.rows_above_le hconfig hnode)

theorem FitsIn.tracks_center_y (h : f.FitsIn config) (hconfig : config.validate = .ok ()) {node : TreeNode}
    (hnode : node ∈ f.arena.toList) :
    Tracks 9 (Scalar.ofNat node.depth * (f.measures config).rowHeight + (f.measures config).halfHeight)
      (Scalar.ofNat node.depth * (f.measures config.exact).rowHeight + (f.measures config.exact).halfHeight) :=
  (h.tracks_rows hconfig hnode).add ((h.tracks_measures hconfig).halfHeight.mono (by decide) le_rfl) (by decide)
    (h.rows_le hconfig hnode)

/-- Every node of the layout is moderate. -/
theorem FitsIn.moderate (h : f.FitsIn config) (hconfig : config.validate = .ok ()) (hf : f.Measured 0)
    {node : PlacedNode Single} (hnode : node ∈ (f.layout config).nodes.toList) : node.Moderate := by
  obtain ⟨harena, g, position, parent, left, ⟨-, before, hbefore, hleft⟩, hplace⟩ :=
    exists_of_mem_layout h hconfig hf hnode
  have hsized := h.sized hconfig harena
  obtain ⟨hwidth, hheight⟩ := h.nodeSize_le hconfig harena
  have hcolumns := h.units_mul_le hconfig (Nat.cast_le.2 (Nat.le_of_add_right_le hbefore))
  have hextent := h.tracks_extent hconfig (Nat.le_of_add_left_le hbefore)
  have hcolumn := h.units_mul_le hconfig (Nat.cast_le.2 (Nat.le_of_add_left_le hbefore))
  obtain ⟨r, hr, hx⟩ := h.tracks_center_x hconfig hbefore hleft
  have hy := (h.tracks_center_y hconfig harena).within (h.rows_le hconfig harena) (by decide : 9 + 114 ≤ 124)
  subst hplace
  exact
    { left := hleft.within hcolumns (by decide)
      extent := hextent.within hcolumn (by decide)
      x := hx.within hr (by decide)
      y := hy
      width := hsized.width.within hwidth (by decide)
      height := hsized.height.within hheight (by decide)
      extent_nonneg := hextent.nonneg
      x_nonneg := hx.nonneg
      width_nonneg := hsized.width.nonneg
      height_nonneg := hsized.height.nonneg }

end Formula

end FormulaDiagram
