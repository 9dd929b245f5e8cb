import Mathlib.Analysis.Convex.Segment
import Mathlib.Topology.Instances.Real.Lemmas
import Mathlib.Topology.Order.DenselyOrdered
import FormulaDiagram.Proofs.Layout.Spacing

/-!
Why no connector crosses anything. A connector runs down from the middle of the span of the parent to the middle of that
of the child, so it keeps to the span of the parent, and to the heights between the outlines of both. Other rows do not
reach these heights, and of the two rows that do, only the parent and its children have anything in its span. The middle
of the parent lies between the middles of two children, and the outline of a child does not reach it: the span of the
other child is as wide as any outline. Points are those of the real plane.
-/

namespace FormulaDiagram

def Point.toReal (p : Point Rat) : ℝ × ℝ := (p.x, p.y)

/-- The points of the rectangle. -/
def Bounds.region (b : Bounds Rat) : Set (ℝ × ℝ) := Set.Icc (b.minX : ℝ) b.maxX ×ˢ Set.Icc (b.minY : ℝ) b.maxY

/-- The points of the straight line between two points. -/
def line (s t : Point Rat) : Set (ℝ × ℝ) := segment ℝ s.toReal t.toReal

theorem Bounds.mem_interior_region {b : Bounds Rat} {p : ℝ × ℝ} :
    p ∈ interior b.region ↔ (b.minX < p.1 ∧ p.1 < b.maxX) ∧ b.minY < p.2 ∧ p.2 < b.maxY := by
  rw [region, interior_prod_eq, interior_Icc, interior_Icc]
  rfl

section

variable {s t : Point Rat} {p : ℝ × ℝ} {S : Set ℝ} [S.OrdConnected]

/-- A line stays in every vertical strip that its ends are in. -/
theorem fst_mem_of_line (hp : p ∈ line s t) (hs : (s.x : ℝ) ∈ S) (ht : (t.x : ℝ) ∈ S) : p.1 ∈ S := by
  have hmem := (Prod.segment_subset _ _ hp).1
  rw [segment_eq_uIcc] at hmem
  exact Set.OrdConnected.uIcc_subset ‹_› hs ht hmem

theorem snd_mem_of_line (hp : p ∈ line s t) (hs : (s.y : ℝ) ∈ S) (ht : (t.y : ℝ) ∈ S) : p.2 ∈ S := by
  have hmem := (Prod.segment_subset _ _ hp).2
  rw [segment_eq_uIcc] at hmem
  exact Set.OrdConnected.uIcc_subset ‹_› hs ht hmem

end

/-- A line that is not vertical has only its start straight above or below its start. -/
theorem eq_start_of_line {s t : Point Rat} {p : ℝ × ℝ} (hp : p ∈ line s t) (hne : s.x ≠ t.x) (hx : p.1 = s.x) :
    p = s.toReal := by
  obtain ⟨u, v, -, -, huv, rfl⟩ := hp
  have hx' : u * (s.x : ℝ) + v * t.x = s.x := hx
  have hzero : v * ((t.x : ℝ) - s.x) = 0 := by
    have hu : u = 1 - v := by linarith
    rw [hu] at hx'
    linarith
  have hdiff : (t.x : ℝ) - s.x ≠ 0 := sub_ne_zero.2 fun h => hne (Rat.cast_injective h.symm)
  have hv : v = 0 := (mul_eq_zero.1 hzero).resolve_right hdiff
  have hu : u = 1 := by linarith
  rw [hu, hv, one_smul, zero_smul, add_zero]

theorem Edge.ext {e₁ e₂ : Edge} (hparent : e₁.parent = e₂.parent) (hchild : e₁.child = e₂.child) : e₁ = e₂ := by
  cases e₁
  cases e₂
  cases hparent
  cases hchild
  rfl

namespace LayoutTree

/-- Every edge has a connector, which enters no outline. Connectors from different parents have no point in common,
those from one parent have the one they start at. -/
structure Planar (tree : LayoutTree Rat) : Prop where
  connected : ∀ e ∈ tree.edges, ∃ s t, tree.connector? e = some (s, t)
  clear : ∀ e ∈ tree.edges, ∀ s t, tree.connector? e = some (s, t) → ∀ node ∈ tree.nodes,
    line s t ∩ interior node.bounds.region = ∅
  apart : ∀ e₁ ∈ tree.edges, ∀ e₂ ∈ tree.edges, ∀ s₁ t₁ s₂ t₂, tree.connector? e₁ = some (s₁, t₁) →
    tree.connector? e₂ = some (s₂, t₂) → e₁.parent ≠ e₂.parent → line s₁ t₁ ∩ line s₂ t₂ = ∅
  fan : ∀ e₁ ∈ tree.edges, ∀ e₂ ∈ tree.edges, ∀ s₁ t₁ s₂ t₂, tree.connector? e₁ = some (s₁, t₁) →
    tree.connector? e₂ = some (s₂, t₂) → e₁.parent = e₂.parent → e₁ ≠ e₂ →
      s₁ = s₂ ∧ line s₁ t₁ ∩ line s₂ t₂ = {s₁.toReal}

/-- The edge joins two nodes, of which the first lists the second. -/
structure Joins (tree : LayoutTree Rat) (e : Edge) (a b : PlacedNode Rat) : Prop where
  parent : tree.nodes[e.parent]? = some a
  child : tree.nodes[e.child]? = some b
  listed : e.child ∈ a.children

theorem Joins.connector {tree : LayoutTree Rat} {e : Edge} {a b : PlacedNode Rat} (h : tree.Joins e a b) :
    tree.connector? e = some (a.bottomAnchor, b.topAnchor) := by
  simp [connector?, h.parent, h.child]

theorem Joins.anchors {tree : LayoutTree Rat} {e : Edge} {a b : PlacedNode Rat} (h : tree.Joins e a b)
    {s t : Point Rat} (hst : tree.connector? e = some (s, t)) : s = a.bottomAnchor ∧ t = b.topAnchor := by
  rw [h.connector] at hst
  cases hst
  exact ⟨rfl, rfl⟩

namespace Gridded

variable {gap : Rat} {m : Layout.Measures Rat} {tree : LayoutTree Rat} {i j : Nat} {a b c d n : PlacedNode Rat}
  {e e₁ e₂ : Edge} {p : ℝ × ℝ}

theorem extent_pos (h : tree.Gridded gap m) (ha : tree.nodes[i]? = some a) : 0 < a.extent :=
  h.unit_pos.trans_le (h.centred i a ha).unit_le

theorem bottomAnchor_eq (h : tree.Gridded gap m) (ha : tree.nodes[i]? = some a) :
    a.bottomAnchor = ⟨a.left + a.extent / 2, a.bounds.maxY⟩ := by
  rw [← (h.centred i a ha).middleX_eq]
  rfl

theorem topAnchor_eq (h : tree.Gridded gap m) (ha : tree.nodes[i]? = some a) :
    a.topAnchor = ⟨a.left + a.extent / 2, a.bounds.minY⟩ := by
  rw [← (h.centred i a ha).middleX_eq]
  rfl

/-- An outline that is no further down than another one begins above the end of that. -/
theorem minY_lt_maxY (h : tree.Gridded gap m) (ha : tree.nodes[i]? = some a) (hb : tree.nodes[j]? = some b)
    (hdepth : a.depth ≤ b.depth) : a.bounds.minY < b.bounds.maxY := by
  have hpos := (h.centred i a ha).height_pos
  have hpos' := (h.centred j b hb).height_pos
  have hrow : (a.depth : Rat) * m.rowHeight ≤ b.depth * m.rowHeight :=
    mul_le_mul_of_nonneg_right (Nat.cast_le.2 hdepth) (h.rowHeight_nonneg ha)
  rw [(h.centred i a ha).minY_eq, (h.centred j b hb).maxY_eq]
  linarith

theorem spans_apart (h : tree.Gridded gap m) (ha : tree.nodes[i]? = some a) (hb : tree.nodes[j]? = some b)
    (hij : i ≠ j) (hrow : a.depth = b.depth) : a.left + a.extent ≤ b.left ∨ b.left + b.extent ≤ a.left := by
  rcases Nat.lt_or_gt_of_ne hij with hij | hij
  · exact .inl (h.before i j a b ha hb hij hrow)
  · exact .inr (h.before j i b a hb ha hij hrow.symm)

/-- A connector keeps to the span of the parent, and to the heights between the outlines that it joins. -/
theorem corridor (h : tree.Gridded gap m) (hab : tree.Joins e a b) (hp : p ∈ line a.bottomAnchor b.topAnchor) :
    p.1 ∈ Set.Ioo (a.left : ℝ) (a.left + a.extent : Rat) ∧ p.2 ∈ Set.Icc (a.bounds.maxY : ℝ) b.bounds.minY := by
  have hext := h.extent_pos hab.parent
  have hext' := h.extent_pos hab.child
  obtain ⟨hdepth, hlow, hhigh⟩ := h.child _ _ a b hab.parent hab.child hab.listed
  have hgap := h.gap_nonneg
  have habove := h.above hab.parent hab.child (by omega)
  have hheights : a.bounds.maxY ≤ b.bounds.minY := by linarith
  rw [h.bottomAnchor_eq hab.parent, h.topAnchor_eq hab.child] at hp
  constructor
  · apply fst_mem_of_line hp
    · exact ⟨Rat.cast_lt.2 (by linarith), Rat.cast_lt.2 (by linarith)⟩
    · exact ⟨Rat.cast_lt.2 (by linarith), Rat.cast_lt.2 (by linarith)⟩
  · apply snd_mem_of_line hp
    · exact ⟨le_rfl, Rat.cast_le.2 hheights⟩
    · exact ⟨Rat.cast_le.2 hheights, le_rfl⟩

/-- Nothing in a span is in an outline whose span lies beside it. -/
theorem not_mem_interior (h : tree.Gridded gap m) (hn : tree.nodes[i]? = some n) {low high : Rat}
    (hspans : n.left + n.extent ≤ low ∨ high ≤ n.left) (hp : p.1 ∈ Set.Ioo (low : ℝ) high) :
    p ∉ interior n.bounds.region := by
  obtain ⟨hleft, hright⟩ := h.inside hn
  intro hin
  obtain ⟨⟨hmin, hmax⟩, -⟩ := Bounds.mem_interior_region.1 hin
  rcases hspans with hspans | hspans
  · have hlow : (n.bounds.maxX : ℝ) ≤ low := Rat.cast_le.2 (hright.trans hspans)
    exact absurd (hp.1.trans hmax) (not_lt_of_ge hlow)
  · have hhigh : (high : ℝ) ≤ n.bounds.minX := Rat.cast_le.2 (hspans.trans hleft)
    exact absurd (hmin.trans hp.2) (not_lt_of_ge hhigh)

theorem width_le_extent (h : tree.Gridded gap m) (ha : tree.nodes[i]? = some a) (hb : tree.nodes[j]? = some b) :
    a.size.width ≤ b.extent := by
  have hgap := h.gap_nonneg
  have hwidth := (h.centred i a ha).width
  have hunit := (h.centred j b hb).unit_le
  linarith

/-- The outline of a first child does not reach the middle of its parent, nor that of the second child. -/
theorem first_below (h : tree.Gridded gap m) (hab : tree.Joins e a b) (hn : tree.nodes[j]? = some n)
    (hj : j ∈ a.children) (horder : j < e.child) :
    n.bounds.maxX ≤ a.left + a.extent / 2 ∧ n.bounds.maxX ≤ b.left + b.extent / 2 := by
  obtain ⟨hstart, hnext, hend⟩ := h.siblings _ _ _ a n b hab.parent hn hab.child hj hab.listed horder
  have hext := h.extent_pos hn
  have hwidth := h.width_le_extent hn hab.child
  rw [(h.centred _ n hn).maxX_eq]
  constructor <;> linarith

/-- Nor does that of a second child, on the other side. -/
theorem second_below (h : tree.Gridded gap m) (hab : tree.Joins e a b) (hn : tree.nodes[j]? = some n)
    (hj : j ∈ a.children) (horder : e.child < j) :
    a.left + a.extent / 2 ≤ n.bounds.minX ∧ b.left + b.extent / 2 ≤ n.bounds.minX := by
  obtain ⟨hstart, hnext, hend⟩ := h.siblings _ _ _ a b n hab.parent hab.child hn hab.listed hj horder
  have hext := h.extent_pos hn
  have hwidth := h.width_le_extent hn hab.child
  rw [(h.centred _ n hn).minX_eq]
  constructor <;> linarith

theorem clear_of_sibling (h : tree.Gridded gap m) (hab : tree.Joins e a b) (hn : tree.nodes[j]? = some n)
    (hj : j ∈ a.children) (hne : j ≠ e.child) (hp : p ∈ line a.bottomAnchor b.topAnchor) :
    p ∉ interior n.bounds.region := by
  rw [h.bottomAnchor_eq hab.parent, h.topAnchor_eq hab.child] at hp
  intro hin
  obtain ⟨⟨hmin, hmax⟩, -⟩ := Bounds.mem_interior_region.1 hin
  rcases Nat.lt_or_gt_of_ne hne with horder | horder
  · obtain ⟨hstart, hend⟩ := h.first_below hab hn hj horder
    have hright : p.1 ∈ Set.Ici (n.bounds.maxX : ℝ) :=
      fst_mem_of_line hp (Set.mem_Ici.2 (Rat.cast_le.2 hstart)) (Set.mem_Ici.2 (Rat.cast_le.2 hend))
    exact absurd hmax (not_lt_of_ge hright)
  · obtain ⟨hstart, hend⟩ := h.second_below hab hn hj horder
    have hleft : p.1 ∈ Set.Iic (n.bounds.minX : ℝ) :=
      fst_mem_of_line hp (Set.mem_Iic.2 (Rat.cast_le.2 hstart)) (Set.mem_Iic.2 (Rat.cast_le.2 hend))
    exact absurd hmin (not_lt_of_ge hleft)

theorem clear_of_child_row (h : tree.Gridded gap m) (hab : tree.Joins e a b) (hn : tree.nodes[j]? = some n)
    (hdepth : n.depth = a.depth + 1) (hp : p ∈ line a.bottomAnchor b.topAnchor) : p ∉ interior n.bounds.region := by
  obtain ⟨hwithin, -, hbottom⟩ := h.corridor hab hp
  by_cases hj : j = e.child
  · -- The connector ends where the outline of the child begins.
    intro hin
    obtain ⟨-, htop, -⟩ := Bounds.mem_interior_region.1 hin
    rw [hj, hab.child] at hn
    cases hn
    exact absurd htop (not_lt_of_ge hbottom)
  · obtain ⟨k, c, hc, hlisted⟩ := h.parent j n hn (by omega)
    by_cases hk : k = e.parent
    · rw [hk, hab.parent] at hc
      cases hc
      exact h.clear_of_sibling hab hn hlisted hj hp
    · -- The outline is in the span of another parent.
      obtain ⟨hrow, hlow, hhigh⟩ := h.child k j c n hc hn hlisted
      apply h.not_mem_interior hn _ hwithin
      rcases h.spans_apart hc hab.parent hk (by omega) with hspans | hspans
      · exact .inl (hhigh.trans hspans)
      · exact .inr (hspans.trans hlow)

theorem clear (h : tree.Gridded gap m) (hab : tree.Joins e a b) (hn : tree.nodes[j]? = some n) :
    line a.bottomAnchor b.topAnchor ∩ interior n.bounds.region = ∅ := by
  obtain ⟨hrow, -, -⟩ := h.child _ _ a b hab.parent hab.child hab.listed
  have hgap := h.gap_nonneg
  rw [Set.eq_empty_iff_forall_notMem]
  rintro p ⟨hp, hin⟩
  obtain ⟨hwithin, htop, hbottom⟩ := h.corridor hab hp
  by_cases hchild : n.depth = a.depth + 1
  · exact h.clear_of_child_row hab hn hchild hp hin
  · obtain ⟨-, hmin, hmax⟩ := Bounds.mem_interior_region.1 hin
    rcases lt_trichotomy n.depth a.depth with hdepth | hdepth | hdepth
    · -- Further up than the parent an outline ends before the connector starts, further down it begins after its end.
      have habove : (n.bounds.maxY : ℝ) ≤ a.bounds.maxY := by
        have hnext := h.above hn hab.parent hdepth
        have hself := h.minY_lt_maxY hab.parent hab.parent le_rfl
        exact Rat.cast_le.2 (by linarith)
      exact absurd (htop.trans_lt hmax) (not_lt_of_ge habove)
    · by_cases hj : j = e.parent
      · rw [hj, hab.parent] at hn
        cases hn
        exact absurd hmax (not_lt_of_ge htop)
      · have hspans := h.spans_apart hn hab.parent hj hdepth
        exact h.not_mem_interior hn hspans hwithin hin
    · have hbelow : (b.bounds.minY : ℝ) ≤ n.bounds.minY := by
        have hnext := h.above hab.child hn (by omega)
        have hself := h.minY_lt_maxY hab.child hab.child le_rfl
        exact Rat.cast_le.2 (by linarith)
      exact absurd (hmin.trans_le hbottom) (not_lt_of_ge hbelow)

theorem apart_of_rows (h : tree.Gridded gap m) (hab : tree.Joins e₁ a b) (hcd : tree.Joins e₂ c d)
    (hdepth : a.depth < c.depth) : line a.bottomAnchor b.topAnchor ∩ line c.bottomAnchor d.topAnchor = ∅ := by
  obtain ⟨hrow, -, -⟩ := h.child _ _ a b hab.parent hab.child hab.listed
  have hheights : (b.bounds.minY : ℝ) < c.bounds.maxY :=
    Rat.cast_lt.2 (h.minY_lt_maxY hab.child hcd.parent (by omega))
  rw [Set.eq_empty_iff_forall_notMem]
  rintro p ⟨hp, hp'⟩
  obtain ⟨-, -, hbottom⟩ := h.corridor hab hp
  obtain ⟨-, htop, -⟩ := h.corridor hcd hp'
  exact absurd (htop.trans hbottom) (not_le_of_gt hheights)

theorem apart (h : tree.Gridded gap m) (hab : tree.Joins e₁ a b) (hcd : tree.Joins e₂ c d)
    (hne : e₁.parent ≠ e₂.parent) : line a.bottomAnchor b.topAnchor ∩ line c.bottomAnchor d.topAnchor = ∅ := by
  rcases lt_trichotomy a.depth c.depth with hdepth | hdepth | hdepth
  · exact h.apart_of_rows hab hcd hdepth
  · rw [Set.eq_empty_iff_forall_notMem]
    rintro p ⟨hp, hp'⟩
    obtain ⟨⟨hleft, hright⟩, -⟩ := h.corridor hab hp
    obtain ⟨⟨hleft', hright'⟩, -⟩ := h.corridor hcd hp'
    rcases h.spans_apart hab.parent hcd.parent hne hdepth with hspans | hspans
    · exact absurd (hleft'.trans hright) (not_lt_of_ge (Rat.cast_le.2 hspans))
    · exact absurd (hleft.trans hright') (not_lt_of_ge (Rat.cast_le.2 hspans))
  · rw [Set.inter_comm]
    exact h.apart_of_rows hcd hab hdepth

/-- Connectors from one parent part where they start. -/
theorem fan (h : tree.Gridded gap m) (hab : tree.Joins e₁ a b) (hac : tree.Joins e₂ a c)
    (horder : e₁.child < e₂.child) :
    line a.bottomAnchor b.topAnchor ∩ line a.bottomAnchor c.topAnchor = {a.bottomAnchor.toReal} := by
  obtain ⟨hstart, hnext, hend⟩ :=
    h.siblings _ _ _ a b c hab.parent hab.child hac.child hab.listed hac.listed horder
  have hext := h.extent_pos hab.child
  have hext' := h.extent_pos hac.child
  -- The connectors go to different sides of the vertical through their start.
  have hleft : b.left + b.extent / 2 < a.left + a.extent / 2 := by linarith
  have hright : a.left + a.extent / 2 < c.left + c.extent / 2 := by linarith
  rw [h.bottomAnchor_eq hab.parent, h.topAnchor_eq hab.child, h.topAnchor_eq hac.child]
  apply Set.Subset.antisymm
  · rintro p ⟨hp, hp'⟩
    have hlow : p.1 ∈ Set.Iic ((a.left + a.extent / 2 : Rat) : ℝ) :=
      fst_mem_of_line hp Set.self_mem_Iic (Set.mem_Iic.2 (Rat.cast_le.2 hleft.le))
    have hhigh : p.1 ∈ Set.Ici ((a.left + a.extent / 2 : Rat) : ℝ) :=
      fst_mem_of_line hp' Set.self_mem_Ici (Set.mem_Ici.2 (Rat.cast_le.2 hright.le))
    exact eq_start_of_line hp hleft.ne' (le_antisymm hlow hhigh)
  · rintro p rfl
    exact ⟨left_mem_segment ℝ _ _, left_mem_segment ℝ _ _⟩

end Gridded

end LayoutTree

theorem Formula.joins_layout (f : Formula) (config : Config Rat) {e : Edge} (he : e ∈ (f.layout config).edges) :
    ∃ a b, (f.layout config).Joins e a b := by
  have hparent := (LayoutTree.mem_edges _ e).1 he
  obtain ⟨a, ha, hlisted⟩ :=
    (LayoutTree.hasParent_iff_isChild (f.standsAt_layout config) (f.size_layout config) e.parent e.child).1 hparent
  obtain ⟨b, hb, -⟩ := hparent
  exact ⟨a, b, ha, hb, hlisted⟩

namespace AnnotatedFormula

/-- In exact arithmetic the layout of a validated formula is planar, for all measures in use. -/
theorem planar_layout {a : AnnotatedFormula} (h : a.IsValidated) {config : Config Rat}
    (hconfig : config.validate = .ok ()) : (a.formula.layout config).Planar := by
  have hgrid := a.formula.gridded_layout h.measured (Config.validate_eq_ok_iff.1 hconfig)
  have hjoins := fun e => a.formula.joins_layout config (e := e)
  constructor
  · intro e he
    obtain ⟨p, c, hpc⟩ := hjoins e he
    exact ⟨_, _, hpc.connector⟩
  · intro e he s t hst node hnode
    obtain ⟨p, c, hpc⟩ := hjoins e he
    obtain ⟨j, hj⟩ := Array.mem_iff_getElem?.1 hnode
    obtain ⟨rfl, rfl⟩ := hpc.anchors hst
    exact hgrid.clear hpc hj
  · intro e₁ he₁ e₂ he₂ s₁ t₁ s₂ t₂ hst₁ hst₂ hne
    obtain ⟨p₁, c₁, hpc₁⟩ := hjoins e₁ he₁
    obtain ⟨p₂, c₂, hpc₂⟩ := hjoins e₂ he₂
    obtain ⟨rfl, rfl⟩ := hpc₁.anchors hst₁
    obtain ⟨rfl, rfl⟩ := hpc₂.anchors hst₂
    exact hgrid.apart hpc₁ hpc₂ hne
  · intro e₁ he₁ e₂ he₂ s₁ t₁ s₂ t₂ hst₁ hst₂ hparent hne
    obtain ⟨p₁, c₁, hpc₁⟩ := hjoins e₁ he₁
    obtain ⟨p₂, c₂, hpc₂⟩ := hjoins e₂ he₂
    obtain ⟨rfl, rfl⟩ := hpc₁.anchors hst₁
    obtain ⟨rfl, rfl⟩ := hpc₂.anchors hst₂
    obtain rfl : p₁ = p₂ := by
      have hp := hpc₁.parent
      rw [hparent, hpc₂.parent] at hp
      exact (Option.some.inj hp).symm
    have hchild : e₁.child ≠ e₂.child := fun hchild => hne (Edge.ext hparent hchild)
    rcases Nat.lt_or_gt_of_ne hchild with horder | horder
    · exact ⟨rfl, hgrid.fan hpc₁ hpc₂ horder⟩
    · rw [Set.inter_comm]
      exact ⟨rfl, hgrid.fan hpc₂ hpc₁ horder⟩

/-- The three connectors of `¬p ∧ q`, of which the second one is vertical. -/
theorem planar_layout_of_conjunction : ∃ a, parse "¬p ∧ q" = .ok a ∧ a.IsValidated ∧
    (default : Config Rat).validate = .ok () ∧
    (a.formula.layout (default : Config Rat)).edges.map (a.formula.layout (default : Config Rat)).connector? =
      [some (⟨248 / 5, 32⟩, ⟨124 / 5, 72⟩), some (⟨124 / 5, 104⟩, ⟨124 / 5, 144⟩),
        some (⟨248 / 5, 32⟩, ⟨372 / 5, 72⟩)] ∧
      (a.formula.layout (default : Config Rat)).Planar := by
  have hconnectors : (parse "¬p ∧ q").toOption.map (fun a => (a.formula.layout (default : Config Rat)).edges.map
      (a.formula.layout (default : Config Rat)).connector?) =
      some [some (⟨248 / 5, 32⟩, ⟨124 / 5, 72⟩), some (⟨124 / 5, 104⟩, ⟨124 / 5, 144⟩),
        some (⟨248 / 5, 32⟩, ⟨372 / 5, 72⟩)] := by
    decide +kernel
  have hconfig : (default : Config Rat).validate = .ok () := by decide +kernel
  obtain ⟨a, ha, hvalid, hlines⟩ := exists_parse_of_map hconnectors
  exact ⟨a, ha, hvalid, hconfig, hlines, planar_layout hvalid hconfig⟩

end AnnotatedFormula

end FormulaDiagram
