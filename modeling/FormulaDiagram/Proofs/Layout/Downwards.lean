import FormulaDiagram.Proofs.Layout.Apart
import FormulaDiagram.Proofs.Numeric.Precision

/-!
Connectors that run downwards. A row is as high as the tallest outline and the gap, so in exact arithmetic the outline
of a parent ends above that of its child. Rounded, the rows can be as high as the outline alone, and what is left
between them can be lost further down. It is not where the rows are higher than the tallest outline by a part of the
height down to the child that rounding does not reach.
-/

namespace FormulaDiagram

open Binary (Nonneg)

namespace Layout

/-- Half the height of an outline, which is not higher than the tallest one. -/
structure Measures.Holds (m : Measures Single) (half : Single) : Prop where
  finite : half.isFinite
  nonneg : 0 ≤ half.value
  le : half.value ≤ m.halfHeight.value

/-- Down to a depth there is room between the rows: they are higher than the tallest outline by one of `2 ^ 21` parts of
the height down to there, which is not too large. -/
structure Measures.Room (m : Measures Single) (depth : Nat) : Prop where
  rowHeight : m.rowHeight.isFinite
  pos : 0 < m.rowHeight.value
  tallest : m.Holds m.halfHeight
  limit : depth * m.rowHeight.value ≤ 2 ^ 125
  room : depth * m.rowHeight.value ≤ 2 ^ 21 * (m.rowHeight.value - 2 * m.halfHeight.value)

namespace Measures.Room

variable {m : Measures Single} {depth row : Nat} {upper lower : Single}

theorem rows_le (h : m.Room depth) (hrow : row ≤ depth) : row * m.rowHeight.value ≤ depth * m.rowHeight.value :=
  mul_le_mul_of_nonneg_right (Nat.cast_le.2 hrow) h.pos.le

theorem depth_le (h : m.Room depth) : depth ≤ 2 ^ 21 := by
  have hroom := h.room
  have hhalf := h.tallest.nonneg
  have hrows : depth * m.rowHeight.value ≤ 2 ^ 21 * m.rowHeight.value := by linarith
  exact_mod_cast le_of_mul_le_mul_right hrows h.pos

theorem two_half_le (h : m.Room depth) : 2 * m.halfHeight.value ≤ m.rowHeight.value := by
  have hroom := h.room
  have hrows : 0 ≤ depth * m.rowHeight.value := mul_nonneg (Nat.cast_nonneg _) h.pos.le
  linarith

/-- The middle of a row is rounded twice, which changes it by three of `2 ^ 24` parts at most. -/
theorem center (h : m.Room depth) (hpos : 0 < depth) (hrow : row ≤ depth) :
    (Scalar.ofNat row * m.rowHeight + m.halfHeight).isFinite ∧
      m.halfHeight.value ≤ (Scalar.ofNat row * m.rowHeight + m.halfHeight).value ∧
      |(Scalar.ofNat row * m.rowHeight + m.halfHeight).value - (row * m.rowHeight.value + m.halfHeight.value)| ≤
        3 * (row * m.rowHeight.value + m.halfHeight.value) / 2 ^ 24 := by
  have hrows := h.rows_le hrow
  have hlimit := h.limit
  have hnonneg := h.tallest.nonneg
  have hhalf : m.halfHeight.value ≤ 2 ^ 125 := by
    have hone : 1 * m.rowHeight.value ≤ depth * m.rowHeight.value :=
      mul_le_mul_of_nonneg_right (Nat.one_le_cast.2 hpos) h.pos.le
    linarith [h.two_half_le]
  have hdistance : 0 ≤ row * m.rowHeight.value := mul_nonneg (Nat.cast_nonneg _) h.pos.le
  have htop := Binary.near_natCast_mul (hrow.trans (h.depth_le.trans (by decide))) h.rowHeight h.pos.le
    (by linarith)
  have htop' := htop.high
  have hcenter := Binary.near_add htop.finite h.tallest.finite htop.nonneg hnonneg (by linarith)
  have hsum := Binary.rounds_add htop.finite h.tallest.finite
    ((abs_of_nonneg (add_nonneg htop.nonneg hnonneg)).trans_le (by linarith))
  refine ⟨hcenter.finite, hsum.ge_of_ge h.tallest.finite (le_add_of_nonneg_left htop.nonneg), abs_le.2 ⟨?_, ?_⟩⟩
  · linarith [htop.low, hcenter.low]
  · linarith [hcenter.high]

theorem start_lt_stop (h : m.Room (row + 1)) (hupper : m.Holds upper) (hlower : m.Holds lower) :
    Scalar.ofNat row * m.rowHeight + m.halfHeight + upper <
      Scalar.ofNat (row + 1) * m.rowHeight + m.halfHeight - lower := by
  obtain ⟨hfinite, hhalf, hcenter⟩ := h.center (Nat.succ_pos row) (Nat.le_succ row)
  obtain ⟨hfinite', hhalf', hcenter'⟩ := h.center (Nat.succ_pos row) le_rfl
  generalize Scalar.ofNat row * m.rowHeight + m.halfHeight = center at hfinite hhalf hcenter ⊢
  generalize Scalar.ofNat (row + 1) * m.rowHeight + m.halfHeight = center' at hfinite' hhalf' hcenter' ⊢
  have hrows : 0 ≤ row * m.rowHeight.value := mul_nonneg (Nat.cast_nonneg _) h.pos.le
  have hlimit := h.limit
  have hroom := h.room
  have htwo := h.two_half_le
  have hrow := h.pos
  push_cast at hlimit hroom hcenter'
  obtain ⟨-, hhigh⟩ := abs_le.1 hcenter
  obtain ⟨hlow', hhigh'⟩ := abs_le.1 hcenter'
  have hnonneg := h.tallest.nonneg
  have hstart := Binary.near_add hfinite hupper.finite (hnonneg.trans hhalf) hupper.nonneg
    (by linarith [hupper.le])
  have hstop := Binary.near_sub hfinite' hlower.finite hlower.nonneg (hlower.le.trans hhalf')
    (by linarith [hlower.nonneg])
  rw [Binary.lt_iff hstart.finite hstop.finite]
  have hstart' := hstart.high
  have hstop' := hstop.low
  linarith [hupper.le, hlower.le]

end Measures.Room

section

variable {config : Config Single} (hconfig : config.validate = .ok ())

include hconfig

theorem nonneg_nodeHeight : Nonneg config.nodeHeight :=
  .of_value (Config.tracks_get hconfig .nodeHeight).finite (Config.tracks_get hconfig .nodeHeight).nonneg

/-- The height of an outline is at least that which is configured, so it is a number that is not negative. -/
theorem nonneg_height (label : String) (kind : NodeKind) : Nonneg (nodeSize config label kind).height := by
  unfold nodeSize
  dsimp only
  cases kind.isRound with
  | false => exact (nonneg_nodeHeight hconfig).max _
  | true => exact ((nonneg_nodeHeight hconfig).max _).max _

theorem nonneg_tallest (nodes : List TreeNode) : Nonneg (tallest config nodes) :=
  (nonneg_nodeHeight hconfig).foldl_max _ _

end

end Layout

namespace Formula

variable {f : Formula} {config : Config Single}

/-- Down to every node of the formula there is room between the rows, and they end before the values do. -/
structure RowsApart (f : Formula) (config : Config Single) : Prop where
  finite : (f.measures config).rowHeight.isFinite
  limit : ∀ node ∈ f.arena.toList, node.depth * (f.measures config).rowHeight.value ≤ 2 ^ 125
  room : ∀ node ∈ f.arena.toList, node.depth * (f.measures config).rowHeight.value ≤
    2 ^ 21 * ((f.measures config).rowHeight.value - 2 * (f.measures config).halfHeight.value)

theorem rowsApart_iff : f.RowsApart config ↔
    (f.measures config).rowHeight.isFinite ∧
      (∀ node ∈ f.arena.toList, node.depth * (f.measures config).rowHeight.value ≤ 2 ^ 125) ∧
      ∀ node ∈ f.arena.toList, node.depth * (f.measures config).rowHeight.value ≤
        2 ^ 21 * ((f.measures config).rowHeight.value - 2 * (f.measures config).halfHeight.value) :=
  ⟨fun h => ⟨h.finite, h.limit, h.room⟩, fun ⟨hfinite, hlimit, hroom⟩ => ⟨hfinite, hlimit, hroom⟩⟩

instance (f : Formula) (config : Config Single) : Decidable (f.RowsApart config) :=
  decidable_of_iff _ rowsApart_iff.symm

section

variable (h : f.RowsApart config) (hconfig : config.validate = .ok ())

include h hconfig

theorem RowsApart.rowHeight_pos : 0 < (f.measures config).rowHeight.value := by
  have hrow := h.finite
  rw [measures_eq] at hrow ⊢
  exact (Config.sound_of_validate hconfig).2.rowHeight.trans_le
    (Binary.le_max_of_isFinite (Config.tracks_get hconfig .rowHeight).finite hrow)

/-- Were an outline infinite, the rows would be. -/
theorem RowsApart.isFinite_tallest : (Layout.tallest config f.arena.toList).isFinite := by
  have htallest := Layout.nonneg_tallest hconfig f.arena.toList
  obtain ⟨_, _, _, hconfigured⟩ := Binary.exists_finite (Config.tracks_get hconfig .rowHeight).finite
  obtain ⟨_, _, _, hgap⟩ := Binary.exists_finite (Config.tracks_get hconfig .siblingGap).finite
  have hrow := h.finite
  rw [measures_eq, show config.rowHeight = _ from hconfigured, show config.siblingGap = _ from hgap] at hrow
  generalize Layout.tallest config f.arena.toList = tallest at htallest hrow ⊢
  cases tallest with
  | nan => exact htallest.elim
  | infinite negative =>
      obtain rfl : negative = false := htallest
      cases hrow
  | finite => rfl

/-- The row holds what is not higher than the tallest outline. -/
theorem RowsApart.holds_half {height : Single} (hfinite : height.isFinite) (hnonneg : 0 ≤ height.value)
    (hle : height.value ≤ (Layout.tallest config f.arena.toList).value) :
    (f.measures config).Holds (Scalar.half height) := by
  have hrounds := Binary.rounds_half hfinite
  refine ⟨hrounds.finite, hrounds.nonneg (div_nonneg hnonneg two_pos.le), ?_⟩
  rw [measures_eq]
  exact Binary.half_le_half hfinite (h.isFinite_tallest hconfig) hnonneg hle

theorem RowsApart.holds_halfHeight : (f.measures config).Holds (f.measures config).halfHeight := by
  have hhalf := h.holds_half hconfig (h.isFinite_tallest hconfig) (Layout.nonneg_tallest hconfig _).value le_rfl
  rw [measures_eq] at hhalf ⊢
  exact hhalf

theorem RowsApart.holds {node : TreeNode} (hnode : node ∈ f.arena.toList) :
    (f.measures config).Holds (Scalar.half (Layout.nodeSize config node.label node.kind).height) := by
  have hleast := Layout.nonneg_nodeHeight hconfig
  obtain ⟨hfirst, hfinite⟩ := hleast.of_isFinite_foldl_max
    (fun node _ => Layout.nonneg_height hconfig node.label node.kind) (h.isFinite_tallest hconfig)
  obtain ⟨-, -, hle⟩ := Binary.foldl_max_bounds hfirst hfinite
  exact h.holds_half hconfig (hfinite node hnode) (Layout.nonneg_height hconfig _ _).value (hle node hnode)

theorem RowsApart.measures_room {node : TreeNode} (hnode : node ∈ f.arena.toList) :
    (f.measures config).Room node.depth :=
  ⟨h.finite, h.rowHeight_pos hconfig, h.holds_halfHeight hconfig, h.limit node hnode, h.room node hnode⟩

/-- Every outline of the layout is one that its row holds, in the middle of that row. -/
theorem RowsApart.of_getElem? {i : Nat} {node : PlacedNode Single} (hnode : (f.layout config).nodes[i]? = some node) :
    (f.measures config).Room node.depth ∧ (f.measures config).Holds (Scalar.half node.size.height) ∧
      node.center.y = Scalar.ofNat node.depth * (f.measures config).rowHeight + (f.measures config).halfHeight := by
  have hmem := Array.mem_of_getElem? hnode
  rw [layout_nodes, List.mem_toArray] at hmem
  have harena := toTreeNode_mem_arena hmem
  have hholds := h.holds hconfig harena
  refine ⟨h.measures_room hconfig harena, ?_, ?_⟩
  · obtain ⟨g, position, parent, left, rfl⟩ := exists_of_mem_placedNodes hmem
    exact hholds
  · rw [center_of_mem hmem]

end

end Formula

namespace AnnotatedFormula

/-- Where the rows are apart every connector runs downwards. -/
theorem connectors_run_downwards {a : AnnotatedFormula} (h : a.IsValidated) {config : Config Single}
    (hconfig : config.validate = .ok ()) (hrows : a.formula.RowsApart config) :
    ∀ e ∈ (a.formula.layout config).edges, ∃ start stop,
      (a.formula.layout config).connector? e = some (start, stop) ∧ start.y < stop.y := by
  intro e he
  have hparent := (LayoutTree.mem_edges _ e).1 he
  have hchild := (LayoutTree.hasParent_iff_isChild (a.formula.standsAt_layout config) (a.formula.size_layout config)
    e.parent e.child).1 hparent
  obtain ⟨upper, lower, hupper, hlower, hconnector⟩ := LayoutTree.connector_of_mem hparent hchild
  refine ⟨_, _, hconnector, ?_⟩
  have hdepth : lower.depth = upper.depth + 1 := by
    obtain ⟨node, hnode, hmem⟩ := hchild
    rw [hupper] at hnode
    cases hnode
    exact Formula.depth_child_layout h.measured hupper hlower hmem
  obtain ⟨-, hholds, hcenter⟩ := hrows.of_getElem? hconfig hupper
  obtain ⟨hroom, hholds', hcenter'⟩ := hrows.of_getElem? hconfig hlower
  rw [hdepth] at hroom hcenter'
  show upper.center.y + Scalar.half upper.size.height < lower.center.y - Scalar.half lower.size.height
  rw [hcenter, hcenter']
  exact hroom.start_lt_stop hholds hholds'

/-- The default measures leave room between the three rows of `¬p ∧ q`. -/
theorem connectors_run_downwards_of_conjunction : ∃ a, parse "¬p ∧ q" = .ok a ∧ a.IsValidated ∧
    (default : Config Single).validate = .ok () ∧ a.formula.RowsApart default ∧
    (a.formula.layout (default : Config Single)).edges = [⟨0, 1⟩, ⟨1, 2⟩, ⟨0, 3⟩] ∧
    ∀ e ∈ (a.formula.layout (default : Config Single)).edges, ∃ start stop,
      (a.formula.layout (default : Config Single)).connector? e = some (start, stop) ∧ start.y < stop.y := by
  have hrun : (parse "¬p ∧ q").toOption.map (fun a => (decide (a.formula.RowsApart default),
      (a.formula.layout (default : Config Single)).edges)) = some (true, [⟨0, 1⟩, ⟨1, 2⟩, ⟨0, 3⟩]) := by
    decide +kernel
  have hconfig : (default : Config Single).validate = .ok () := by decide +kernel
  obtain ⟨a, ha, hvalid, hrun⟩ := exists_parse_of_map hrun
  have hrows : a.formula.RowsApart default := of_decide_eq_true (Prod.mk.inj hrun).1
  exact ⟨a, ha, hvalid, hconfig, hrows, (Prod.mk.inj hrun).2, connectors_run_downwards hvalid hconfig hrows⟩

/-- A layout is computed to find a connector in it. -/
theorem exists_connector (source : String) (config : Config Single) (p : Single → Single → Bool)
    (h : (parse source).toOption.map (fun a => (a.formula.layout config).edges.any fun e =>
      ((a.formula.layout config).connector? e).any fun (start, stop) => p start.y stop.y) = some true) :
    ∃ a, parse source = .ok a ∧ ∃ e ∈ (a.formula.layout config).edges, ∃ start stop,
      (a.formula.layout config).connector? e = some (start, stop) ∧ p start.y stop.y := by
  obtain ⟨a, ha, -, hany⟩ := exists_parse_of_map h
  obtain ⟨e, he, hany⟩ := List.any_eq_true.1 hany
  obtain ⟨⟨start, stop⟩, hconnector, hp⟩ := (Option.any_eq_true _ _).1 hany
  exact ⟨a, ha, e, he, start, stop, hconnector, hp⟩

/-- In a font of ten thousand million the gap is lost in the height of the row, and the places of the rows are rounded
as well, so that the connector of `¬p` ends above its start. Without a gap, rows that are no higher than the outlines
leave nothing for it. -/
theorem connectors_not_downwards :
    (∃ (config : Config Single) (a : AnnotatedFormula),
      config = (default : Config Single).set .fontSize (Binary.ofNat (10 ^ 10)) ∧ config.validate = .ok () ∧
      parse "¬p" = .ok a ∧ ∃ e ∈ (a.formula.layout config).edges, ∃ start stop,
        (a.formula.layout config).connector? e = some (start, stop) ∧ stop.y < start.y) ∧
    ∃ (config : Config Single) (a : AnnotatedFormula),
      config = ((default : Config Single).set .siblingGap Scalar.zero).set .rowHeight (Binary.ofNat 10) ∧
      config.validate = .ok () ∧ parse "¬p" = .ok a ∧ ∃ e ∈ (a.formula.layout config).edges, ∃ start stop,
        (a.formula.layout config).connector? e = some (start, stop) ∧ start.y = stop.y := by
  constructor
  · obtain ⟨a, ha, e, he, start, stop, hconnector, hup⟩ := exists_connector "¬p"
      ((default : Config Single).set .fontSize (Binary.ofNat (10 ^ 10))) (fun start stop => stop < start)
      (by decide +kernel)
    exact ⟨_, a, rfl, by decide +kernel, ha, e, he, start, stop, hconnector, of_decide_eq_true hup⟩
  · obtain ⟨a, ha, e, he, start, stop, hconnector, hflat⟩ := exists_connector "¬p"
      (((default : Config Single).set .siblingGap Scalar.zero).set .rowHeight (Binary.ofNat 10))
      (fun start stop => start = stop) (by decide +kernel)
    exact ⟨_, a, rfl, by decide +kernel, ha, e, he, start, stop, hconnector, of_decide_eq_true hflat⟩

end AnnotatedFormula

end FormulaDiagram
