import FormulaDiagram.Drawing.Primitive
import FormulaDiagram.Proofs.Numeric.Order

/-!
The bounds of a drawing hold all of its primitives. Merging takes the smaller and the larger one of coordinates, which
is exact, so the merged rectangle is the least one around both, infinite coordinates among them. The margin is taken and
added with rounding, which never leads back inside. A coordinate that is no number has no place in the order, so it is
left out of the argument: no rectangle holds one that has such a coordinate.
-/

namespace FormulaDiagram

/-- The insets of the four sides. -/
def Insets.sides {α : Type} (insets : Insets α) : List α := [insets.top, insets.right, insets.bottom, insets.left]

namespace Bounds

variable {b c d : Bounds Single}

/-- Every coordinate is a number, finite or not. -/
structure Numeric (b : Bounds Single) : Prop where
  minX : b.minX.isNaN = false
  minY : b.minY.isNaN = false
  maxX : b.maxX.isNaN = false
  maxY : b.maxY.isNaN = false

/-- The rectangle lies at least as far out as another one on every side. -/
structure Reaches (b c : Bounds Single) : Prop where
  minX : b.minX.rank ≤ c.minX.rank
  minY : b.minY.rank ≤ c.minY.rank
  maxX : c.maxX.rank ≤ b.maxX.rank
  maxY : c.maxY.rank ≤ b.maxY.rank

theorem Reaches.refl (b : Bounds Single) : b.Reaches b := ⟨le_rfl, le_rfl, le_rfl, le_rfl⟩

theorem Reaches.trans (h : b.Reaches c) (h' : c.Reaches d) : b.Reaches d :=
  ⟨h.minX.trans h'.minX, h.minY.trans h'.minY, h'.maxX.trans h.maxX, h'.maxY.trans h.maxY⟩

/-- One rectangle holds another one if all coordinates are numbers and it lies as far out on every side. -/
theorem contains_iff : b.contains c ↔ b.Numeric ∧ c.Numeric ∧ b.Reaches c := by
  have hsides : b.contains c ↔ (b.minX ≤ c.minX ∧ b.minY ≤ c.minY ∧ c.maxX ≤ b.maxX ∧ c.maxY ≤ b.maxY) := by
    simp only [contains, Bool.and_eq_true, decide_eq_true_iff, and_assoc]
  rw [hsides, Binary.le_iff_rank, Binary.le_iff_rank, Binary.le_iff_rank, Binary.le_iff_rank]
  constructor
  · rintro ⟨hminX, hminY, hmaxX, hmaxY⟩
    exact ⟨⟨hminX.1, hminY.1, hmaxX.2.1, hmaxY.2.1⟩, ⟨hminX.2.1, hminY.2.1, hmaxX.1, hmaxY.1⟩,
      ⟨hminX.2.2, hminY.2.2, hmaxX.2.2, hmaxY.2.2⟩⟩
  · rintro ⟨hb, hc, h⟩
    exact ⟨⟨hb.minX, hc.minX, h.minX⟩, ⟨hb.minY, hc.minY, h.minY⟩, ⟨hc.maxX, hb.maxX, h.maxX⟩,
      ⟨hc.maxY, hb.maxY, h.maxY⟩⟩

/-- The merged rectangle is the least one that reaches as far as both. -/
theorem Numeric.merge (hb : b.Numeric) (hc : c.Numeric) :
    (b.merge c).Numeric ∧ ∀ d : Bounds Single, d.Reaches (b.merge c) ↔ d.Reaches b ∧ d.Reaches c := by
  obtain ⟨hminX, hrankMinX⟩ := Binary.rank_min hb.minX hc.minX
  obtain ⟨hminY, hrankMinY⟩ := Binary.rank_min hb.minY hc.minY
  obtain ⟨hmaxX, hrankMaxX⟩ := Binary.rank_max hb.maxX hc.maxX
  obtain ⟨hmaxY, hrankMaxY⟩ := Binary.rank_max hb.maxY hc.maxY
  refine ⟨⟨hminX, hminY, hmaxX, hmaxY⟩, fun d => ⟨fun h => ?_, fun ⟨h, h'⟩ => ?_⟩⟩
  · have hleft := le_min_iff.1 (hrankMinX ▸ h.minX)
    have htop := le_min_iff.1 (hrankMinY ▸ h.minY)
    have hright := max_le_iff.1 (hrankMaxX ▸ h.maxX)
    have hbottom := max_le_iff.1 (hrankMaxY ▸ h.maxY)
    exact ⟨⟨hleft.1, htop.1, hright.1, hbottom.1⟩, ⟨hleft.2, htop.2, hright.2, hbottom.2⟩⟩
  · exact ⟨hrankMinX ▸ le_min h.minX h'.minX, hrankMinY ▸ le_min h.minY h'.minY,
      hrankMaxX ▸ max_le h.maxX h'.maxX, hrankMaxY ▸ max_le h.maxY h'.maxY⟩

theorem Numeric.foldl_merge {bs : List (Bounds Single)} (hb : b.Numeric) (hbs : ∀ c ∈ bs, c.Numeric) :
    (bs.foldl Bounds.merge b).Numeric ∧
      ∀ d : Bounds Single, d.Reaches (bs.foldl Bounds.merge b) ↔ ∀ c ∈ b :: bs, d.Reaches c := by
  induction bs generalizing b with
  | nil => exact ⟨hb, fun d => List.forall_mem_singleton.symm⟩
  | cons c bs ih =>
      obtain ⟨hc, hbs⟩ := List.forall_mem_cons.1 hbs
      obtain ⟨hmerged, hreaches⟩ := hb.merge hc
      obtain ⟨hnumeric, hrest⟩ := ih hmerged hbs
      refine ⟨hnumeric, fun d => ?_⟩
      rw [List.foldl_cons, hrest, List.forall_mem_cons, hreaches, List.forall_mem_cons, List.forall_mem_cons, and_assoc]

/-- The rectangle around several ones is the least one that reaches as far as all of them. -/
theorem numeric_hull {bs : List (Bounds Single)} (hne : bs ≠ []) (hbs : ∀ b ∈ bs, b.Numeric) :
    (hull bs).Numeric ∧ ∀ d : Bounds Single, d.Reaches (hull bs) ↔ ∀ b ∈ bs, d.Reaches b := by
  cases bs with
  | nil => exact absurd rfl hne
  | cons b bs =>
      obtain ⟨hb, hbs⟩ := List.forall_mem_cons.1 hbs
      exact hb.foldl_merge hbs

/-- A margin that is nowhere negative leads no further in, and one that is nowhere positive leads no further out. -/
theorem Numeric.pad (hb : b.Numeric) {margin : Insets Single} (hmargin : ∀ inset ∈ margin.sides, inset.isFinite) :
    (b.pad margin).Numeric ∧ ((∀ inset ∈ margin.sides, 0 ≤ inset.rank) → (b.pad margin).Reaches b) ∧
      ((∀ inset ∈ margin.sides, inset.rank ≤ 0) → b.Reaches (b.pad margin)) := by
  simp only [Insets.sides, List.forall_mem_cons, List.not_mem_nil, false_imp_iff, forall_const, and_true] at hmargin ⊢
  obtain ⟨htop, hright, hbottom, hleft⟩ := hmargin
  obtain ⟨hminX, houtMinX, hinMinX⟩ := Binary.rank_sub hb.minX hleft
  obtain ⟨hminY, houtMinY, hinMinY⟩ := Binary.rank_sub hb.minY htop
  obtain ⟨hmaxX, houtMaxX, hinMaxX⟩ := Binary.rank_add hb.maxX hright
  obtain ⟨hmaxY, houtMaxY, hinMaxY⟩ := Binary.rank_add hb.maxY hbottom
  refine ⟨⟨hminX, hminY, hmaxX, hmaxY⟩, ?_, ?_⟩
  · rintro ⟨ht, hr, hb, hl⟩
    exact ⟨houtMinX hl, houtMinY ht, houtMaxX hr, houtMaxY hb⟩
  · rintro ⟨ht, hr, hb, hl⟩
    exact ⟨hinMinX hl, hinMinY ht, hinMaxX hr, hinMaxY hb⟩

end Bounds

/-- The bounds of a drawing hold those of all of its primitives if the coordinates of these are numbers, infinite ones
among them, and the margin is finite and nowhere negative. If there is no margin, all bounds that hold the primitives
hold those of the drawing. -/
theorem Diagram.bounds_enclose {primitives : List Primitive} (hne : primitives ≠ [])
    (hnumeric : ∀ p ∈ primitives, p.bounds.Numeric) {margin : Insets Single}
    (hmargin : ∀ inset ∈ margin.sides, inset.isFinite ∧ 0 ≤ inset.value) (background : Color) :
    (∀ p ∈ primitives, (ofPrimitives primitives margin background).bounds.contains p.bounds) ∧
      ((∀ inset ∈ margin.sides, inset.value = 0) →
        ∀ outer : Bounds Single, (∀ p ∈ primitives, outer.contains p.bounds) →
          outer.contains (ofPrimitives primitives margin background).bounds) := by
  have hbounds : (ofPrimitives primitives margin background).bounds =
      (Bounds.hull (primitives.map Primitive.bounds)).pad margin := rfl
  have hne' : primitives.map Primitive.bounds ≠ [] := mt List.map_eq_nil_iff.1 hne
  obtain ⟨hhull, hleast⟩ := Bounds.numeric_hull hne' (List.forall_mem_map.2 hnumeric)
  obtain ⟨hpadded, houter, hinner⟩ := hhull.pad fun inset hinset => (hmargin inset hinset).1
  rw [hbounds]
  constructor
  · intro p hp
    have hnonneg : ∀ inset ∈ margin.sides, 0 ≤ inset.rank := fun inset hinset =>
      (Binary.rank_nonneg_iff (hmargin inset hinset).1).2 (hmargin inset hinset).2
    have hreaches := List.forall_mem_map.1 ((hleast _).1 (.refl _)) p hp
    exact Bounds.contains_iff.2 ⟨hpadded, hnumeric p hp, (houter hnonneg).trans hreaches⟩
  · intro hzero outer hcontains
    have hnone : ∀ inset ∈ margin.sides, inset.rank ≤ 0 := fun inset hinset =>
      ((Binary.rank_eq_zero_iff (hmargin inset hinset).1).2 (hzero inset hinset)).le
    obtain ⟨p, hp⟩ := List.exists_mem_of_ne_nil _ hne
    have hreaches : outer.Reaches (Bounds.hull (primitives.map Primitive.bounds)) :=
      (hleast outer).2 (List.forall_mem_map.2 fun p hp => (Bounds.contains_iff.1 (hcontains p hp)).2.2)
    exact Bounds.contains_iff.2 ⟨(Bounds.contains_iff.1 (hcontains p hp)).1, hpadded, hreaches.trans (hinner hnone)⟩

/-- A line without an end and another line, with and without a margin. -/
theorem Diagram.bounds_enclose_of_endless_line :
    ∃ line other : Primitive, line.bounds.maxX = .infinite false ∧
      (∀ p ∈ [line, other],
        (ofPrimitives [line, other] (Insets.uniform (Binary.ofNat 12)) default).bounds.contains p.bounds) ∧
      ∀ outer : Bounds Single, (∀ p ∈ [line, other], outer.contains p.bounds) →
        outer.contains (ofPrimitives [line, other] (Insets.uniform (Binary.ofNat 0)) default).bounds := by
  let line : Primitive := .line ⟨⟨Binary.ofNat 0, Binary.ofNat 1⟩, ⟨.infinite false, Binary.ofNat 2⟩, default⟩
  let other : Primitive := .line ⟨⟨Binary.ofInt (-1), Binary.ofNat 3⟩, ⟨Binary.ofNat 4, Binary.ofNat 1⟩, default⟩
  have hnumeric : ∀ p ∈ [line, other], p.bounds.Numeric := by
    refine List.forall_mem_cons.2 ⟨?_, List.forall_mem_singleton.2 ?_⟩
    all_goals constructor <;> decide +kernel
  have hmargin (n : Nat) (hn : (Binary.ofNat n : Single).isFinite ∧ 0 ≤ (Binary.ofNat n : Single).rank) :
      ∀ inset ∈ (Insets.uniform (Binary.ofNat n : Single)).sides, inset.isFinite ∧ 0 ≤ inset.value := by
    have hinset := And.intro hn.1 ((Binary.rank_nonneg_iff hn.1).1 hn.2)
    simp [Insets.sides, Insets.uniform, hinset]
  have hzero : ∀ inset ∈ (Insets.uniform (Binary.ofNat 0 : Single)).sides, inset.value = 0 := by
    have hinset := (Binary.rank_eq_zero_iff (x := (Binary.ofNat 0 : Single)) (by decide +kernel)).1 (by decide +kernel)
    simp [Insets.sides, Insets.uniform, hinset]
  have hne : [line, other] ≠ [] := List.cons_ne_nil _ _
  exact ⟨line, other, by decide +kernel,
    (bounds_enclose hne hnumeric (hmargin 12 (by decide +kernel)) default).1,
    (bounds_enclose hne hnumeric (hmargin 0 (by decide +kernel)) default).2 hzero⟩

end FormulaDiagram
