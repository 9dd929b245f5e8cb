import FormulaDiagram.Proofs.Numeric.Rounding

/-!
The order of all numbers, infinities among them. Each value but the one that is no number has a rank among the
integers: a finite one its signed count of quanta, and an infinity the count that no finite value reaches. Comparisons,
the smaller and the larger value are those of the ranks. A sum that is rounded does not get past a value that the exact
one does not get past, so adding what is not negative leads no further down, whether the sum is rounded, overflows or
was infinite before.
-/

namespace FormulaDiagram.Binary

variable {format : BinaryFormat} {x y : Binary format}

/-- The place of a number among all numbers. -/
def rank : Binary format → Int
  | .nan => 0
  | .infinite negative => signed negative format.overflow
  | .finite negative quanta _ => signed negative quanta

theorem value_eq_rank (hx : x.isFinite) : x.value = x.rank / format.unit := by
  obtain ⟨s, n, hn, rfl⟩ := exists_finite hx
  rfl

theorem rank_nonneg_iff (hx : x.isFinite) : 0 ≤ x.rank ↔ 0 ≤ x.value := by
  rw [value_eq_rank hx, le_div_iff₀ BinaryFormat.cast_unit_pos, zero_mul, Int.cast_nonneg_iff]

theorem rank_eq_zero_iff (hx : x.isFinite) : x.rank = 0 ↔ x.value = 0 := by
  rw [value_eq_rank hx, div_eq_zero_iff, or_iff_left BinaryFormat.cast_unit_pos.ne', Int.cast_eq_zero]

/-! ### Comparisons -/

/-- Numbers are compared by their ranks. -/
theorem compare_eq_rank (hx : x.isNaN = false) (hy : y.isNaN = false) :
    x.less y = decide (x.rank < y.rank) ∧ x.equals y = decide (x.rank = y.rank) := by
  have hpos : 0 < format.overflow := Nat.two_pow_pos _
  cases x with
  | nan => cases hx
  | infinite s =>
      cases y with
      | nan => cases hy
      | infinite t => cases s <;> cases t <;> simp [less, equals, rank, signed] <;> omega
      | finite t n hn =>
          have hlt := hn.2
          cases s <;> cases t <;> simp [less, equals, rank, signed] <;> omega
  | finite s m hm =>
      cases y with
      | nan => cases hy
      | infinite t =>
          have hlt := hm.2
          cases s <;> cases t <;> simp [less, equals, rank, signed] <;> omega
      | finite t n hn => exact ⟨rfl, rfl⟩

theorem lt_iff_rank (hx : x.isNaN = false) (hy : y.isNaN = false) : x < y ↔ x.rank < y.rank := by
  show x.less y = true ↔ _
  rw [(compare_eq_rank hx hy).1, decide_eq_true_iff]

/-- What is no number is not below and not above anything. -/
theorem le_iff_rank : x ≤ y ↔ x.isNaN = false ∧ y.isNaN = false ∧ x.rank ≤ y.rank := by
  show (x.less y || x.equals y) = true ↔ _
  cases hx : x.isNaN with
  | true =>
      cases x <;> cases hx
      simp [less, equals]
  | false =>
      cases hy : y.isNaN with
      | true =>
          cases y <;> cases hy
          cases x <;> simp [less, equals]
      | false =>
          obtain ⟨hless, hequals⟩ := compare_eq_rank hx hy
          rw [hless, hequals]
          simp [le_iff_lt_or_eq]

theorem rank_min (hx : x.isNaN = false) (hy : y.isNaN = false) :
    (min x y).isNaN = false ∧ (min x y).rank = min x.rank y.rank := by
  have hmin : min x y = if x.isNaN || y < x then y else x := rfl
  have hlt := lt_iff_rank hy hx
  rw [hmin, hx, Bool.false_or]
  by_cases hyx : y < x
  · rw [if_pos (decide_eq_true hyx)]
    exact ⟨hy, (min_eq_right (hlt.1 hyx).le).symm⟩
  · rw [if_neg (by simpa using hyx)]
    exact ⟨hx, (min_eq_left (Int.not_lt.1 (hlt.not.1 hyx))).symm⟩

theorem rank_max (hx : x.isNaN = false) (hy : y.isNaN = false) :
    (max x y).isNaN = false ∧ (max x y).rank = max x.rank y.rank := by
  have hmax : max x y = if x.isNaN || x < y then y else x := rfl
  have hlt := lt_iff_rank hx hy
  rw [hmax, hx, Bool.false_or]
  by_cases hxy : x < y
  · rw [if_pos (decide_eq_true hxy)]
    exact ⟨hy, (max_eq_right (hlt.1 hxy).le).symm⟩
  · rw [if_neg (by simpa using hxy)]
    exact ⟨hx, (max_eq_left (Int.not_lt.1 (hlt.not.1 hxy))).symm⟩

/-! ### Sums -/

theorem rank_ofQuanta (negative : Bool) (n d : Nat) :
    (ofQuanta negative n d : Binary format).isNaN = false ∧
      (ofQuanta negative n d : Binary format).rank =
        signed negative (min (format.roundQuanta n d) format.overflow) := by
  rw [ofQuanta]
  split
  · next hlt => exact ⟨rfl, by rw [rank, Nat.min_eq_left hlt.le]⟩
  · next hle => exact ⟨rfl, by rw [rank, Nat.min_eq_right (Nat.not_lt.1 hle)]⟩

/-- Rounding an exact result does not get past a finite value. -/
theorem rank_round (hy : y.isFinite) (z : Int) :
    (y.rank ≤ z → y.rank ≤ (ofQuanta (z < 0) z.natAbs 1 : Binary format).rank) ∧
      (z ≤ y.rank → (ofQuanta (z < 0) z.natAbs 1 : Binary format).rank ≤ y.rank) := by
  obtain ⟨t, b, hb, rfl⟩ := exists_finite hy
  have hlt := hb.2
  -- Zero is a value too, so a result is not rounded to the other side of it.
  have hzero := BinaryFormat.roundQuanta_nearest (n := z.natAbs) Nat.one_pos format.representable_zero.1
  have hnearest := BinaryFormat.roundQuanta_nearest (n := z.natAbs) Nat.one_pos hb.1
  rw [(rank_ofQuanta _ _ _).2, rank]
  rw [Nat.one_mul] at hzero hnearest
  generalize format.roundQuanta z.natAbs 1 = q at hzero hnearest ⊢
  by_cases hneg : z < 0
  · cases t <;> simp only [signed, hneg, decide_true, if_true, if_false, Bool.false_eq_true] <;> omega
  · cases t <;> simp only [signed, hneg, decide_false, if_true, if_false, Bool.false_eq_true] <;> omega

theorem rank_neg (x : Binary format) : x.neg.rank = -x.rank := by
  cases x with
  | nan => rfl
  | infinite s => cases s <;> simp [neg, rank, signed]
  | finite s n hn => cases s <;> simp [neg, rank, signed]

/-- A sum is no smaller than a number if nothing negative is added to that, and no larger if nothing positive is. -/
theorem rank_add (hx : x.isNaN = false) (hy : y.isFinite) :
    (x + y).isNaN = false ∧ (0 ≤ y.rank → x.rank ≤ (x + y).rank) ∧ (y.rank ≤ 0 → (x + y).rank ≤ x.rank) := by
  show (x.add y).isNaN = false ∧ (_ → _ ≤ (x.add y).rank) ∧ (_ → (x.add y).rank ≤ _)
  obtain ⟨t, b, hb, rfl⟩ := exists_finite hy
  cases x with
  | nan => cases hx
  | infinite s => exact ⟨rfl, fun _ => le_rfl, fun _ => le_rfl⟩
  | finite s a ha =>
      obtain ⟨hlow, hhigh⟩ := rank_round (y := finite s a ha) rfl (signed s a + signed t b)
      have hsum : (finite t b hb : Binary format).rank = signed s a + signed t b - (finite s a ha).rank :=
        (add_sub_cancel_left (signed s a) (signed t b)).symm
      rw [add, hsum]
      generalize signed s a + signed t b = sum at hlow hhigh ⊢
      split
      · next hzero =>
        have hrank : (zero (s && t) : Binary format).rank = 0 := by
          cases s <;> cases t <;> rfl
        rw [hrank, hzero]
        exact ⟨rfl, by omega, by omega⟩
      · exact ⟨(rank_ofQuanta _ _ _).1, fun h => hlow (by omega), fun h => hhigh (by omega)⟩

/-- A difference is no larger than a number if nothing negative is taken from that, and no smaller if nothing positive
is. -/
theorem rank_sub (hx : x.isNaN = false) (hy : y.isFinite) :
    (x - y).isNaN = false ∧ (0 ≤ y.rank → (x - y).rank ≤ x.rank) ∧ (y.rank ≤ 0 → x.rank ≤ (x - y).rank) := by
  obtain ⟨hnumber, hlow, hhigh⟩ := rank_add hx ((isFinite_neg y).trans hy)
  rw [rank_neg] at hlow hhigh
  exact ⟨hnumber, fun h => hhigh (by omega), fun h => hlow (by omega)⟩

end FormulaDiagram.Binary
