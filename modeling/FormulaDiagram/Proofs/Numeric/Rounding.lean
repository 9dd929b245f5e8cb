import Mathlib.Algebra.Order.Field.Rat
import Mathlib.Algebra.Order.AbsoluteValue.Basic
import Mathlib.Tactic.FieldSimp
import Mathlib.Tactic.Linarith
import Mathlib.Tactic.NormNum
import Mathlib.Tactic.Positivity
import Mathlib.Tactic.Ring
import FormulaDiagram.Numeric.Scalar

/-!
What rounding does to a result. A count of quanta is rounded to the nearest one that fits, because what is below the
power of two in front of it is farther away than that power. So every operation returns the finite value nearest to
its exact result unless that is too large, and all that is used of rounding further on follows: it keeps the order,
it keeps what is a value already, and two values that differ have a difference that is not rounded to zero.
-/

namespace FormulaDiagram

namespace BinaryFormat

/-! ### Counts of quanta -/

theorem roundHalfEven_cases (n d : Nat) :
    d * roundHalfEven n d = d * (n / d) ∧ 2 * (n % d) ≤ d ∨
      d * roundHalfEven n d = d * (n / d) + d ∧ d ≤ 2 * (n % d) := by
  unfold roundHalfEven
  dsimp only
  split
  · exact .inr ⟨rfl, by omega⟩
  · exact .inl ⟨rfl, by omega⟩

theorem roundHalfEven_nearest {n d : Nat} (hd : 0 < d) (m : Nat) :
    ((d * roundHalfEven n d : ℕ) - n : ℤ).natAbs ≤ ((d * m : ℕ) - n : ℤ).natAbs := by
  have hdivision : d * (n / d) + n % d = n := Nat.div_add_mod n d
  have hrest : n % d < d := Nat.mod_lt n hd
  have hmultiple : d * m ≤ d * (n / d) ∨ d * (n / d) + d ≤ d * m := by
    rcases Nat.lt_or_ge (n / d) m with hm | hm
    · exact .inr (Nat.mul_le_mul_left d hm)
    · exact .inl (Nat.mul_le_mul_left d hm)
  have hrounded := roundHalfEven_cases n d
  generalize d * roundHalfEven n d = rounded at hrounded ⊢
  generalize d * m = multiple at hmultiple ⊢
  omega

variable {format : BinaryFormat}

theorem step_eq (n : Nat) : format.step n = 2 ^ (n.log2 + 1 - format.precision) := rfl

/-- A count that fits is a multiple of the step at another one, or lies below the power of two in front of it. -/
theorem Fits.cases {y : Nat} (hy : format.Fits y) (n : Nat) : format.step n ∣ y ∨ y < 2 ^ n.log2 := by
  by_cases hlog : n.log2 ≤ y.log2
  · refine .inl (Nat.dvd_trans ?_ hy)
    rw [step_eq, step_eq]
    exact Nat.pow_dvd_pow 2 (by omega)
  · refine .inr (Nat.lt_of_lt_of_le Nat.lt_log2_self ?_)
    exact Nat.pow_le_pow_right (by decide) (by omega)

theorem step_dvd_pow (n : Nat) : format.step n ∣ 2 ^ n.log2 := by
  have hprecision := format.precision_pos
  rw [step_eq]
  exact Nat.pow_dvd_pow 2 (by omega)

/-- Rounding gives a nearest count of those that fit. -/
theorem roundQuanta_nearest {n d y : Nat} (hd : 0 < d) (hy : format.Fits y) :
    ((d * format.roundQuanta n d : ℕ) - n : ℤ).natAbs ≤ ((d * y : ℕ) - n : ℤ).natAbs := by
  have hmultiple : ∀ z, format.step (n / d) ∣ z →
      ((d * format.roundQuanta n d : ℕ) - n : ℤ).natAbs ≤ ((d * z : ℕ) - n : ℤ).natAbs := by
    rintro z ⟨m, rfl⟩
    have hnearest := roundHalfEven_nearest (n := n) (Nat.mul_pos hd (format.step_pos (n / d))) m
    rwa [Nat.mul_assoc, Nat.mul_assoc, Nat.mul_comm _ (roundHalfEven _ _)] at hnearest
  rcases hy.cases (n / d) with hdvd | hlt
  · exact hmultiple y hdvd
  · by_cases hzero : n / d = 0
    · rw [hzero] at hlt
      obtain rfl : y = 0 := Nat.lt_one_iff.1 hlt
      exact hmultiple 0 (Nat.dvd_zero _)
    · -- What is smaller is farther away than the power of two, which is a multiple of the step.
      have hpow : d * 2 ^ (n / d).log2 ≤ n :=
        (Nat.mul_le_mul_left d (Nat.log2_self_le hzero)).trans (Nat.mul_div_le n d)
      have hbelow : d * y ≤ d * 2 ^ (n / d).log2 := Nat.mul_le_mul_left d hlt.le
      refine (hmultiple _ (step_dvd_pow (n / d))).trans ?_
      generalize d * 2 ^ (n / d).log2 = power at hpow hbelow ⊢
      omega

theorem fits_pow (e : Nat) : format.Fits (2 ^ e) := by
  have hfits := format.fits_mul_pow (m := 1) (e := e) (Nat.one_le_two_pow)
  rwa [Nat.one_mul] at hfits

theorem roundQuanta_le_pow {n d e : Nat} (hd : 0 < d) (h : n ≤ d * 2 ^ e) : format.roundQuanta n d ≤ 2 ^ e := by
  have hnearest := roundQuanta_nearest (n := n) hd (format.fits_pow e)
  refine Nat.le_of_mul_le_mul_left ?_ hd
  generalize d * format.roundQuanta n d = rounded at hnearest ⊢
  generalize d * 2 ^ e = power at hnearest h ⊢
  omega

theorem lt_overflow {n e : Nat} (he : e < format.overflowBits) (h : n ≤ 2 ^ e) : n < format.overflow :=
  h.trans_lt (Nat.pow_lt_pow_right (by decide) he)

/-- The next larger value is one step away. -/
theorem Fits.add_step {n : Nat} (h : format.Fits n) : format.Fits (n + format.step n) := by
  obtain ⟨m, hm⟩ := h
  have hsum : n + format.step n = (m + 1) * Nat.pow 2 (format.excess n) := by
    rw [Nat.succ_mul, Nat.mul_comm m]
    exact congrArg (· + format.step n) hm
  have hlt : m * 2 ^ format.excess n < 2 ^ format.precision * 2 ^ format.excess n := by
    rw [Nat.mul_comm m, ← Nat.pow_add]
    refine (hm ▸ Nat.lt_log2_self : format.step n * m < 2 ^ (n.log2 + 1)).trans_le ?_
    exact Nat.pow_le_pow_right (by decide) (by unfold excess; omega)
  rw [hsum]
  exact format.fits_mul_pow (Nat.lt_of_mul_lt_mul_right hlt)

/-- A step is one quantum, or small against the value. -/
theorem step_small (n : Nat) : format.step n = 1 ∨ format.step n * 2 ^ (format.precision - 1) ≤ n := by
  have hprecision := format.precision_pos
  by_cases hlog : n.log2 + 1 ≤ format.precision
  · left
    rw [step_eq, Nat.sub_eq_zero_of_le hlog, Nat.pow_zero]
  · right
    have hne : n ≠ 0 := by
      rintro rfl
      rw [Nat.log2_zero] at hlog
      omega
    have hexponent : n.log2 + 1 - format.precision + (format.precision - 1) = n.log2 := by omega
    rw [step_eq, ← Nat.pow_add, hexponent]
    exact Nat.log2_self_le hne

theorem unit_pos : 0 < format.unit := Nat.two_pow_pos _

theorem cast_unit_pos : (0 : ℚ) < format.unit := Nat.cast_pos.2 unit_pos

theorem cast_unit (format : BinaryFormat) : (format.unit : ℚ) = 2 ^ format.quantumBits := by
  rw [unit, Nat.pow_eq, Nat.cast_pow, Nat.cast_ofNat]

theorem cast_overflow (format : BinaryFormat) : (format.overflow : ℚ) = 2 ^ format.overflowBits := by
  rw [overflow, Nat.pow_eq, Nat.cast_pow, Nat.cast_ofNat]

end BinaryFormat

namespace Binary

variable {format : BinaryFormat}

/-! ### Values -/

/-- The number that a finite value is. -/
def value : Binary format → ℚ
  | .finite negative quanta _ => signed negative quanta / format.unit
  | _ => 0

theorem value_finite {negative : Bool} {n : Nat} (h : format.Representable n) :
    (finite negative n h).value = signed negative n / format.unit := rfl

theorem value_positive {n : Nat} (h : format.Representable n) : (finite false n h).value = n / format.unit := by
  rw [value_finite, signed, if_neg Bool.false_ne_true, Int.cast_natCast]

theorem exists_value {n : Nat} (h : format.Representable n) :
    ∃ y : Binary format, y.isFinite ∧ y.value = n / format.unit :=
  ⟨finite false n h, rfl, value_positive h⟩

theorem exists_finite {x : Binary format} (hx : x.isFinite) : ∃ negative n h, x = finite negative n h := by
  cases x with
  | nan => cases hx
  | infinite => cases hx
  | finite negative n h => exact ⟨negative, n, h, rfl⟩

theorem abs_signed (negative : Bool) (n : Nat) : |(signed negative n : ℚ)| = n := by
  cases negative <;> simp [signed]

@[simp] theorem value_zero (negative : Bool) : (zero negative : Binary format).value = 0 := by
  cases negative <;> simp [zero, value_finite, signed]

theorem isFinite_neg (x : Binary format) : x.neg.isFinite = x.isFinite := by
  cases x <;> rfl

theorem value_neg (x : Binary format) : x.neg.value = -x.value := by
  cases x with
  | nan => simp [neg, value]
  | infinite => simp [neg, value]
  | finite negative n h => cases negative <;> simp [neg, value_finite, signed, neg_div]

theorem less_iff {x y : Binary format} (hx : x.isFinite) (hy : y.isFinite) : x.less y ↔ x.value < y.value := by
  obtain ⟨s, m, hm, rfl⟩ := exists_finite hx
  obtain ⟨t, n, hn, rfl⟩ := exists_finite hy
  rw [value_finite, value_finite, div_lt_div_iff_of_pos_right BinaryFormat.cast_unit_pos, Int.cast_lt]
  simp [less]

theorem equals_iff {x y : Binary format} (hx : x.isFinite) (hy : y.isFinite) : x.equals y ↔ x.value = y.value := by
  obtain ⟨s, m, hm, rfl⟩ := exists_finite hx
  obtain ⟨t, n, hn, rfl⟩ := exists_finite hy
  rw [value_finite, value_finite, div_left_inj' BinaryFormat.cast_unit_pos.ne', Int.cast_inj]
  simp [equals]

theorem lt_iff {x y : Binary format} (hx : x.isFinite) (hy : y.isFinite) : x < y ↔ x.value < y.value :=
  less_iff hx hy

theorem le_iff {x y : Binary format} (hx : x.isFinite) (hy : y.isFinite) : x ≤ y ↔ x.value ≤ y.value := by
  rw [le_iff_lt_or_eq, ← less_iff hx hy, ← equals_iff hx hy, ← Bool.or_eq_true]
  rfl

theorem isNaN_of_isFinite {x : Binary format} (hx : x.isFinite) : x.isNaN = false := by
  obtain ⟨s, n, hn, rfl⟩ := exists_finite hx
  rfl

theorem max_cases {x y : Binary format} (hx : x.isFinite) (hy : y.isFinite) :
    max x y = y ∧ x.value < y.value ∨ max x y = x ∧ y.value ≤ x.value := by
  have hmax : max x y = if x.isNaN || x < y then y else x := rfl
  rw [hmax, isNaN_of_isFinite hx, Bool.false_or]
  by_cases hlt : x.value < y.value
  · exact .inl ⟨if_pos (decide_eq_true ((lt_iff hx hy).2 hlt)), hlt⟩
  · refine .inr ⟨if_neg ?_, le_of_not_gt hlt⟩
    simpa [lt_iff hx hy] using hlt

theorem min_cases {x y : Binary format} (hx : x.isFinite) (hy : y.isFinite) :
    min x y = y ∧ y.value < x.value ∨ min x y = x ∧ x.value ≤ y.value := by
  have hmin : min x y = if x.isNaN || y < x then y else x := rfl
  rw [hmin, isNaN_of_isFinite hx, Bool.false_or]
  by_cases hlt : y.value < x.value
  · exact .inl ⟨if_pos (decide_eq_true ((lt_iff hy hx).2 hlt)), hlt⟩
  · refine .inr ⟨if_neg ?_, le_of_not_gt hlt⟩
    simpa [lt_iff hy hx] using hlt

/-! ### Results -/

/-- The value is a finite one, and none is nearer to the number. -/
structure Rounds (x : Binary format) (r : ℚ) : Prop where
  finite : x.isFinite
  nearest : ∀ y : Binary format, y.isFinite → |x.value - r| ≤ |y.value - r|

theorem abs_signed_sub_le {q y n d : Nat} (s t : Bool)
    (hy : ((d * q : ℕ) - n : ℤ).natAbs ≤ ((d * y : ℕ) - n : ℤ).natAbs)
    (hzero : ((d * q : ℕ) - n : ℤ).natAbs ≤ n) :
    |(d * signed s q - signed s n : ℤ)| ≤ |(d * signed t y - signed s n : ℤ)| := by
  rw [Int.abs_eq_natAbs, Int.abs_eq_natAbs, Nat.cast_le]
  push_cast at hy hzero
  generalize hq : (d : ℤ) * q = dq at hy hzero
  generalize hdy : (d : ℤ) * y = dy at hy
  have hnonneg : 0 ≤ dy := hdy ▸ by positivity
  cases s <;> cases t <;> simp only [signed, Bool.false_eq_true, if_true, if_false, mul_neg, hq, hdy] <;> omega

theorem abs_quotient_sub {d : Nat} (hd : 0 < d) (z m : ℤ) :
    |(z / format.unit - m / (d * format.unit) : ℚ)| = ((|d * z - m| : ℤ) : ℚ) / (d * format.unit) := by
  have hd' : (0 : ℚ) < d := Nat.cast_pos.2 hd
  have hunit : (0 : ℚ) < format.unit := BinaryFormat.cast_unit_pos
  have hdifference : (z / format.unit - m / (d * format.unit) : ℚ) = (d * z - m) / (d * format.unit) := by
    field_simp
  rw [hdifference, abs_div, abs_of_pos (mul_pos hd' hunit)]
  push_cast
  rfl

/-- A result that is not too large is rounded to a nearest finite value. -/
theorem rounds_ofQuanta (negative : Bool) {n d e : Nat} (hd : 0 < d) (he : e < format.overflowBits)
    (h : n ≤ d * 2 ^ e) :
    (ofQuanta negative n d : Binary format).Rounds (signed negative n / (d * format.unit)) := by
  have hscale : (0 : ℚ) < d * format.unit := mul_pos (Nat.cast_pos.2 hd) BinaryFormat.cast_unit_pos
  have hquanta : format.roundQuanta n d < format.overflow :=
    BinaryFormat.lt_overflow he (BinaryFormat.roundQuanta_le_pow hd h)
  have heq : (ofQuanta negative n d : Binary format) =
      .finite negative (format.roundQuanta n d) (format.representable_roundQuanta hquanta) := by
    rw [ofQuanta]
    exact dif_pos hquanta
  rw [heq]
  refine ⟨rfl, fun y hy => ?_⟩
  obtain ⟨t, b, hb, rfl⟩ := exists_finite hy
  have hzero := BinaryFormat.roundQuanta_nearest (n := n) hd format.representable_zero.1
  rw [value_finite, value_finite, abs_quotient_sub hd, abs_quotient_sub hd, div_le_div_iff_of_pos_right hscale,
    Int.cast_le]
  refine abs_signed_sub_le negative t (BinaryFormat.roundQuanta_nearest hd hb.1) ?_
  simpa using hzero

namespace Rounds

variable {x y : Binary format} {r : ℚ}

/-- Rounding keeps what is a value already. -/
theorem value_eq (h : x.Rounds r) (hy : y.isFinite) (hr : r = y.value) : x.value = y.value := by
  have hnearest := h.nearest y hy
  rw [hr, sub_self, abs_zero, abs_nonpos_iff, sub_eq_zero] at hnearest
  exact hnearest

theorem le_of_le (h : x.Rounds r) (hy : y.isFinite) (hr : r ≤ y.value) : x.value ≤ y.value := by
  have hnearest := h.nearest y hy
  rw [abs_of_nonneg (sub_nonneg.2 hr)] at hnearest
  linarith [le_abs_self (x.value - r)]

theorem ge_of_ge (h : x.Rounds r) (hy : y.isFinite) (hr : y.value ≤ r) : y.value ≤ x.value := by
  have hnearest := h.nearest y hy
  rw [abs_of_nonpos (sub_nonpos.2 hr)] at hnearest
  linarith [neg_abs_le (x.value - r)]

theorem nonneg (h : x.Rounds r) (hr : 0 ≤ r) : 0 ≤ x.value := by
  have hzero := h.ge_of_ge (y := zero false) rfl (by rwa [value_zero])
  rwa [value_zero] at hzero

/-- A value next to the exact result bounds the rounded one. -/
theorem le_add (h : x.Rounds r) (hy : y.isFinite) {e : ℚ} (he : 0 ≤ e) (hr : r = y.value + e) :
    x.value ≤ y.value + 2 * e := by
  have hnearest := h.nearest y hy
  rw [hr, sub_add_cancel_left, abs_neg, abs_of_nonneg he] at hnearest
  linarith [le_abs_self (x.value - (y.value + e))]

theorem le_double (h : x.Rounds r) (hr : 0 ≤ r) : x.value ≤ 2 * r := by
  have hbound := h.le_add (y := zero false) rfl hr (by rw [value_zero, zero_add])
  rwa [value_zero, zero_add] at hbound

end Rounds

/-! ### Operations on values of 32 bits -/

variable {x y : Single}

theorem rounds_of_abs_le (negative : Bool) {n d : Nat} (hd : 0 < d) {r : ℚ}
    (hr : r = signed negative n / (d * BinaryFormat.single.unit)) (h : |r| ≤ 2 ^ 127) :
    (ofQuanta negative n d : Single).Rounds r := by
  have hd' : (0 : ℚ) < d := Nat.cast_pos.2 hd
  have hunit : (0 : ℚ) < BinaryFormat.single.unit := BinaryFormat.cast_unit_pos
  rw [hr, abs_div, abs_signed, abs_of_pos (mul_pos hd' hunit), div_le_iff₀ (mul_pos hd' hunit)] at h
  have hn : n ≤ d * 2 ^ (127 + 149) := by
    rw [pow_add, ← Nat.cast_le (α := ℚ), Nat.cast_mul, Nat.cast_mul, Nat.cast_pow]
    refine h.trans_eq ?_
    rw [mul_left_comm]
    rfl
  rw [hr]
  exact rounds_ofQuanta (e := 127 + 149) negative hd (by decide) hn

theorem rounds_ofNat {n : Nat} (h : n ≤ 2 ^ 127) : (ofNat n : Single).Rounds n := by
  have hunit : (BinaryFormat.single.unit : ℚ) ≠ 0 := BinaryFormat.cast_unit_pos.ne'
  show (ofQuanta false (n * BinaryFormat.single.unit) 1).Rounds n
  refine rounds_of_abs_le false Nat.one_pos ?_ ?_
  · simp [signed, hunit]
  · rw [abs_of_nonneg (Nat.cast_nonneg n)]
    exact_mod_cast h

theorem signed_natAbs (z : ℤ) : signed (decide (z < 0)) z.natAbs = z := by
  by_cases hneg : z < 0
  · simp only [hneg, signed, decide_true, if_true]
    omega
  · simp only [hneg, signed, decide_false, Bool.false_eq_true, if_false]
    omega

theorem rounds_add (hx : x.isFinite) (hy : y.isFinite) (h : |x.value + y.value| ≤ 2 ^ 127) :
    (x.add y).Rounds (x.value + y.value) := by
  obtain ⟨s, a, ha, rfl⟩ := exists_finite hx
  obtain ⟨t, b, hb, rfl⟩ := exists_finite hy
  have hsum : (finite s a ha : Single).value + (finite t b hb : Single).value =
      ((signed s a + signed t b : ℤ) : ℚ) / BinaryFormat.single.unit := by
    rw [value_finite, value_finite, ← add_div, Int.cast_add]
  rw [hsum] at h ⊢
  rw [add]
  generalize signed s a + signed t b = sum at h ⊢
  split
  · next hzero =>
    rw [hzero, Int.cast_zero, zero_div]
    exact ⟨rfl, fun y _ => by simp⟩
  · refine rounds_of_abs_le _ Nat.one_pos ?_ h
    rw [signed_natAbs, Nat.cast_one, one_mul]

theorem rounds_sub (hx : x.isFinite) (hy : y.isFinite) (h : |x.value - y.value| ≤ 2 ^ 127) :
    (x.sub y).Rounds (x.value - y.value) := by
  rw [sub_eq_add_neg, ← value_neg] at h ⊢
  exact rounds_add hx (isFinite_neg y ▸ hy) h

theorem signed_mul (s t : Bool) (a b : Nat) : signed (s != t) (a * b) = signed s a * signed t b := by
  cases s <;> cases t <;> simp [signed]

theorem rounds_mul (hx : x.isFinite) (hy : y.isFinite) (h : |x.value * y.value| ≤ 2 ^ 127) :
    (x.mul y).Rounds (x.value * y.value) := by
  obtain ⟨s, a, ha, rfl⟩ := exists_finite hx
  obtain ⟨t, b, hb, rfl⟩ := exists_finite hy
  show (ofQuanta (s != t) (a * b) BinaryFormat.single.unit).Rounds _
  refine rounds_of_abs_le (s != t) BinaryFormat.unit_pos ?_ h
  rw [value_finite, value_finite, signed_mul, div_mul_div_comm, Int.cast_mul]

theorem rounds_div (hx : x.isFinite) (hy : y.isFinite) (hne : y.value ≠ 0) (h : |x.value / y.value| ≤ 2 ^ 127) :
    (x.div y).Rounds (x.value / y.value) := by
  obtain ⟨s, a, ha, rfl⟩ := exists_finite hx
  obtain ⟨t, b, hb, rfl⟩ := exists_finite hy
  have hunit : (BinaryFormat.single.unit : ℚ) ≠ 0 := BinaryFormat.cast_unit_pos.ne'
  have hb0 : b ≠ 0 := by
    rintro rfl
    exact hne (by cases t <;> simp [value_finite, signed])
  rw [div]
  refine (if_neg hb0).symm ▸ rounds_of_abs_le (s != t) (Nat.pos_of_ne_zero hb0) ?_ h
  have hb' : (b : ℚ) ≠ 0 := Nat.cast_ne_zero.2 hb0
  rw [value_finite, value_finite, signed_mul]
  cases s <;> cases t <;> simp [signed] <;> field_simp

end Binary

end FormulaDiagram
