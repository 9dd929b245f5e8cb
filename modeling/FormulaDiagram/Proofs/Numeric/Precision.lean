import FormulaDiagram.Proofs.Numeric.Magnitude

/-!
How much is lost by rounding. A whole number of quanta is rounded by at most half of the step at it, and that is a part
of two to the power of 24 of it, or nothing where the step is a single quantum. Sums of values, their differences and
their multiples are whole numbers of quanta, so for them this holds however small they are.
-/

namespace FormulaDiagram

namespace BinaryFormat

theorem two_mul_roundHalfEven_le {n d : Nat} (hd : 0 < d) : 2 * ((d * roundHalfEven n d : ℕ) - n : ℤ).natAbs ≤ d := by
  have hdivision : d * (n / d) + n % d = n := Nat.div_add_mod n d
  have hrest : n % d < d := Nat.mod_lt n hd
  have hrounded := roundHalfEven_cases n d
  generalize d * roundHalfEven n d = rounded at hrounded ⊢
  omega

/-- A count of quanta is rounded by at most half a step. -/
theorem two_mul_roundQuanta_le (format : BinaryFormat) (n : Nat) :
    2 * ((format.roundQuanta n 1 : ℕ) - n : ℤ).natAbs ≤ format.step n := by
  have hrounded : format.roundQuanta n 1 = format.step n * roundHalfEven n (format.step n) := by
    unfold roundQuanta
    dsimp only
    rw [Nat.div_one, Nat.one_mul, Nat.mul_comm]
  rw [hrounded]
  exact two_mul_roundHalfEven_le (format.step_pos n)

end BinaryFormat

namespace Binary

variable {x y : Single} {r s : ℚ}

/-- Rounding a count of quanta changes it by one of `2 ^ 24` parts at most. -/
theorem abs_roundQuanta_sub_le (n : Nat) :
    |(BinaryFormat.single.roundQuanta n 1 - n : ℚ)| ≤ n / 2 ^ 24 := by
  have hhalf := BinaryFormat.single.two_mul_roundQuanta_le n
  have habs : |(BinaryFormat.single.roundQuanta n 1 - n : ℚ)| =
      (((BinaryFormat.single.roundQuanta n 1 : ℕ) - n : ℤ).natAbs : ℚ) := by
    rw [Nat.cast_natAbs]
    push_cast
    rfl
  rw [habs, le_div_iff₀ (by positivity)]
  rcases step_small n with hone | hmany
  · -- Half of a quantum is none.
    have hzero : ((BinaryFormat.single.roundQuanta n 1 : ℕ) - n : ℤ).natAbs = 0 := by omega
    rw [hzero, Nat.cast_zero, zero_mul]
    exact Nat.cast_nonneg n
  · generalize ((BinaryFormat.single.roundQuanta n 1 : ℕ) - n : ℤ).natAbs = error at hhalf
    have hparts : error * 2 ^ 24 ≤ n := by
      calc error * 2 ^ 24 = 2 * error * 2 ^ 23 := by ring
        _ ≤ BinaryFormat.single.step n * 2 ^ 23 := Nat.mul_le_mul_right _ hhalf
        _ ≤ n := hmany
    exact_mod_cast hparts

/-- The number is a whole number of quanta. -/
def InQuanta (r : ℚ) : Prop := ∃ n : Nat, r = n / BinaryFormat.single.unit

namespace InQuanta

theorem of_value (hx : x.isFinite) (hnonneg : 0 ≤ x.value) : InQuanta x.value := by
  obtain ⟨n, -, hn⟩ := exists_quanta hx hnonneg
  exact ⟨n, hn⟩

theorem nonneg (h : InQuanta r) : 0 ≤ r := by
  obtain ⟨n, rfl⟩ := h
  positivity

theorem add (hr : InQuanta r) (hs : InQuanta s) : InQuanta (r + s) := by
  obtain ⟨m, rfl⟩ := hr
  obtain ⟨n, rfl⟩ := hs
  exact ⟨m + n, by rw [Nat.cast_add, add_div]⟩

theorem sub (hr : InQuanta r) (hs : InQuanta s) (hle : s ≤ r) : InQuanta (r - s) := by
  obtain ⟨m, rfl⟩ := hr
  obtain ⟨n, rfl⟩ := hs
  rw [div_le_div_iff_of_pos_right BinaryFormat.cast_unit_pos, Nat.cast_le] at hle
  exact ⟨m - n, by rw [Nat.cast_sub hle, sub_div]⟩

theorem natCast_mul (h : InQuanta r) (k : Nat) : InQuanta (k * r) := by
  obtain ⟨n, rfl⟩ := h
  exact ⟨k * n, by rw [Nat.cast_mul, mul_div_assoc]⟩

end InQuanta

/-- The value is finite and next to the number, up to one of `2 ^ 24` parts. -/
structure Near (x : Single) (r : ℚ) : Prop where
  finite : x.isFinite
  nonneg : 0 ≤ x.value
  low : r - r / 2 ^ 24 ≤ x.value
  high : x.value ≤ r + r / 2 ^ 24

/-- A whole number of quanta that is not too large is rounded to a value next to it. -/
theorem Rounds.near (h : x.Rounds r) (hr : InQuanta r) (hlimit : r ≤ 2 ^ 127) : Near x r := by
  have hnonneg := h.nonneg hr.nonneg
  obtain ⟨n, rfl⟩ := hr
  have hunit : (0 : ℚ) < BinaryFormat.single.unit := BinaryFormat.cast_unit_pos
  have hn : n ≤ 1 * 2 ^ (127 + 149) := by
    rw [div_le_iff₀ hunit, cast_unit, ← pow_add] at hlimit
    rw [Nat.one_mul]
    exact_mod_cast hlimit
  obtain ⟨y, hy, hvalue⟩ := exists_value (BinaryFormat.single.representable_roundQuanta
    (BinaryFormat.lt_overflow (by decide) (BinaryFormat.roundQuanta_le_pow Nat.one_pos hn)))
  have hnearest := h.nearest y hy
  rw [hvalue, ← sub_div, abs_div, abs_of_pos hunit] at hnearest
  have hparts := div_le_div_of_nonneg_right (abs_roundQuanta_sub_le n) hunit.le
  rw [div_right_comm] at hparts
  obtain ⟨hlow, hhigh⟩ := abs_le.1 (hnearest.trans hparts)
  exact ⟨h.finite, hnonneg, by linarith, by linarith⟩

theorem near_add (hx : x.isFinite) (hy : y.isFinite) (hx' : 0 ≤ x.value) (hy' : 0 ≤ y.value)
    (hlimit : x.value + y.value ≤ 2 ^ 127) : Near (x + y) (x.value + y.value) := by
  have hrounds : (x + y).Rounds (x.value + y.value) :=
    rounds_add hx hy ((abs_of_nonneg (add_nonneg hx' hy')).trans_le hlimit)
  exact hrounds.near ((InQuanta.of_value hx hx').add (.of_value hy hy')) hlimit

theorem near_sub (hx : x.isFinite) (hy : y.isFinite) (hy' : 0 ≤ y.value) (hle : y.value ≤ x.value)
    (hlimit : x.value - y.value ≤ 2 ^ 127) : Near (x - y) (x.value - y.value) := by
  have hrounds : (x - y).Rounds (x.value - y.value) :=
    rounds_sub hx hy ((abs_of_nonneg (sub_nonneg.2 hle)).trans_le hlimit)
  exact hrounds.near ((InQuanta.of_value hx (hy'.trans hle)).sub (.of_value hy hy') hle) hlimit

theorem near_natCast_mul {n : Nat} (hn : n ≤ 2 ^ 24) (hx : x.isFinite) (hx' : 0 ≤ x.value)
    (hlimit : n * x.value ≤ 2 ^ 127) : Near (Scalar.ofNat n * x) (n * x.value) := by
  obtain ⟨hfinite, hvalue⟩ := value_ofNat hn
  have hnonneg : 0 ≤ n * x.value := mul_nonneg (Nat.cast_nonneg n) hx'
  have hrounds : (ofNat n * x).Rounds ((ofNat n : Single).value * x.value) :=
    rounds_mul hfinite hx (by rw [hvalue, abs_of_nonneg hnonneg]; exact hlimit)
  rw [hvalue] at hrounds
  exact hrounds.near ((InQuanta.of_value hx hx').natCast_mul n) hlimit

/-- Rounding keeps the order of numbers that differ. -/
theorem Rounds.le_of_lt (hx : x.Rounds r) (hy : y.Rounds s) (h : r < s) : x.value ≤ y.value := by
  by_contra hlt
  rw [not_le] at hlt
  -- The smaller number would not be below the middle between the values, nor the larger one above it.
  have hxy := (le_abs_self _).trans (hx.nearest y hy.finite)
  have hyx := (neg_le_abs _).trans (hy.nearest x hx.finite)
  rcases abs_cases (y.value - r) with ⟨hr, -⟩ | ⟨hr, -⟩ <;> rcases abs_cases (x.value - s) with ⟨hs, -⟩ | ⟨hs, -⟩ <;>
    linarith

/-- Halving keeps the order of values that are not negative. -/
theorem half_le_half (hx : x.isFinite) (hy : y.isFinite) (hnonneg : 0 ≤ x.value) (hle : x.value ≤ y.value) :
    (Scalar.half x).value ≤ (Scalar.half y).value := by
  rcases hle.eq_or_lt with heq | hlt
  · rcases hnonneg.eq_or_lt with hzero | hpos
    · have hhalf : (Scalar.half x).value = 0 := by
        have hvalue := (rounds_half hx).value_eq (y := zero false) rfl (by rw [← hzero, zero_div, value_zero])
        rw [hvalue, value_zero]
      rw [hhalf]
      exact (rounds_half hy).nonneg (by linarith)
    · obtain ⟨m, hm, rfl⟩ := eq_finite hx hpos
      obtain ⟨n, hn, rfl⟩ := eq_finite hy (heq ▸ hpos)
      rw [value_positive, value_positive, div_left_inj' BinaryFormat.cast_unit_pos.ne', Nat.cast_inj] at heq
      subst heq
      exact le_rfl
  · exact (rounds_half hx).le_of_lt (rounds_half hy) (div_lt_div_of_pos_right hlt two_pos)

end Binary

end FormulaDiagram
