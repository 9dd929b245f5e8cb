import FormulaDiagram.Proofs.Layout.Exact
import FormulaDiagram.Proofs.Numeric.Rounding

/-!
How large the results of a computation get. A power of two is a value, so a result below it is rounded to one below it,
and a sum is at most one binary digit longer than its parts. A computation without subtractions is compared with the
same one on exact numbers: it stays finite and within a power of two of the exact result as long as that is not too
large, because each operation adds one binary digit at most, however small the numbers are.
-/

namespace FormulaDiagram

namespace Binary

variable {x y : Single} {e : Nat} {r : ℚ}

theorem cast_unit : (BinaryFormat.single.unit : ℚ) = 2 ^ 149 := BinaryFormat.single.cast_unit

theorem exists_value_pow (he : e ≤ 127) : ∃ y : Single, y.isFinite ∧ y.value = 2 ^ e := by
  have hlt : e + 149 < BinaryFormat.single.overflowBits := Nat.lt_succ_of_le (Nat.add_le_add_right he 149)
  obtain ⟨y, hy, hvalue⟩ := exists_value ⟨BinaryFormat.fits_pow _, BinaryFormat.lt_overflow hlt le_rfl⟩
  refine ⟨y, hy, ?_⟩
  rw [hvalue, div_eq_iff BinaryFormat.cast_unit_pos.ne', cast_unit, ← pow_add]
  push_cast
  rfl

theorem abs_value_le (hx : x.isFinite) : |x.value| ≤ 2 ^ 128 := by
  obtain ⟨s, a, ha, rfl⟩ := exists_finite hx
  have hunit : (0 : ℚ) < BinaryFormat.single.unit := BinaryFormat.cast_unit_pos
  have hlt : (a : ℚ) ≤ 2 ^ (128 + 149) := BinaryFormat.single.cast_overflow ▸ Nat.cast_le.2 ha.2.le
  rwa [value_finite, abs_div, abs_signed, abs_of_pos hunit, div_le_iff₀ hunit, cast_unit, ← pow_add]

/-- Numbers of at most 24 binary digits are values. -/
theorem value_ofNat {n : Nat} (h : n ≤ 2 ^ 24) : (ofNat n : Single).isFinite ∧ (ofNat n : Single).value = n := by
  have hrounds := rounds_ofNat (h.trans (Nat.pow_le_pow_right (by decide) (by decide)))
  have hfits : BinaryFormat.single.Fits (n * 2 ^ 149) := BinaryFormat.single.fits_mul_pow h
  have hle : n * 2 ^ 149 ≤ 2 ^ (24 + 149) := by
    rw [Nat.pow_add]
    exact Nat.mul_le_mul_right _ h
  obtain ⟨y, hy, hvalue⟩ := exists_value ⟨hfits, BinaryFormat.lt_overflow (by decide) hle⟩
  have heq : y.value = n := by
    rw [hvalue, div_eq_iff BinaryFormat.cast_unit_pos.ne', cast_unit]
    push_cast
    rfl
  exact ⟨hrounds.finite, (hrounds.value_eq hy heq.symm).trans heq⟩

theorem rounds_half (hx : x.isFinite) : (Scalar.half x).Rounds (x.value / 2) := by
  obtain ⟨htwo, hvalue⟩ := value_ofNat (n := 2) (by decide)
  have hlimit := abs_value_le hx
  have hhalf : |x.value / ((2 : ℕ) : ℚ)| ≤ 2 ^ 127 := by
    rw [abs_div, Nat.cast_ofNat, abs_of_pos (two_pos : (0 : ℚ) < 2), div_le_iff₀ two_pos, ← pow_succ]
    exact hlimit
  have hrounds := rounds_div hx htwo (by rw [hvalue]; norm_num) (hvalue.symm ▸ hhalf)
  rwa [hvalue] at hrounds

/-! ### The quantum and the next value -/

theorem representable_one : BinaryFormat.single.Representable 1 := by decide +kernel

/-- A value that differs from another one has a difference that is not rounded to zero. -/
theorem sub_pos_of_lt (hx : x.isFinite) (hy : y.isFinite) (h : y.value < x.value)
    (hlimit : |x.value - y.value| ≤ 2 ^ 127) : 0 < (x - y).value := by
  have hrounds : (x - y).Rounds (x.value - y.value) := rounds_sub hx hy hlimit
  have hunit : (0 : ℚ) < BinaryFormat.single.unit := BinaryFormat.cast_unit_pos
  obtain ⟨quantum, hfinite, hquantum⟩ := exists_value representable_one
  have hle : quantum.value ≤ x.value - y.value := by
    obtain ⟨s, m, hm, rfl⟩ := exists_finite hx
    obtain ⟨t, n, hn, rfl⟩ := exists_finite hy
    rw [value_finite, value_finite, div_lt_div_iff_of_pos_right hunit, Int.cast_lt] at h
    rw [hquantum, value_finite, value_finite, ← sub_div, div_le_div_iff_of_pos_right hunit, ← Int.cast_sub,
      ← Int.cast_natCast, Int.cast_le]
    exact Int.le_sub_right_of_add_le (Int.add_comm _ _ ▸ h)
  refine lt_of_lt_of_le ?_ (hrounds.ge_of_ge hfinite hle)
  rw [hquantum]
  exact div_pos (by norm_num) hunit

theorem eq_finite (hx : x.isFinite) (hpos : 0 < x.value) : ∃ n hn, x = finite false n hn := by
  obtain ⟨s, n, hn, rfl⟩ := exists_finite hx
  rw [value_finite, div_pos_iff_of_pos_right BinaryFormat.cast_unit_pos, Int.cast_pos] at hpos
  cases s with
  | false => exact ⟨n, hn, rfl⟩
  | true =>
    simp only [signed, if_true] at hpos
    omega

theorem exists_quanta (hx : x.isFinite) (hnonneg : 0 ≤ x.value) :
    ∃ n, BinaryFormat.single.Representable n ∧ x.value = n / BinaryFormat.single.unit := by
  rcases hnonneg.eq_or_lt with hzero | hpos
  · exact ⟨0, BinaryFormat.single.representable_zero, by rw [← hzero, Nat.cast_zero, zero_div]⟩
  · obtain ⟨n, hn, rfl⟩ := eq_finite hx hpos
    exact ⟨n, hn, value_positive hn⟩

/-- Half of a positive value is smaller, also where the half is rounded. -/
theorem half_lt (hx : x.isFinite) (hpos : 0 < x.value) : (Scalar.half x).value < x.value := by
  obtain ⟨n, hn, rfl⟩ := eq_finite hx hpos
  by_cases hone : n = 1
  · -- Half of the quantum is a tie, which goes to zero.
    subst hone
    have hzero : Scalar.half (finite false 1 representable_one : Single) = zero false := by decide +kernel
    rwa [hzero, value_zero]
  · obtain ⟨y, hy, hquantum⟩ := exists_value representable_one
    have hunit : (0 : ℚ) < BinaryFormat.single.unit := BinaryFormat.cast_unit_pos
    have hn1 : 2 ≤ n := by
      rw [value_positive, div_pos_iff_of_pos_right hunit, Nat.cast_pos] at hpos
      omega
    have htwo : 2 * y.value ≤ (finite false n hn : Single).value := by
      rw [hquantum, value_positive, ← mul_div_assoc, div_le_div_iff_of_pos_right hunit]
      exact_mod_cast hn1
    have hy' : 0 < y.value := hquantum ▸ div_pos (by norm_num) hunit
    have hnearest := (rounds_half (x := finite false n hn) rfl).nearest y hy
    rw [abs_of_nonpos (by linarith : y.value - (finite false n hn : Single).value / 2 ≤ 0)] at hnearest
    have hhalf := le_abs_self
      ((Scalar.half (finite false n hn : Single)).value - (finite false n hn : Single).value / 2)
    linarith

theorem step_small (n : Nat) : BinaryFormat.single.step n = 1 ∨ BinaryFormat.single.step n * 2 ^ 23 ≤ n :=
  BinaryFormat.step_small n

theorem representable_step {n : Nat} (hn : BinaryFormat.single.Representable n) :
    BinaryFormat.single.Representable (BinaryFormat.single.step n) := by
  refine ⟨BinaryFormat.fits_pow _, ?_⟩
  rcases step_small n with hone | hmany
  · exact hone ▸ representable_one.2
  · exact (Nat.le_mul_of_pos_right _ (Nat.two_pow_pos _)).trans_lt (hmany.trans_lt hn.2)

theorem step_le_half {n : Nat} (hquanta : 1 ≤ 2 ^ 148 * y.value)
    (hsmall : (n / BinaryFormat.single.unit : ℚ) ≤ 2 ^ 22 * y.value) :
    (BinaryFormat.single.step n / BinaryFormat.single.unit : ℚ) ≤ y.value / 2 := by
  rcases step_small n with hone | hmany
  · rw [hone, Nat.cast_one, cast_unit, div_le_iff₀ (by positivity)]
    linarith
  · have hmany' : (BinaryFormat.single.step n : ℚ) * 2 ^ 23 ≤ n := by exact_mod_cast hmany
    have hunit : (0 : ℚ) < BinaryFormat.single.unit := BinaryFormat.cast_unit_pos
    have hscaled := div_le_div_of_nonneg_right hmany' hunit.le
    rw [mul_div_right_comm] at hscaled
    linarith

theorem exists_value_next {n : Nat} (hn : BinaryFormat.single.Representable n)
    (hlimit : ((n + BinaryFormat.single.step n : ℕ) / BinaryFormat.single.unit : ℚ) ≤ 2 ^ 127) :
    ∃ y : Single, y.isFinite ∧ y.value = (n + BinaryFormat.single.step n : ℕ) / BinaryFormat.single.unit := by
  rw [div_le_iff₀ BinaryFormat.cast_unit_pos, cast_unit, ← pow_add] at hlimit
  have hnext : n + BinaryFormat.single.step n ≤ 2 ^ (127 + 149) := by
    rw [← Nat.cast_le (α := ℚ), Nat.cast_pow, Nat.cast_ofNat]
    exact hlimit
  exact exists_value ⟨hn.1.add_step, BinaryFormat.lt_overflow (by decide) hnext⟩

/-! ### The larger and the smaller value -/

theorem le_max_left (hx : x.isFinite) (hy : y.isFinite) : x.value ≤ (max x y).value := by
  rcases max_cases hx hy with ⟨heq, hlt⟩ | ⟨heq, -⟩
  · rw [heq]
    exact hlt.le
  · rw [heq]

theorem le_max_right (hx : x.isFinite) (hy : y.isFinite) : y.value ≤ (max x y).value := by
  rcases max_cases hx hy with ⟨heq, -⟩ | ⟨heq, hle⟩
  · rw [heq]
  · rwa [heq]

theorem min_le_left (hx : x.isFinite) (hy : y.isFinite) : (min x y).value ≤ x.value := by
  rcases min_cases hx hy with ⟨heq, hlt⟩ | ⟨heq, -⟩
  · rw [heq]
    exact hlt.le
  · rw [heq]

theorem min_le_right (hx : x.isFinite) (hy : y.isFinite) : (min x y).value ≤ y.value := by
  rcases min_cases hx hy with ⟨heq, -⟩ | ⟨heq, hle⟩
  · rw [heq]
  · rwa [heq]

theorem isFinite_max (hx : x.isFinite) (hy : y.isFinite) : (max x y).isFinite := by
  rcases max_cases hx hy with ⟨heq, -⟩ | ⟨heq, -⟩
  · rwa [heq]
  · rwa [heq]

/-- The largest of finite values is finite, and no smaller than any of them. -/
theorem foldl_max_bounds {β : Type} {f : β → Single} {xs : List β} (hx : x.isFinite) (h : ∀ b ∈ xs, (f b).isFinite) :
    (xs.foldl (fun m b => max m (f b)) x).isFinite ∧ x.value ≤ (xs.foldl (fun m b => max m (f b)) x).value ∧
      ∀ b ∈ xs, (f b).value ≤ (xs.foldl (fun m b => max m (f b)) x).value := by
  induction xs generalizing x with
  | nil => exact ⟨hx, le_rfl, nofun⟩
  | cons b xs ih =>
      obtain ⟨hb, hxs⟩ := List.forall_mem_cons.1 h
      obtain ⟨hfinite, hstart, hrest⟩ := ih (isFinite_max hx hb) hxs
      exact ⟨hfinite, (le_max_left hx hb).trans hstart,
        List.forall_mem_cons.2 ⟨(le_max_right hx hb).trans hstart, hrest⟩⟩

theorem le_max_of_isFinite (hx : x.isFinite) (h : (max x y).isFinite) : x.value ≤ (max x y).value := by
  have hmax : max x y = if x.isNaN || x < y then y else x := rfl
  rw [isNaN_of_isFinite hx, Bool.false_or] at hmax
  by_cases hlt : x < y
  · rw [if_pos (decide_eq_true hlt)] at hmax
    rw [hmax] at h ⊢
    exact ((lt_iff hx h).1 hlt).le
  · rw [hmax, if_neg (by simpa using hlt)]

/-- The value is a number that is not negative, infinite or not. -/
def Nonneg : Single → Prop
  | .nan => False
  | .infinite negative => negative = false
  | x@(.finite ..) => 0 ≤ x.value

theorem Nonneg.of_value (hx : x.isFinite) (h : 0 ≤ x.value) : Nonneg x := by
  obtain ⟨s, n, hn, rfl⟩ := exists_finite hx
  exact h

theorem Nonneg.value (h : Nonneg x) : 0 ≤ x.value := by
  cases x with
  | nan => exact h.elim
  | infinite => exact le_rfl
  | finite => exact h

/-- The larger one of a value that is not negative and any other one is not negative. -/
theorem Nonneg.max (h : Nonneg x) (y : Single) : Nonneg (max x y) := by
  have hmax : Max.max x y = if x.isNaN || x < y then y else x := rfl
  rw [hmax]
  split
  · next hy =>
    cases x with
    | nan => exact h.elim
    | infinite s =>
        obtain rfl : s = false := h
        cases y <;> cases hy
    | finite s m hm =>
        have hlt : (finite s m hm : Single) < y := by simpa [isNaN] using hy
        cases y with
        | nan => cases hlt
        | infinite t => exact Bool.not_eq_eq_eq_not.1 hlt
        | finite t n hn => exact le_trans h ((lt_iff rfl rfl).1 hlt).le
  · exact h

/-- Infinity is above all numbers, so the larger one of two values is not finite if one of them is not. -/
theorem Nonneg.of_isFinite_max (hx : Nonneg x) (hy : Nonneg y) (h : (Max.max x y).isFinite) :
    x.isFinite ∧ y.isFinite := by
  cases x with
  | nan => exact hx.elim
  | infinite s =>
      obtain rfl : s = false := hx
      cases y <;> cases h
  | finite s m hm =>
      cases y with
      | nan => exact hy.elim
      | infinite t =>
          obtain rfl : t = false := hy
          cases h
      | finite t n hn => exact ⟨rfl, rfl⟩

theorem Nonneg.foldl_max {β : Type} (hx : Nonneg x) (f : β → Single) (xs : List β) :
    Nonneg (xs.foldl (fun m b => Max.max m (f b)) x) := by
  induction xs generalizing x with
  | nil => exact hx
  | cons b xs ih => exact ih (hx.max (f b))

theorem Nonneg.of_isFinite_foldl_max {β : Type} {f : β → Single} {xs : List β} (hx : Nonneg x)
    (hxs : ∀ b ∈ xs, Nonneg (f b)) (h : (xs.foldl (fun m b => Max.max m (f b)) x).isFinite) :
    x.isFinite ∧ ∀ b ∈ xs, (f b).isFinite := by
  induction xs generalizing x with
  | nil => exact ⟨h, nofun⟩
  | cons b xs ih =>
      obtain ⟨hb, hrest⟩ := List.forall_mem_cons.1 hxs
      obtain ⟨hfirst, hbehind⟩ := ih (hx.max (f b)) hrest h
      obtain ⟨hfinite, hb'⟩ := hx.of_isFinite_max hb hfirst
      exact ⟨hfinite, List.forall_mem_cons.2 ⟨hb', hbehind⟩⟩

/-! ### Sizes by powers of two -/

/-- The value is finite and at most a power of two in size. -/
structure Within (e : Nat) (x : Single) : Prop where
  finite : x.isFinite
  abs_le : |x.value| ≤ 2 ^ e

theorem Rounds.within (h : x.Rounds r) (he : e ≤ 127) (hr : |r| ≤ 2 ^ e) : Within e x := by
  obtain ⟨y, hy, hvalue⟩ := exists_value_pow he
  obtain ⟨hlow, hhigh⟩ := abs_le.1 hr
  have hlow' := h.ge_of_ge (y := y.neg) ((isFinite_neg y).trans hy) (by rwa [value_neg, hvalue])
  have hhigh' := h.le_of_le hy (hvalue.symm ▸ hhigh)
  rw [value_neg, hvalue] at hlow'
  rw [hvalue] at hhigh'
  exact ⟨h.finite, abs_le.2 ⟨hlow', hhigh'⟩⟩

theorem scalar_ofNat : (Scalar.ofNat : Nat → Single) = ofNat := rfl

theorem scalar_zero : (Scalar.zero : Single).isFinite ∧ (Scalar.zero : Single).value = 0 := by
  rw [Scalar.zero, scalar_ofNat, ← Nat.cast_zero]
  exact value_ofNat (Nat.zero_le _)

namespace Within

variable {f : Nat}

theorem mono (h : Within e x) (he : e ≤ f) : Within f x :=
  ⟨h.finite, h.abs_le.trans (pow_le_pow_right₀ one_le_two he)⟩

theorem pow_le (he : e ≤ 127) : (2 : ℚ) ^ e ≤ 2 ^ 127 := pow_le_pow_right₀ one_le_two he

theorem abs_sum_le (hx : Within e x) (hy : Within e y) : |x.value + y.value| ≤ 2 ^ (e + 1) := by
  have hsum := abs_add_le x.value y.value
  have hx' := hx.abs_le
  have hy' := hy.abs_le
  rw [pow_succ]
  linarith

theorem abs_difference_le (hx : Within e x) (hy : Within e y) : |x.value - y.value| ≤ 2 ^ (e + 1) := by
  have hy' : Within e y.neg := ⟨(isFinite_neg y).trans hy.finite, by rw [value_neg, abs_neg]; exact hy.abs_le⟩
  rw [sub_eq_add_neg, ← value_neg]
  exact hx.abs_sum_le hy'

theorem rounds_add (hx : Within e x) (hy : Within e y) (he : e < 127) : (x + y).Rounds (x.value + y.value) :=
  Binary.rounds_add hx.finite hy.finite ((hx.abs_sum_le hy).trans (pow_le he))

theorem rounds_sub (hx : Within e x) (hy : Within e y) (he : e < 127) : (x - y).Rounds (x.value - y.value) :=
  Binary.rounds_sub hx.finite hy.finite ((hx.abs_difference_le hy).trans (pow_le he))

theorem add (hx : Within e x) (hy : Within e y) (he : e < 127) : Within (e + 1) (x + y) :=
  (hx.rounds_add hy he).within he (hx.abs_sum_le hy)

theorem sub (hx : Within e x) (hy : Within e y) (he : e < 127) : Within (e + 1) (x - y) :=
  (hx.rounds_sub hy he).within he (hx.abs_difference_le hy)

theorem half (hx : Within (e + 1) x) (he : e ≤ 127) : Within e (Scalar.half x) := by
  refine (rounds_half hx.finite).within he ?_
  rw [abs_div, abs_of_pos (two_pos : (0 : ℚ) < 2), div_le_iff₀ two_pos, ← pow_succ]
  exact hx.abs_le

theorem max (hx : Within e x) (hy : Within e y) : Within e (Max.max x y) := by
  rcases max_cases hx.finite hy.finite with ⟨heq, -⟩ | ⟨heq, -⟩
  · rwa [heq]
  · rwa [heq]

theorem min (hx : Within e x) (hy : Within e y) : Within e (Min.min x y) := by
  rcases min_cases hx.finite hy.finite with ⟨heq, -⟩ | ⟨heq, -⟩
  · rwa [heq]
  · rwa [heq]

theorem zero (e : Nat) : Within e (Scalar.zero : Single) := by
  obtain ⟨hfinite, hvalue⟩ := scalar_zero
  exact ⟨hfinite, by rw [hvalue, abs_zero]; positivity⟩

theorem zero_add (hx : Within e x) (he : e < 127) : (Scalar.zero + x).value = x.value := by
  have hrounds := (zero e).rounds_add hx he
  exact hrounds.value_eq hx.finite (by rw [scalar_zero.2]; ring)

theorem le_add (hx : Within e x) (hy : Within e y) (he : e < 127) (h : 0 ≤ y.value) : x.value ≤ (x + y).value :=
  (hx.rounds_add hy he).ge_of_ge hx.finite (le_add_of_nonneg_right h)

theorem sub_le (hx : Within e x) (hy : Within e y) (he : e < 127) (h : 0 ≤ y.value) : (x - y).value ≤ x.value :=
  (hx.rounds_sub hy he).le_of_le hx.finite (sub_le_self _ h)

theorem sub_pos (hx : Within e x) (hy : Within e y) (he : e < 127) (h : y.value < x.value) : 0 < (x - y).value :=
  sub_pos_of_lt hx.finite hy.finite h ((hx.abs_difference_le hy).trans (pow_le he))

/-- Half of a value that is not too small against another one is added to it and not lost. -/
theorem lt_add_half (hx : Within e x) (hy : Within e y) (he : e < 127) (hnonneg : 0 ≤ x.value)
    (hquanta : 1 ≤ 2 ^ 148 * y.value) (hsmall : x.value ≤ 2 ^ 22 * y.value) :
    x.value < (x + Scalar.half y).value := by
  obtain ⟨n, hn, hvalue⟩ := exists_quanta hx.finite hnonneg
  have hhalf : Within e (Scalar.half y) := (hy.mono (Nat.le_succ e)).half he.le
  -- The half is at least the step from the value to the next one, so the sum is not below the next one.
  obtain ⟨z, hz, hstep⟩ := exists_value (representable_step hn)
  have hadded := (rounds_half hy.finite).ge_of_ge hz
    (hstep.trans_le (step_le_half hquanta (hvalue ▸ hsmall)))
  have hsum : ((n + BinaryFormat.single.step n : ℕ) : ℚ) / BinaryFormat.single.unit ≤
      x.value + (Scalar.half y).value := by
    rw [Nat.cast_add, add_div, ← hvalue, ← hstep]
    exact add_le_add_right hadded x.value
  obtain ⟨w, hw, hnext⟩ := exists_value_next hn
    (hsum.trans ((le_abs_self _).trans ((hx.abs_sum_le hhalf).trans (pow_le he))))
  refine lt_of_lt_of_le ?_ ((hx.rounds_add hhalf he).ge_of_ge hw (hnext.trans_le hsum))
  rw [hvalue, hnext, div_lt_div_iff_of_pos_right BinaryFormat.cast_unit_pos, Nat.cast_lt]
  exact Nat.lt_add_of_pos_right (BinaryFormat.single.step_pos n)

end Within

/-! ### Beside exact numbers -/

/-- The value is finite, not negative, and at most `2 ^ k` times as large as the exact number. -/
structure Tracks (k : Nat) (x : Single) (r : ℚ) : Prop where
  finite : x.isFinite
  nonneg : 0 ≤ x.value
  le : x.value ≤ 2 ^ k * r

theorem Rounds.tracks {k : Nat} {s : ℚ} (h : x.Rounds s) (hs : 0 ≤ s) (hr : s ≤ 2 ^ k * r) : Tracks (k + 1) x r := by
  refine ⟨h.finite, h.nonneg hs, (h.le_double hs).trans ?_⟩
  rw [pow_succ]
  linarith

theorem tracks_ofNat {n : Nat} (h : n ≤ 2 ^ 127) : Tracks 1 (ofNat n : Single) n :=
  (rounds_ofNat h).tracks (Nat.cast_nonneg n) (by rw [pow_zero, one_mul])

theorem tracks_ratio {m n : Nat} (hm : m ≤ 2 ^ 24) (hn : n ≤ 2 ^ 24) (hpos : 0 < n) :
    Tracks 1 (Scalar.ratio m n : Single) (Scalar.ratio m n) := by
  obtain ⟨hmfinite, hmvalue⟩ := value_ofNat hm
  obtain ⟨hnfinite, hnvalue⟩ := value_ofNat hn
  have hexact : (Scalar.ratio m n : Rat) = m / n := rfl
  have hn' : (1 : ℚ) ≤ n := Nat.one_le_cast.2 hpos
  have hnonneg : (0 : ℚ) ≤ m / n := by positivity
  have hlimit : (m / n : ℚ) ≤ 2 ^ 127 := by
    refine (div_le_self (Nat.cast_nonneg m) hn').trans ?_
    exact_mod_cast hm.trans (Nat.pow_le_pow_right (by decide) (by decide))
  have hrounds : (Scalar.ratio m n : Single).Rounds (m / n) := by
    rw [Scalar.ratio, scalar_ofNat]
    have hdiv := rounds_div hmfinite hnfinite (by rw [hnvalue]; linarith) (by
      rw [hmvalue, hnvalue, abs_of_nonneg hnonneg]
      exact hlimit)
    rwa [hmvalue, hnvalue] at hdiv
  rw [hexact]
  exact hrounds.tracks hnonneg (by rw [pow_zero, one_mul])

namespace Tracks

variable {k l : Nat} {s : ℚ}

theorem exact_nonneg (h : Tracks k x r) : 0 ≤ r := by
  have hle := h.nonneg.trans h.le
  exact nonneg_of_mul_nonneg_right hle (by positivity)

theorem mono (h : Tracks k x r) (hk : k ≤ l) (hr : r ≤ s) : Tracks l x s := by
  refine ⟨h.finite, h.nonneg, h.le.trans (mul_le_mul (pow_le_pow_right₀ one_le_two hk) hr h.exact_nonneg ?_)⟩
  positivity

theorem within (h : Tracks k x r) (hr : r ≤ 2 ^ 114) (he : k + 114 ≤ e) : Within e x := by
  refine ⟨h.finite, (abs_of_nonneg h.nonneg).trans_le (h.le.trans ?_)⟩
  calc 2 ^ k * r ≤ 2 ^ k * 2 ^ 114 := mul_le_mul_of_nonneg_left hr (by positivity)
    _ = 2 ^ (k + 114) := (pow_add 2 k 114).symm
    _ ≤ 2 ^ e := pow_le_pow_right₀ one_le_two he

/-- Up to this many binary digits are added to an exact number that is below the limit. -/
theorem le_pow (hk : k ≤ 12) (hr : r ≤ 2 ^ 114) : 2 ^ k * r ≤ 2 ^ 127 := by
  have hpow : (2 : ℚ) ^ k ≤ 2 ^ 12 := pow_le_pow_right₀ one_le_two hk
  calc 2 ^ k * r ≤ 2 ^ k * 2 ^ 114 := mul_le_mul_of_nonneg_left hr (by positivity)
    _ ≤ 2 ^ 12 * 2 ^ 114 := mul_le_mul_of_nonneg_right hpow (by positivity)
    _ ≤ 2 ^ 127 := by norm_num

theorem sum_le (hx : Tracks k x r) (hy : Tracks k y s) : x.value + y.value ≤ 2 ^ k * (r + s) := by
  have hx' := hx.le
  have hy' := hy.le
  rw [mul_add]
  linarith

theorem rounds_add (hx : Tracks k x r) (hy : Tracks k y s) (hk : k ≤ 12) (hlimit : r + s ≤ 2 ^ 114) :
    (x + y).Rounds (x.value + y.value) := by
  have hnonneg := add_nonneg hx.nonneg hy.nonneg
  refine Binary.rounds_add hx.finite hy.finite ((abs_of_nonneg hnonneg).trans_le ?_)
  exact (hx.sum_le hy).trans (le_pow hk hlimit)

theorem add (hx : Tracks k x r) (hy : Tracks k y s) (hk : k ≤ 12) (hlimit : r + s ≤ 2 ^ 114) :
    Tracks (k + 1) (x + y) (r + s) :=
  (hx.rounds_add hy hk hlimit).tracks (add_nonneg hx.nonneg hy.nonneg) (hx.sum_le hy)

theorem product_le (hx : Tracks k x r) (hy : Tracks l y s) : x.value * y.value ≤ 2 ^ (k + l) * (r * s) := by
  rw [pow_add, mul_mul_mul_comm]
  exact mul_le_mul hx.le hy.le hy.nonneg (hx.nonneg.trans hx.le)

theorem rounds_mul (hx : Tracks k x r) (hy : Tracks l y s) (hk : k + l ≤ 12) (hlimit : r * s ≤ 2 ^ 114) :
    (x * y).Rounds (x.value * y.value) := by
  have hnonneg := mul_nonneg hx.nonneg hy.nonneg
  refine Binary.rounds_mul hx.finite hy.finite ((abs_of_nonneg hnonneg).trans_le ?_)
  exact (hx.product_le hy).trans (le_pow hk hlimit)

theorem mul (hx : Tracks k x r) (hy : Tracks l y s) (hk : k + l ≤ 12) (hlimit : r * s ≤ 2 ^ 114) :
    Tracks (k + l + 1) (x * y) (r * s) :=
  (hx.rounds_mul hy hk hlimit).tracks (mul_nonneg hx.nonneg hy.nonneg) (hx.product_le hy)

theorem half (hx : Tracks k x r) : Tracks (k + 1) (Scalar.half x) (Scalar.half r) := by
  have hexact : Scalar.half r = r / 2 := rfl
  have hle := hx.le
  rw [hexact]
  exact (rounds_half hx.finite).tracks (div_nonneg hx.nonneg two_pos.le) (by linarith)

theorem max (hx : Tracks k x r) (hy : Tracks k y s) : Tracks k (Max.max x y) (@Max.max Rat Scalar.toMax r s) := by
  have hr : r ≤ @Max.max Rat Scalar.toMax r s := Scalar.rat_le_max_left r s
  have hs : s ≤ @Max.max Rat Scalar.toMax r s := Scalar.rat_le_max_right r s
  rcases max_cases hx.finite hy.finite with ⟨heq, -⟩ | ⟨heq, -⟩
  · rw [heq]
    exact hy.mono le_rfl hs
  · rw [heq]
    exact hx.mono le_rfl hr

theorem foldl_max {β : Type} {f : β → Single} {g : β → Rat} {xs : List β} (hx : Tracks k x r)
    (h : ∀ b ∈ xs, Tracks k (f b) (g b)) :
    Tracks k (xs.foldl (fun m b => Max.max m (f b)) x) (xs.foldl (fun m b => @Max.max Rat Scalar.toMax m (g b)) r) := by
  induction xs generalizing x r with
  | nil => exact hx
  | cons b xs ih =>
      obtain ⟨hb, hxs⟩ := List.forall_mem_cons.1 h
      exact ih (hx.max hb) hxs

end Tracks

end Binary

end FormulaDiagram
