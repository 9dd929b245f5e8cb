/-!
Binary floating point by exact arithmetic. Every finite value of a format is a whole number of quanta, the
quantum being the smallest positive value, so a value is a sign and a count of quanta. An operation computes
the exact rational result and rounds it once: to the nearest value of the format, a tie to the even
significand, and to infinity from half a step above the largest finite value on. The main statement here is
`representable_roundQuanta`: what rounding returns is a value of the format, unless it is too large.
-/

namespace FormulaDiagram

/-- A binary format: significands of `precision` bits over a quantum of `2 ^ -quantumBits`, with all finite
values below `2 ^ overflowBits` quanta. -/
structure BinaryFormat where
  precision : Nat
  quantumBits : Nat
  overflowBits : Nat
  precision_pos : 0 < precision := by decide

namespace BinaryFormat

/-- The format of 32 bits: 24 significant bits, values below `2 ^ 128`. -/
def single : BinaryFormat where
  precision := 24
  quantumBits := 149
  overflowBits := 277

/-- The format of 64 bits: 53 significant bits, values below `2 ^ 1024`. -/
def double : BinaryFormat where
  precision := 53
  quantumBits := 1074
  overflowBits := 2098

variable (format : BinaryFormat)

/-- The number of low bits that a value of the size of `n` quanta has to leave zero. -/
def excess (n : Nat) : Nat := n.log2 + 1 - format.precision

/-- The distance between the values of the size of `n` quanta. -/
def step (n : Nat) : Nat := Nat.pow 2 (format.excess n)

/-- The count of quanta that no finite value reaches. -/
def overflow : Nat := Nat.pow 2 format.overflowBits

/-- The count of quanta that make one. -/
def unit : Nat := Nat.pow 2 format.quantumBits

/-- The count of quanta fits into a significand, with zeros below it. -/
def Fits (n : Nat) : Prop := format.step n ∣ n

/-- The counts of quanta of the finite values. -/
def Representable (n : Nat) : Prop := format.Fits n ∧ n < format.overflow

instance (n : Nat) : Decidable (format.Fits n) := inferInstanceAs (Decidable (_ ∣ _))

instance (n : Nat) : Decidable (format.Representable n) := inferInstanceAs (Decidable (_ ∧ _))

/-- The whole number nearest to `numerator / denominator`, a tie going to the even one. -/
def roundHalfEven (numerator denominator : Nat) : Nat :=
  let low := numerator / denominator
  let twice := 2 * (numerator % denominator)
  if denominator < twice ∨ (twice = denominator ∧ low % 2 = 1) then low + 1 else low

/-- The count of quanta nearest to `numerator / denominator` quanta, were there no largest value. -/
def roundQuanta (numerator denominator : Nat) : Nat :=
  let step := format.step (numerator / denominator)
  roundHalfEven numerator (denominator * step) * step

theorem step_pos (n : Nat) : 0 < format.step n := Nat.two_pow_pos _

theorem representable_zero : format.Representable 0 :=
  ⟨Nat.dvd_zero _, Nat.two_pow_pos _⟩

theorem roundHalfEven_le_succ (n d : Nat) : roundHalfEven n d ≤ n / d + 1 := by
  unfold roundHalfEven
  dsimp only
  split <;> omega

/-- A multiple of a power of two whose factor has at most `precision` bits fits, and so does the next power
of two, to which a significand of ones is rounded up. -/
theorem fits_mul_pow {m e : Nat} (h : m ≤ Nat.pow 2 format.precision) : format.Fits (m * Nat.pow 2 e) := by
  have hp := format.precision_pos
  unfold Fits step excess
  simp only [Nat.pow_eq] at h ⊢
  by_cases hm : m = 0
  · simp [hm]
  by_cases hlt : m < 2 ^ format.precision
  · have hne : m * 2 ^ e ≠ 0 := Nat.mul_ne_zero hm (Nat.pos_iff_ne_zero.1 (Nat.two_pow_pos e))
    have hlog : (m * 2 ^ e).log2 < format.precision + e := by
      rw [Nat.log2_lt hne, Nat.pow_add]
      exact Nat.mul_lt_mul_of_pos_right hlt (Nat.two_pow_pos e)
    refine Nat.dvd_trans (Nat.pow_dvd_pow 2 (m := _) (n := e) (by omega)) (Nat.dvd_mul_left _ _)
  · have heq : m = 2 ^ format.precision := Nat.le_antisymm h (Nat.not_lt.1 hlt)
    rw [heq, ← Nat.pow_add, Nat.log2_two_pow]
    exact Nat.pow_dvd_pow 2 (by omega)

/-- Rounding leaves a count that fits. -/
theorem fits_roundQuanta (n d : Nat) : format.Fits (format.roundQuanta n d) := by
  refine format.fits_mul_pow (Nat.le_trans (roundHalfEven_le_succ _ _) ?_)
  rw [← Nat.div_div_eq_div_mul]
  generalize n / d = q
  have hlt : q < 2 ^ (q.log2 + 1) := Nat.lt_log2_self
  refine (Nat.div_lt_iff_lt_mul (format.step_pos q)).2 (Nat.lt_of_lt_of_le hlt ?_)
  unfold step
  simp only [Nat.pow_eq]
  rw [← Nat.pow_add]
  exact Nat.pow_le_pow_right (by decide) (by unfold excess; omega)

theorem representable_roundQuanta {n d : Nat} (h : format.roundQuanta n d < format.overflow) :
    format.Representable (format.roundQuanta n d) :=
  ⟨format.fits_roundQuanta n d, h⟩

end BinaryFormat

/-- A floating-point value of a format. Zero has two signs; there is one value that is no number. -/
inductive Binary (format : BinaryFormat) where
  | nan
  | infinite (negative : Bool)
  | finite (negative : Bool) (quanta : Nat) (representable : format.Representable quanta)
deriving DecidableEq

/-- Values of 32 bits, the numbers of all measures and of all drawings. -/
abbrev Single : Type := Binary .single

/-- Values of 64 bits, in which decimal text is read first. -/
abbrev Double : Type := Binary .double

namespace Binary

variable {format : BinaryFormat}

/-- The zero of a sign. -/
def zero (negative : Bool) : Binary format := .finite negative 0 format.representable_zero

instance : Inhabited (Binary format) := ⟨zero false⟩

/-- The value nearest to `numerator / denominator` quanta, with a given sign. -/
def ofQuanta (negative : Bool) (numerator denominator : Nat) : Binary format :=
  let quanta := format.roundQuanta numerator denominator
  if h : quanta < format.overflow then
    .finite negative quanta (format.representable_roundQuanta h)
  else
    .infinite negative

/-- The value nearest to the fraction `numerator / denominator`, with a given sign. -/
def ofRatio (negative : Bool) (numerator denominator : Nat) : Binary format :=
  ofQuanta negative (numerator * format.unit) denominator

/-- The value nearest to a natural number. -/
def ofNat (n : Nat) : Binary format := ofRatio false n 1

/-- The value nearest to an integer. -/
def ofInt (n : Int) : Binary format := ofRatio (n < 0) n.natAbs 1

/-- The value of another format nearest to a value: exact when the other format is the finer one. -/
def convert (target : BinaryFormat) : Binary format → Binary target
  | .nan => .nan
  | .infinite negative => .infinite negative
  | .finite negative quanta _ => ofQuanta negative (quanta * target.unit) format.unit

def isNaN : Binary format → Bool
  | .nan => true
  | _ => false

def isFinite : Binary format → Bool
  | .finite .. => true
  | _ => false

/-- A sign and a count of quanta as one integer. -/
def signed (negative : Bool) (quanta : Nat) : Int := if negative then -quanta else quanta

def neg : Binary format → Binary format
  | .nan => .nan
  | .infinite negative => .infinite !negative
  | .finite negative quanta h => .finite (!negative) quanta h

/-- A sum of finite values is their exact sum rounded; when that is zero the sign is negative only if both
signs are. -/
def add : Binary format → Binary format → Binary format
  | .nan, _ => .nan
  | _, .nan => .nan
  | .infinite s, .infinite t => if s = t then .infinite s else .nan
  | .infinite s, .finite .. => .infinite s
  | .finite .., .infinite t => .infinite t
  | .finite s a _, .finite t b _ =>
    let sum := signed s a + signed t b
    if sum = 0 then zero (s && t) else ofQuanta (sum < 0) sum.natAbs 1

def sub (a b : Binary format) : Binary format := a.add b.neg

/-- A product carries the exclusive-or of the signs; zero times infinity is no number. -/
def mul : Binary format → Binary format → Binary format
  | .nan, _ => .nan
  | _, .nan => .nan
  | .infinite s, .infinite t => .infinite (s != t)
  | .infinite s, .finite t b _ => if b = 0 then .nan else .infinite (s != t)
  | .finite s a _, .infinite t => if a = 0 then .nan else .infinite (s != t)
  | .finite s a _, .finite t b _ => ofQuanta (s != t) (a * b) format.unit

/-- A quotient by zero is infinite, but zero by zero and infinity by infinity are no number. -/
def div : Binary format → Binary format → Binary format
  | .nan, _ => .nan
  | _, .nan => .nan
  | .infinite _, .infinite _ => .nan
  | .infinite s, .finite t _ _ => .infinite (s != t)
  | .finite s _ _, .infinite t => zero (s != t)
  | .finite s a _, .finite t b _ =>
    if b = 0 then
      if a = 0 then .nan else .infinite (s != t)
    else
      ofRatio (s != t) a b

/-- The order of numbers; the two zeros are equal, and nothing is related to what is no number. -/
def less : Binary format → Binary format → Bool
  | .nan, _ => false
  | _, .nan => false
  | .infinite s, .infinite t => s && !t
  | .infinite s, .finite .. => s
  | .finite .., .infinite t => !t
  | .finite s a _, .finite t b _ => signed s a < signed t b

/-- Equality of numbers: the two zeros are equal, and what is no number equals nothing. -/
def equals : Binary format → Binary format → Bool
  | .infinite s, .infinite t => s == t
  | .finite s a _, .finite t b _ => signed s a == signed t b
  | _, _ => false

instance : Add (Binary format) := ⟨add⟩
instance : Sub (Binary format) := ⟨sub⟩
instance : Mul (Binary format) := ⟨mul⟩
instance : Div (Binary format) := ⟨div⟩
instance : Neg (Binary format) := ⟨neg⟩
instance : LT (Binary format) := ⟨fun a b => a.less b = true⟩
instance : LE (Binary format) := ⟨fun a b => (a.less b || a.equals b) = true⟩
instance (a b : Binary format) : Decidable (a < b) := inferInstanceAs (Decidable (_ = true))
instance (a b : Binary format) : Decidable (a ≤ b) := inferInstanceAs (Decidable (_ = true))
instance : BEq (Binary format) := ⟨equals⟩

/-- The smaller value. What is no number gives way to the other one, and of equal values the first is kept. -/
instance : Min (Binary format) := ⟨fun a b => if a.isNaN || b < a then b else a⟩

/-- The larger value, with the same two rules. -/
instance : Max (Binary format) := ⟨fun a b => if a.isNaN || a < b then b else a⟩

end Binary

end FormulaDiagram
