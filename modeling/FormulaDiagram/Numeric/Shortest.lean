import FormulaDiagram.Numeric.Binary

/-!
The decimal text of a value: the fewest digits that read back as the same value, and of the texts with that
many digits the one nearest to it, a tie going up. The text is positional at every size; a whole number has no
point.

The values that read back as a count of quanta are an interval around it. It ends half a step away on either
side, only a quarter below a power of two, where the steps get finer, and the ends belong to it when the
significand is even. Decimal grids are tried from the coarse ones on, and on each the two neighbours of the
value, for if any point of a grid is in the interval one of those is.
-/

namespace FormulaDiagram

/-- The decimal number `digits * 10 ^ exponent`. -/
structure Decimal where
  digits : Nat
  exponent : Int
deriving DecidableEq

namespace Decimal

/-- Positional text, with all zeros written out. -/
def text (d : Decimal) : String :=
  let digits := toString d.digits
  let places := (-d.exponent).toNat
  if places = 0 then
    digits ++ String.ofList (List.replicate d.exponent.toNat '0')
  else
    let padded := List.replicate (places + 1 - digits.length) '0' ++ digits.toList
    let whole := padded.length - places
    String.ofList (padded.take whole ++ '.' :: padded.drop whole)

end Decimal

namespace BinaryFormat

variable (format : BinaryFormat)

/-- Twice the distance from `n` quanta down to the next smaller value. -/
def gapBelow (n : Nat) : Nat :=
  if n = Nat.pow 2 n.log2 ∧ 0 < format.excess n then format.step n else 2 * format.step n

/-- Twice the distance from `n` quanta up to the next larger value. -/
def gapAbove (n : Nat) : Nat := 2 * format.step n

/-- The multiple of `spacing` reads back as `n` quanta, where `spacing` and `quarter` are the sizes of the grid's
step and of a quarter of the quantum in one common measure. -/
def readsBack (n quarter spacing multiple : Nat) : Bool :=
  let low := (4 * n - format.gapBelow n) * quarter
  let high := (4 * n + format.gapAbove n) * quarter
  let point := multiple * spacing
  if n / format.step n % 2 = 0 then low ≤ point && point ≤ high else low < point && point < high

/-- The point of the grid of step `10 ^ exponent` that reads back as `n` quanta and is nearest to them. -/
def gridPoint? (n : Nat) (exponent : Int) : Option Nat :=
  let quarter := Nat.pow 10 (-exponent).toNat
  let spacing := Nat.pow 10 exponent.toNat * (4 * format.unit)
  let exact := 4 * n * quarter
  let low := exact / spacing
  let high := low + 1
  match format.readsBack n quarter spacing low, format.readsBack n quarter spacing high with
  | true, true => if exact - low * spacing < high * spacing - exact then some low else some high
  | true, false => some low
  | false, true => some high
  | false, false => none

/-- The first grid with a point that reads back, of `steps` grids downwards from `exponent`. When there is none
among them the answer is the value itself, which has finitely many decimals. -/
def shortestFrom (n : Nat) : Nat → Int → Decimal
  | 0, _ => ⟨n * Nat.pow 5 format.quantumBits, -format.quantumBits⟩
  | steps + 1, exponent =>
    match format.gridPoint? n exponent with
    | some digits => ⟨digits, exponent⟩
    | none => shortestFrom n steps (exponent - 1)

/-- The shortest decimal number that reads back as `n` quanta. -/
def shortest (n : Nat) : Decimal :=
  let start := (n / format.unit).log2 / 3 + 1
  format.shortestFrom n (start + format.quantumBits) start

end BinaryFormat

namespace Binary

variable {format : BinaryFormat}

/-- The text of a value. Zero keeps its sign. -/
def text : Binary format → String
  | .nan => "NaN"
  | .infinite negative => if negative then "-inf" else "inf"
  | .finite negative quanta _ =>
    (if negative then "-" else "") ++ (if quanta = 0 then "0" else (format.shortest quanta).text)

instance : ToString (Binary format) := ⟨text⟩

end Binary

end FormulaDiagram
