import FormulaDiagram.Numeric.Shortest

/-!
Numbers read from decimal text. A literal is a string of digits with a place for the point and a power of ten;
its value is rounded once into a binary format. Powers of ten far outside the format are not computed: from a
certain exponent on the value is infinite, and below another it is zero.
-/

namespace FormulaDiagram

/-- The number written by digits of a base up to 16, the most significant first. -/
def numberOfDigits (base : Nat) (digits : List Char) : Nat :=
  digits.foldl (fun n c => n * base + digitValue c) 0
where
  /-- The value of a digit; letters count from ten, in either case. -/
  digitValue (c : Char) : Nat :=
    if c.isDigit then c.toNat - '0'.toNat
    else if 'a' ≤ c then c.toNat - 'a'.toNat + 10
    else c.toNat - 'A'.toNat + 10

namespace Decimal

/-- The number written as whole digits, fractional digits and a power of ten. -/
def ofParts (whole fraction : List Char) (exponent : Int) : Decimal :=
  ⟨numberOfDigits 10 (whole ++ fraction), exponent - fraction.length⟩

end Decimal

namespace Binary

variable {format : BinaryFormat}

/-- The value nearest to a decimal number. With digits below `2 ^ bits` the number is below
`10 ^ (bits + exponent)`, so it rounds to zero when that is below half a quantum. -/
def ofDecimal (negative : Bool) (d : Decimal) : Binary format :=
  let bits := d.digits.log2 + 1
  if d.digits = 0 then zero negative
  else if (format.overflowBits : Int) < d.exponent then .infinite negative
  else if d.exponent + bits < -(format.quantumBits : Int) then zero negative
  else ofRatio negative (d.digits * Nat.pow 10 d.exponent.toNat) (Nat.pow 10 (-d.exponent).toNat)

end Binary

end FormulaDiagram
