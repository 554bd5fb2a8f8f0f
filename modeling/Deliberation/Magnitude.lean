import Deliberation.Text.Numeral

/-!
# Magnitudes in double precision

A `Magnitude` is what double precision keeps of a number without its sign: a multiple of the
smallest magnitude above zero, with 53 significant binary digits. `Magnitude.nearest` rounds a
quotient to the nearest magnitude, and to the even one of two that are equally near. Magnitudes that
are too large to be finite are kept as well; `isFinite` tells them apart.
-/

namespace Deliberation

/-- The natural number nearest to a quotient, and the even one of two that are equally near. -/
def nearestNatural (numerator denominator : Nat) : Nat :=
  let quotient := numerator / denominator
  let doubled := 2 * (numerator % denominator)
  if doubled < denominator ∨ (doubled = denominator ∧ quotient % 2 = 0) then quotient
  else quotient + 1

/-- A number without its sign in double precision, as a multiple of `2^-1074`. -/
structure Magnitude where
  units : Nat
  deriving DecidableEq, Inhabited

namespace Magnitude

/-- How many units make one. -/
def unitsOfOne : Nat := Nat.pow 2 1074

/-- The magnitude nearest to a quotient. Of the binary digits of the units beyond 53, the last ones
are rounded away. -/
def nearest (numerator denominator : Nat) : Magnitude :=
  let scaled := numerator * unitsOfOne
  let spacing := Nat.pow 2 (Nat.log2 (scaled / denominator) - 52)
  { units := nearestNatural scaled (denominator * spacing) * spacing }

/-- The magnitude nearest to a natural number. -/
def ofNat (number : Nat) : Magnitude := nearest number 1

/-- The magnitude nearest to a product. -/
def times (first second : Magnitude) : Magnitude :=
  nearest (first.units * second.units) (unitsOfOne * unitsOfOne)

/-- Whether a magnitude is below `2^1024`. -/
def isFinite (magnitude : Magnitude) : Bool := magnitude.units < Nat.pow 2 1024 * unitsOfOne

/-- The magnitude nearest to what a numeral writes, if it is finite. A number with more than 400
digits before the point is not, and one with more than 400 zeros behind it is nearest to zero. -/
def ofNumeral? (numeral : Text.Numeral) : Option Magnitude :=
  let significand := numeral.significand
  let digits := numeral.scale + (Nat.toDigits 10 significand).length
  if significand = 0 ∨ digits < -400 then some { units := 0 }
  else if 400 < digits then none
  else
    let magnitude :=
      if 0 ≤ numeral.scale then ofNat (significand * Nat.pow 10 numeral.scale.toNat)
      else nearest significand (Nat.pow 10 (-numeral.scale).toNat)
    if magnitude.isFinite then some magnitude else none

end Magnitude

end Deliberation
