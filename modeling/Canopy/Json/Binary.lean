import Canopy.Json.Basic

namespace Canopy

/-- The quotient to the nearest integer. A half goes to the even neighbour. -/
def roundDiv (num den : Nat) : Nat :=
  let quotient := num / den
  let twice := 2 * (num % den)
  if twice < den then quotient
  else if den < twice then quotient + 1
  else quotient + quotient % 2

namespace Decimal

/-- The smallest positive binary number of 64 bits is one over two to this power. All others are
multiples of it. -/
def smallestExponent : Nat := 1074

def one : Nat := Nat.pow 2 smallestExponent

/-- The bits of a significand besides the first. -/
def fractionBits : Nat := 52

/-- The first magnitude, in units of the smallest, that is beyond all finite numbers. -/
def firstBeyond : Nat := Nat.pow 2 (1024 + smallestExponent)

/-- The multiple of the unit that is nearest to `num / den` units and has no more bits than a
significand. -/
def nearestUnits (num den : Nat) : Nat :=
  let scale := Nat.pow 2 ((num / den).log2 - fractionBits)
  roundDiv num (den * scale) * scale

def ratio (d : Decimal) : Nat × Nat :=
  match d.exponent with
  | .ofNat e => (d.digits * Nat.pow 10 e, 1)
  | .negSucc e => (d.digits, Nat.pow 10 (e + 1))

/-- No decimal below this power of ten is nearer to the smallest binary number than to zero. -/
def vanishingExponent : Int := -330

/-- No decimal from this power of ten on is near a finite number. -/
def beyondExponent : Int := 309

/-- The magnitude of the nearest binary number of 64 bits, in units of the smallest; none where that
is infinite. -/
def units? (d : Decimal) : Option Nat :=
  if d.digits = 0 ∨ d.exponent + d.digits.log2 + 1 ≤ vanishingExponent then some 0
  else if beyondExponent ≤ d.exponent then none
  else
    let (num, den) := d.ratio
    let units := nearestUnits (num * one) den
    if units < firstBeyond then some units else none

end Decimal
end Canopy
