/-! Binary floating-point numbers of 53 bits as exact values, with rounding to the nearest one.
-/

namespace Tablewright.Decimal

/-- The nonnegative number `significand * 2 ^ exponent`; `Binary.nearest` keeps the
significand below `2 ^ 53` and the exponent between `-1074` and `971`.
-/
structure Binary where
  significand : Nat
  exponent : Int
  deriving DecidableEq, Repr

/-- The fraction `numerator / denominator` in units of `2 ^ exponent`.
-/
def inUnits (numerator denominator : Nat) (exponent : Int) : Nat × Nat :=
  if 0 ≤ exponent then
    (numerator, denominator * Nat.pow 2 exponent.toNat)
  else
    (numerator * Nat.pow 2 (-exponent).toNat, denominator)

/-- The whole number nearest to a fraction; a half goes to the even neighbour.
-/
def nearestWhole (numerator denominator : Nat) : Nat :=
  let quotient := numerator / denominator
  let twice := 2 * (numerator % denominator)
  if twice < denominator then
    quotient
  else if denominator < twice then
    quotient + 1
  else
    quotient + quotient % 2

/-- The number nearest to a fraction; none when that lies beyond the largest finite one.
-/
def Binary.nearest (numerator denominator : Nat) : Option Binary :=
  if numerator = 0 then
    some ⟨0, -1074⟩
  else
    let magnitude : Int := (Nat.log2 numerator : Int) - Nat.log2 denominator
    let (n, d) := inUnits numerator denominator magnitude
    let exponent := max (-1074) (if d ≤ n then magnitude - 52 else magnitude - 53)
    let (n, d) := inUnits numerator denominator exponent
    let significand := nearestWhole n d
    let rounded : Binary :=
      if significand = Nat.pow 2 53 then ⟨Nat.pow 2 52, exponent + 1⟩ else ⟨significand, exponent⟩
    if 971 < rounded.exponent then none else some rounded

/-- The value as a fraction.
-/
def Binary.toFraction (b : Binary) : Nat × Nat :=
  inUnits b.significand 1 (-b.exponent)

/-- Product, rounded; none beyond the largest finite number.
-/
def Binary.mul (a b : Binary) : Option Binary :=
  let (an, ad) := a.toFraction
  let (bn, bd) := b.toFraction
  nearest (an * bn) (ad * bd)

/-- Quotient, rounded; none beyond the largest finite number.
-/
def Binary.div (a b : Binary) : Option Binary :=
  let (an, ad) := a.toFraction
  let (bn, bd) := b.toFraction
  nearest (an * bd) (ad * bn)

/-- The number nearest to `digits * 10 ^ exponent`; none when that lies beyond the largest
finite one.
-/
def Binary.ofDecimal (digits : Nat) (exponent : Int) : Option Binary :=
  let length := (Nat.toDigits 10 digits).length
  if digits = 0 || exponent + length < -400 then
    some ⟨0, -1074⟩
  else if 400 < exponent + length then
    none
  else if 0 ≤ exponent then
    nearest (digits * Nat.pow 10 exponent.toNat) 1
  else
    nearest digits (Nat.pow 10 (-exponent).toNat)

end Tablewright.Decimal
