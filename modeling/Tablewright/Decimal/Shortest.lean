import Tablewright.Decimal.Binary

/-! The decimal text of a binary number: the fewest digits that read back as the number, laid out
with a point or with an exponent.
-/

namespace Tablewright.Decimal

/-- The number `digits * 10 ^ exponent`.
-/
structure Scientific where
  digits : Nat
  exponent : Int
  deriving DecidableEq, Repr

/-- The same number without trailing zeros in its digits; `fuel` bounds how many are dropped.
-/
def Scientific.strip (fuel : Nat) (s : Scientific) : Scientific :=
  match fuel with
  | 0 => s
  | fuel + 1 =>
    if s.digits ≠ 0 ∧ s.digits % 10 = 0 then
      Scientific.strip fuel ⟨s.digits / 10, s.exponent + 1⟩
    else
      s

/-- How many decimal digits stand before the point of a positive fraction; nonpositive when the
fraction starts with zeros after the point.
-/
def pointPosition (numerator denominator : Nat) : Int :=
  let whole := numerator / denominator
  if whole ≠ 0 then
    (Nat.toDigits 10 whole).length
  else
    let zeros := (List.range 400).find? fun k => denominator ≤ numerator * Nat.pow 10 (k + 1)
    Int.negOfNat (zeros.getD 400)

/-- Which of two equally near decimals stands for a number: the one with an even last digit, or the
upper one.
-/
inductive Ties
  | even
  | up
  deriving DecidableEq, Repr

/-- The multiple of `10 ^ exponent` next to a number that reads back as it; the nearer one when both
neighbours do. Everything is measured in quarters of the number's last bit.
-/
def Binary.hit (b : Binary) (ties : Ties) (exponent : Int) : Option Scientific :=
  let (unitN, unitD) := inUnits 1 1 (2 - b.exponent)
  let (gridN, gridD) :=
    if 0 ≤ exponent then (Nat.pow 10 exponent.toNat, 1) else (1, Nat.pow 10 (-exponent).toNat)
  let quarter := unitN * gridD
  let grid := gridN * unitD
  let value := 4 * b.significand * quarter
  let lowGap := if b.significand = Nat.pow 2 52 ∧ b.exponent > -1074 then 1 else 2
  let low := (4 * b.significand - lowGap) * quarter
  let high := (4 * b.significand + 2) * quarter
  let inside := fun candidate =>
    if b.significand % 2 = 0 then
      decide (low ≤ candidate * grid ∧ candidate * grid ≤ high)
    else
      decide (low < candidate * grid ∧ candidate * grid < high)
  let below := value / grid
  let above := below + 1
  let closerBelow :=
    let gapBelow := value - below * grid
    let gapAbove := above * grid - value
    gapBelow < gapAbove || gapBelow == gapAbove && ties == .even && below % 2 == 0
  if inside below && (closerBelow || !inside above) then
    some ⟨below, exponent⟩
  else if inside above then
    some ⟨above, exponent⟩
  else
    none

/-- The shortest decimal that reads back as the number, the nearest one among the shortest.
-/
def Binary.shortest (b : Binary) (ties : Ties) : Scientific :=
  if b.significand = 0 then
    ⟨0, 0⟩
  else
    let (n, d) := b.toFraction
    let position := pointPosition n d
    let found := (List.range 17).findSome? fun (k : Nat) =>
      b.hit ties (position - (k : Int) - 1)
    Scientific.strip 20 (found.getD ⟨0, 0⟩)

/-- How a number is written: with a point always, or only while the point stands behind `above` and
not behind `upTo` digits, and otherwise with an exponent.
-/
structure Layout where
  range : Option (Int × Int)
  ties : Ties
  deriving DecidableEq, Repr

/-- Whether a layout writes a point at this position.
-/
def Layout.allows (layout : Layout) (position : Int) : Bool :=
  layout.range.all fun (above, upTo) => above < position && position ≤ upTo

/-- The mark of an exponent and its value, always with a sign.
-/
def exponentText (exponent : Int) : List Char :=
  'e' :: ((if 0 ≤ exponent then ['+'] else []) ++ (toString exponent).toList)

/-- The text of a decimal, always with a point or an exponent.
-/
def Scientific.text (layout : Layout) (s : Scientific) : String :=
  let digits := Nat.toDigits 10 s.digits
  let position : Int := digits.length + s.exponent
  let chars :=
    if s.digits = 0 then
      ['0', '.', '0']
    else if layout.allows position then
      if 0 ≤ s.exponent then
        digits ++ List.replicate s.exponent.toNat '0' ++ ['.', '0']
      else if 0 < position then
        digits.take position.toNat ++ ['.'] ++ digits.drop position.toNat
      else
        ['0', '.'] ++ List.replicate (-position).toNat '0' ++ digits
    else
      let fraction := if digits.length = 1 then [] else '.' :: digits.drop 1
      digits.take 1 ++ fraction ++ exponentText (position - 1)
  String.ofList chars

/-- The text of a number and its sign.
-/
def Binary.text (layout : Layout) (negative : Bool) (b : Binary) : String :=
  (if negative then "-" else "") ++ (b.shortest layout.ties).text layout

end Tablewright.Decimal
