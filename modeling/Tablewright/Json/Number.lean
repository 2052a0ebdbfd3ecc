import Tablewright.Decimal.Shortest
import Tablewright.Document.Basic

/-! Numbers of a JSON text. Whole numbers of 64 bits stay exact; every other number becomes a
binary floating-point number in two roundings, of its leading digits and of their scaling by a
power of ten.
-/

namespace Tablewright.Json

/-- The characters of a number, by their part in it.
-/
structure NumberText where
  negative : Bool
  whole : List Char
  fraction : Option (List Char)
  exponent : Option (Bool × List Char)

/-- The leading decimal digits of a text and what follows them.
-/
def spanDigits (text : List Char) : List Char × List Char :=
  (text.takeWhile Char.isDigit, text.dropWhile Char.isDigit)

/-- The break where a number lacks a digit.
-/
def missingDigit : List Char → Break
  | [] => ⟨.endInValue, .badNumber⟩
  | _ => .of .badNumber

/-- The whole part of a number: a zero alone, or digits that start with another one.
-/
def readWhole : List Char → Except Break (List Char × List Char)
  | '0' :: rest =>
    match rest with
    | c :: _ => if c.isDigit then .error (.of .badNumber) else .ok (['0'], rest)
    | [] => .ok (['0'], [])
  | c :: rest =>
    if c.isDigit then .ok (spanDigits (c :: rest)) else .error (missingDigit (c :: rest))
  | [] => .error (missingDigit [])

/-- At least one digit.
-/
def readDigits (text : List Char) : Except Break (List Char × List Char) :=
  match spanDigits text with
  | ([], rest) => .error (missingDigit rest)
  | (digits, rest) => .ok (digits, rest)

/-- The fraction of a number, if a point follows.
-/
def readFraction : List Char → Except Break (Option (List Char) × List Char)
  | '.' :: rest => do
    let (digits, rest) ← readDigits rest
    return (some digits, rest)
  | rest => .ok (none, rest)

/-- The exponent of a number, if its mark follows.
-/
def readExponent : List Char → Except Break (Option (Bool × List Char) × List Char)
  | c :: rest =>
    if c = 'e' ∨ c = 'E' then do
      let (negative, rest) :=
        match rest with
        | '+' :: rest => (false, rest)
        | '-' :: rest => (true, rest)
        | rest => (false, rest)
      let (digits, rest) ← readDigits rest
      return (some (negative, digits), rest)
    else
      .ok (none, c :: rest)
  | [] => .ok (none, [])

/-- A number at the start of a text.
-/
def readNumber (text : List Char) : Except Break (NumberText × List Char) := do
  let (negative, rest) :=
    match text with
    | '-' :: rest => (true, rest)
    | rest => (false, rest)
  let (whole, rest) ← readWhole rest
  let (fraction, rest) ← readFraction rest
  let (exponent, rest) ← readExponent rest
  return (⟨negative, whole, fraction, exponent⟩, rest)

/-- The value of a decimal digit.
-/
def digitValue (c : Char) : Nat :=
  c.toNat - '0'.toNat

/-- The value of decimal digits.
-/
def digitsValue (digits : List Char) : Nat :=
  digits.foldl (fun value c => 10 * value + digitValue c) 0

/-- Appends digits to a number as long as it stays below `2 ^ 64`; the digits left over follow.
-/
def absorb (value : Nat) : List Char → Nat × List Char
  | [] => (value, [])
  | c :: rest =>
    let next := 10 * value + digitValue c
    if next < UInt64.size then absorb next rest else (value, c :: rest)

/-- The power of ten as a binary number.
-/
def powerOfTen (exponent : Nat) : Option Decimal.Binary :=
  Decimal.Binary.nearest (Nat.pow 10 exponent) 1

/-- A binary number over a power of ten, in steps of at most 308 places.
-/
def shrink (value : Decimal.Binary) (places : Nat) : Option Decimal.Binary := do
  if places ≤ 308 then
    value.div (← powerOfTen places)
  else if places ≤ 616 then
    (← value.div (← powerOfTen 308)).div (← powerOfTen (places - 308))
  else
    Decimal.Binary.nearest 0 1

/-- A number below `2 ^ 64` times a power of ten; none beyond the largest finite number.
-/
def scale (digits : Nat) (exponent : Int) : Option Decimal.Binary := do
  let value ← Decimal.Binary.nearest digits 1
  if exponent < 0 then
    shrink value (-exponent).toNat
  else if exponent ≤ 308 then
    value.mul (← powerOfTen exponent.toNat)
  else if digits = 0 then
    return value
  else
    none

/-- How JSON writes a floating-point number: with a point while that stands among the first
sixteen digits or behind at most four zeros.
-/
def floatLayout : Decimal.Layout :=
  ⟨some (-5, 16), .even⟩

/-- A number with a fraction, an exponent or too many digits.
-/
def NumberText.float (number : NumberText) : Except Fault Scalar :=
  let (leading, dropped) := absorb 0 number.whole
  let fraction := number.fraction.getD []
  let (digits, unused) := absorb leading fraction
  let places : Int := (dropped.length : Int) - (fraction.length - unused.length : Nat)
  let exponent : Int :=
    match number.exponent with
    | none => places
    | some (negative, exponentDigits) =>
      let value := digitsValue exponentDigits
      if negative then places - value else places + value
  match scale digits exponent with
  | some value => .ok (.float (value.text floatLayout number.negative))
  | none => .error .numberOutOfRange

/-- The value of a number.
-/
def NumberText.value (number : NumberText) : Except Fault Scalar :=
  let magnitude := digitsValue number.whole
  if number.fraction.isNone ∧ number.exponent.isNone then
    if number.negative then
      if 0 < magnitude ∧ magnitude ≤ Nat.pow 2 63 then
        .ok (.integer (-(magnitude : Int)))
      else
        number.float
    else if magnitude < UInt64.size then
      .ok (.integer magnitude)
    else
      number.float
  else
    number.float

end Tablewright.Json
