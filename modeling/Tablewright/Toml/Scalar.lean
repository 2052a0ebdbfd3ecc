import Tablewright.Json.Number
import Tablewright.Toml.Text

/-! The unquoted values of a TOML document: truth values, numbers, dates and times.
-/

namespace Tablewright.Toml

/-- A value without parts. The content of dates and times is not kept, nor that of a number that is
too large for every kind of number.
-/
inductive Scalar
  | text (value : String)
  | integer (value : Int)
  | float (spelling : String)
  | boolean (value : Bool)
  | dateTime
  | overflow
  deriving DecidableEq, Repr

/-- The digits of a number without the underscores, each of which stands between two digits.
-/
def ungroup (isDigit : Char → Bool) : List Char → Option (List Char)
  | [] => none
  | [c] => if isDigit c then some [c] else none
  | c :: '_' :: rest => do
    guard (isDigit c)
    return c :: (← ungroup isDigit rest)
  | c :: rest => do
    guard (isDigit c)
    return c :: (← ungroup isDigit rest)

/-- A whole number, which has to fit into 128 bits, with or without a sign.
-/
def Scalar.ofInteger (value : Int) : Scalar :=
  if -Nat.pow 2 127 ≤ value ∧ value < Nat.pow 2 128 then .integer value else .overflow

/-- Numbers of 64 bits: whole ones with a sign, and finite ones with a point.
-/
def Scalar.isNarrow : Scalar → Bool
  | .integer value => Int64.minValue.toInt ≤ value && value ≤ Int64.maxValue.toInt
  | .overflow => false
  | _ => true

/-- A whole number in base 16, 8 or 2.
-/
def readRadix (base : Nat) (token : List Char) : Option Scalar := do
  let isDigit := fun c => (Json.hexValue c).any (· < base)
  let digits ← ungroup isDigit token
  let value := digits.foldl (fun value c => base * value + (Json.hexValue c).getD 0) 0
  return .ofInteger value

/-- The characters of a number up to one that no digit group has.
-/
def spanGroup (token : List Char) : List Char × List Char :=
  (token.takeWhile fun c => c.isDigit || c == '_', token.dropWhile fun c => c.isDigit || c == '_')

/-- The exponent of a number; the mark has been seen.
-/
def readExponent (token : List Char) : Option Int := do
  let (negative, token) :=
    match token with
    | '+' :: rest => (false, rest)
    | '-' :: rest => (true, rest)
    | rest => (false, rest)
  let value := Json.digitsValue (← ungroup Char.isDigit token)
  return if negative then -(value : Int) else value

/-- How TOML numbers are written in messages: always with a point, and of two nearest decimals the
upper one.
-/
def floatLayout : Decimal.Layout :=
  ⟨none, .up⟩

/-- The floating-point number of digits before and after a point and an exponent.
-/
def Scalar.ofDecimal (negative : Bool) (whole fraction : List Char) (exponent : Int) : Scalar :=
  let digits := Json.digitsValue (whole ++ fraction)
  match Decimal.Binary.ofDecimal digits (exponent - fraction.length) with
  | some value => .float (value.text floatLayout negative)
  | none => .overflow

/-- A decimal number without its sign.
-/
def readDecimal (negative : Bool) (token : List Char) : Option Scalar := do
  let (group, rest) := spanGroup token
  let whole ← ungroup Char.isDigit group
  guard (whole.length = 1 ∨ whole.head? ≠ some '0')
  match rest with
  | [] =>
    let value : Int := Json.digitsValue whole
    return .ofInteger (if negative then -value else value)
  | '.' :: rest =>
    let (group, rest) := spanGroup rest
    let fraction ← ungroup Char.isDigit group
    match rest with
    | [] => return .ofDecimal negative whole fraction 0
    | c :: rest =>
      guard (c = 'e' ∨ c = 'E')
      return .ofDecimal negative whole fraction (← readExponent rest)
  | c :: rest =>
    guard (c = 'e' ∨ c = 'E')
    return .ofDecimal negative whole [] (← readExponent rest)

/-- A number after its sign, if it has one.
-/
def readSigned (negative : Bool) (token : List Char) : Option Scalar :=
  if token = ['i', 'n', 'f'] then
    some (.float (if negative then "-inf" else "inf"))
  else if token = ['n', 'a', 'n'] then
    some (.float "NaN")
  else
    readDecimal negative token

/-- The value of two digits at the start of a token.
-/
def readTwoDigits : List Char → Option (Nat × List Char)
  | a :: b :: rest =>
    if a.isDigit ∧ b.isDigit then
      some (10 * Json.digitValue a + Json.digitValue b, rest)
    else
      none
  | _ => none

/-- The number of days of a month.
-/
def daysOfMonth (year month : Nat) : Nat :=
  if month = 2 then
    if year % 4 = 0 ∧ (year % 100 ≠ 0 ∨ year % 400 = 0) then 29 else 28
  else if month = 4 ∨ month = 6 ∨ month = 9 ∨ month = 11 then
    30
  else
    31

/-- What follows a valid date at the start of a token.
-/
def readDate (token : List Char) : Option (List Char) := do
  let (century, token) ← readTwoDigits token
  let (year, token) ← readTwoDigits token
  guard (token.head? = some '-')
  let (month, token) ← readTwoDigits (token.drop 1)
  guard (token.head? = some '-')
  let (day, token) ← readTwoDigits (token.drop 1)
  guard (1 ≤ month ∧ month ≤ 12)
  guard (1 ≤ day ∧ day ≤ daysOfMonth (100 * century + year) month)
  return token

/-- What follows the fraction of a second, if a point stands there.
-/
def readSecondFraction : List Char → Option (List Char)
  | '.' :: rest =>
    match Json.spanDigits rest with
    | ([], _) => none
    | (_, rest) => some rest
  | rest => some rest

/-- What follows a valid time at the start of a token. Seconds may be left out.
-/
def readTime (token : List Char) : Option (List Char) := do
  let (hour, token) ← readTwoDigits token
  guard (token.head? = some ':')
  let (minute, token) ← readTwoDigits (token.drop 1)
  guard (hour ≤ 23 ∧ minute ≤ 59)
  if token.head? = some ':' then
    let (second, token) ← readTwoDigits (token.drop 1)
    guard (second ≤ 60)
    readSecondFraction token
  else
    return token

/-- A whole token is a valid distance from universal time, or empty.
-/
def isOffset : List Char → Bool
  | [] => true
  | ['Z'] => true
  | ['z'] => true
  | c :: rest =>
    (c == '+' || c == '-') &&
      match readTwoDigits rest with
      | some (hours, ':' :: rest) =>
        match readTwoDigits rest with
        | some (minutes, []) => decide (hours ≤ 23 ∧ minutes ≤ 59)
        | _ => false
      | _ => false

/-- A whole token is a valid date, time or both; only both together may have an offset.
-/
def isDateTime (token : List Char) : Bool :=
  match readDate token with
  | some [] => true
  | some (c :: rest) =>
    (c == 'T' || c == 't' || c == ' ') && (readTime rest).any isOffset
  | none => readTime token == some []

/-- The value of an unquoted token.
-/
def readToken (token : List Char) : Option Scalar :=
  match token with
  | ['t', 'r', 'u', 'e'] => some (.boolean true)
  | ['f', 'a', 'l', 's', 'e'] => some (.boolean false)
  | '0' :: 'x' :: digits => readRadix 16 digits
  | '0' :: 'o' :: digits => readRadix 8 digits
  | '0' :: 'b' :: digits => readRadix 2 digits
  | '+' :: rest => readSigned false rest
  | '-' :: rest => readSigned true rest
  | token => if isDateTime token then some .dateTime else readSigned false token

/-- A character that ends an unquoted token.
-/
def endsToken (c : Char) : Bool :=
  c == ' ' || c == '\t' || c == '\n' || c == '\r' || c == ',' || c == ']' || c == '\x7d' || c == '#'

/-- The unquoted token at the start of a text. A date takes a time with it that stands behind one
space.
-/
def spanToken (text : List Char) : List Char × List Char :=
  let token := text.takeWhile (!endsToken ·)
  let rest := text.dropWhile (!endsToken ·)
  match readDate token, rest with
  | some [], ' ' :: c :: more =>
    if c.isDigit then
      (token ++ ' ' :: (c :: more).takeWhile (!endsToken ·),
        (c :: more).dropWhile (!endsToken ·))
    else
      (token, rest)
  | _, _ => (token, rest)

end Tablewright.Toml
