/-! The spelling of a text of any characters by ASCII letters, digits and hyphens alone. The ASCII
characters of the text come first, then a hyphen, then a number for each of the others, which says
how far to count on through all places at which a next character could go in, code point after code
point.
-/

namespace Tablewright.Http.Punycode

/-- The value of a digit of base thirty-six: letters first.
-/
def digitValue (c : Char) : Option Nat :=
  if 'a' ≤ c ∧ c ≤ 'z' then
    some (c.toNat - 'a'.toNat)
  else if '0' ≤ c ∧ c ≤ '9' then
    some (c.toNat - '0'.toNat + 26)
  else
    none

/-- A digit below the threshold of its place ends its number. Thresholds grow from 1 to 26, and
begin to do so where the bias says.
-/
def threshold (place bias : Nat) : Nat :=
  max 1 (min 26 (36 * (place + 1) - bias))

/-- How often a distance is divided until it is small, and what is left of it.
-/
def shrink (distance : Nat) : Nat × Nat :=
  if 455 < distance then
    let (count, left) := shrink (distance / 35)
    (count + 1, left)
  else
    (0, distance)
termination_by distance
decreasing_by exact Nat.div_lt_self (by omega) (by omega)

/-- The bias after a number, for a text that is now `length` characters long.
-/
def adapt (distance length : Nat) (isFirst : Bool) : Nat :=
  let distance := if isFirst then distance / 700 else distance / 2
  let (count, left) := shrink (distance + distance / length)
  36 * count + 36 * left / (left + 38)

/-- What is known while the numbers are read: the text, the code point and the place at which the
last character went in, and the digits of the number under way.
-/
structure Decoding where
  text : List Char
  code : Nat := 128
  last : Nat := 0
  bias : Nat := 72
  value : Nat := 0
  weight : Nat := 1
  place : Nat := 0

/-- No number is under way.
-/
def Decoding.isComplete (decoding : Decoding) : Bool :=
  decoding.place = 0

/-- The number under way is complete: its character goes into the text.
-/
def Decoding.insert (decoding : Decoding) (value : Nat) : Option Decoding :=
  let length := decoding.text.length + 1
  let code := decoding.code + value / length
  let position := value % length
  if code.isValidChar then
    some
      {
        text := decoding.text.insertIdx position (Char.ofNat code),
        code,
        last := position + 1,
        bias := adapt (value - decoding.last) length (decoding.last = 0),
        value := position + 1
      }
  else
    none

/-- One more digit. Numbers have thirty-two bits.
-/
def Decoding.push (decoding : Decoding) (c : Char) : Option Decoding := do
  let digit ← digitValue c
  let value := decoding.value + digit * decoding.weight
  let threshold := threshold decoding.place decoding.bias
  if UInt32.size ≤ value then
    none
  else if digit < threshold then
    decoding.insert value
  else
    let weight := decoding.weight * (36 - threshold)
    if UInt32.size ≤ weight then
      none
    else
      some { decoding with value, weight, place := decoding.place + 1 }

/-- The part before the last hyphen and the part behind it. A hyphen at the start separates nothing.
-/
def splitAtHyphen (text : List Char) : List Char × List Char :=
  let digits := (text.reverse.takeWhile (· != '-')).reverse
  let basic := text.take (text.length - digits.length - 1)
  if basic.isEmpty then ([], text) else (basic, digits)

/-- The text that is spelled so.
-/
def decode (spelled : List Char) : Option (List Char) := do
  let (basic, digits) := splitAtHyphen spelled
  let decoding ← digits.foldlM Decoding.push { text := basic }
  if decoding.isComplete then some decoding.text else none

end Tablewright.Http.Punycode
