import Tablewright.Json.Text
import Tablewright.Text.Pieces

/-! Hosts that are given as numbers: four bytes with points between them, or eight groups of
hexadecimal digits in brackets.
-/

namespace Tablewright.Http

/-- A digit below eight.
-/
def isOctalDigit (c : Char) : Bool :=
  '0' ≤ c && c ≤ '7'

/-- A hexadecimal digit.
-/
def isHexDigit (c : Char) : Bool :=
  (Json.hexValue c).isSome

/-- The value of digits in a base.
-/
def digitsValue (base : Nat) (digits : List Char) : Nat :=
  digits.foldl (fun value c => base * value + (Json.hexValue c).getD 0) 0

/-- The value of digits, if they are digits of the base.
-/
def readDigits (base : Nat) (isDigit : Char → Bool) (digits : List Char) : Option Nat :=
  if digits.all isDigit then some (digitsValue base digits) else none

/-- The value of one number of a host. A zero in front makes it octal, and `0x` hexadecimal; nothing
after `0x` is zero.
-/
def readNumber : List Char → Option Nat
  | [] => none
  | '0' :: 'x' :: digits => readDigits 16 isHexDigit digits
  | '0' :: c :: digits => readDigits 8 isOctalDigit (c :: digits)
  | digits => readDigits 10 Char.isDigit digits

/-- The parts of a host between points. A point at its end does not count.
-/
def numberParts (host : List Char) : List (List Char) :=
  let parts := Text.pieces '.' host
  if parts.getLast? = some [] then parts.dropLast else parts

/-- A host whose last part is a number, so that all of it has to be numbers.
-/
def endsInNumber (host : List Char) : Bool :=
  match (numberParts host).getLast? with
  | none | some [] => false
  | some part => part.all Char.isDigit || (readNumber part).isSome

/-- The numbers of four bytes: every number is a byte, and the last one fills the bytes that are
left.
-/
def fillFourBytes : Nat → List Nat → Bool
  | _, [] => false
  | bytes, [last] => bytes ≠ 0 && last < Nat.pow 256 bytes
  | bytes, number :: rest => number < 256 && fillFourBytes (bytes - 1) rest

/-- A host of four bytes, which may be written with fewer than four numbers.
-/
def isFourBytes (host : List Char) : Bool :=
  match (numberParts host).mapM readNumber with
  | some numbers => fillFourBytes 4 numbers
  | none => false

/-- A byte in decimal digits, without a zero in front.
-/
def isPlainByte (digits : List Char) : Bool :=
  digits ≠ [] && digits.all Char.isDigit && (digits.length = 1 || digits.head? ≠ some '0')
    && digitsValue 10 digits < 256

/-- Four plain bytes with points between them.
-/
def isPlainFourBytes (text : List Char) : Bool :=
  let parts := Text.pieces '.' text
  parts.length = 4 && parts.all isPlainByte

/-- One to four hexadecimal digits.
-/
def isGroup (digits : List Char) : Bool :=
  1 ≤ digits.length && digits.length ≤ 4 && digits.all isHexDigit

/-- How many groups the texts between colons stand for. The last of them may be four plain bytes,
which are two groups.
-/
def countGroups : List (List Char) → Option Nat
  | [] => some 0
  | [last] =>
    if isGroup last then
      some 1
    else if isPlainFourBytes last then
      some 2
    else
      none
  | group :: rest => if isGroup group then (countGroups rest).map (· + 1) else none

/-- The texts before and after the first pair of colons.
-/
def splitAtGap : List Char → Option (List Char × List Char)
  | ':' :: ':' :: rest => some ([], rest)
  | c :: rest => (splitAtGap rest).map fun (before, after) => (c :: before, after)
  | [] => none

/-- The groups of a text, none of which may be missing.
-/
def groups (text : List Char) : List (List Char) :=
  if text = [] then [] else Text.pieces ':' text

/-- Eight groups of hexadecimal digits. One pair of colons stands for the groups that are missing,
at least one.
-/
def isEightGroups (text : List Char) : Bool :=
  match splitAtGap text with
  | none => countGroups (groups text) = some 8
  | some (before, after) =>
    (groups before).all isGroup
      && match countGroups (groups after) with
        | some count => (groups before).length + count ≤ 7
        | none => false

end Tablewright.Http
