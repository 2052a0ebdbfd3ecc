import Tablewright.Text.Property.Alphabetic
import Tablewright.Text.Property.CaseIgnorable
import Tablewright.Text.Property.Cased
import Tablewright.Text.Property.Lowercase
import Tablewright.Text.Property.Numeric
import Tablewright.Text.Property.Uppercase

/-! Letter case of whole texts: lower-casing with the final sigma, and words with a capital first
letter.
-/

namespace Tablewright.Text

/-- A letter in the sense of the Unicode property Alphabetic.
-/
def isAlphabetic (c : Char) : Bool :=
  alphabeticRanges.contain c

/-- A letter or a number of any script.
-/
def isAlphanumeric (c : Char) : Bool :=
  alphabeticRanges.contain c || numericRanges.contain c

/-- Upper case of one character, which may be longer than one character.
-/
def upperChar (c : Char) : List Char :=
  mapCase uppercaseRuns uppercaseExpansions c

/-- Lower case of one character on its own.
-/
def lowerChar (c : Char) : List Char :=
  mapCase lowercaseRuns lowercaseExpansions c

/-- The nearest character that case rules do not look through has a case.
-/
def reachesCased (text : List Char) : Bool :=
  match text.dropWhile caseIgnorableRanges.contain with
  | [] => false
  | c :: _ => casedRanges.contain c

/-- Lower case of a text, given the characters `before` it from the nearest to the farthest.
A capital sigma that ends a word becomes the final sigma.
-/
def lowerFrom (before : List Char) : List Char → List Char
  | [] => []
  | c :: rest =>
    let lower :=
      if c = 'Σ' then
        [if reachesCased before && !reachesCased rest then 'ς' else 'σ']
      else
        lowerChar c
    lower ++ lowerFrom (c :: before) rest

/-- Lower case of a whole text.
-/
def lower (text : String) : String :=
  String.ofList (lowerFrom [] text.toList)

/-- Capitals at the start of each run of letters and lower case inside the run.
-/
def titleFrom (atStart : Bool) : List Char → List Char
  | [] => []
  | c :: rest =>
    if isAlphabetic c then
      (if atStart then upperChar c else lowerChar c) ++ titleFrom false rest
    else
      c :: titleFrom true rest

/-- A text with each run of letters capitalized.
-/
def titleWords (text : String) : String :=
  String.ofList (titleFrom true text.toList)

end Tablewright.Text
