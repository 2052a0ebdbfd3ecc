import Tablewright.Http.Numeric
import Tablewright.Http.Punycode
import Tablewright.Text.Case
import Tablewright.Text.Property.Direction
import Tablewright.Text.Property.Joining
import Tablewright.Text.Property.Mark
import Tablewright.Text.Property.Spelling
import Tablewright.Text.Property.Unprintable

/-! Domain names: which texts of any script name a host. A name is first spelled in the one way in
which names are compared; then its labels, the parts between points, are looked at one by one.
-/

namespace Tablewright.Http

/-- A text with each percent sign and two hexadecimal digits replaced by the byte that they give.
-/
def percentDecode : List UInt8 → List UInt8
  | [] => []
  | [byte] => [byte]
  | [byte, other] => [byte, other]
  | byte :: high :: low :: rest =>
    match Json.hexDigits [Char.ofNat high.toNat, Char.ofNat low.toNat] with
    | some value =>
      if byte = 0x25 then
        UInt8.ofNat value :: percentDecode rest
      else
        byte :: percentDecode (high :: low :: rest)
    | none => byte :: percentDecode (high :: low :: rest)

/-- The characters of a host whose bytes may be written with percent signs.
-/
def unescapeHost (host : List Char) : Option (List Char) :=
  let bytes := percentDecode (String.ofList host).toUTF8.toList
  (String.fromUTF8? ⟨bytes.toArray⟩).map String.toList

/-- A sign that joins or parts its neighbours without showing.
-/
def isJoiner (c : Char) : Bool :=
  c == '\u200c' || c == '\u200d'

/-- A character that no name holds.
-/
def isRefused (c : Char) : Bool :=
  Text.refusedRanges.contain c || Text.unprintableRanges.contain c && !isJoiner c

/-- The ASCII characters that a character beyond ASCII stands for.
-/
def asciiSpelling? (c : Char) : Option (List Char) :=
  match Text.asciiRuns.find? fun (first, last, _) => first ≤ c.toNat && c.toNat ≤ last with
  | some (first, _, target) => some [Char.ofNat (target + (c.toNat - first))]
  | none => (Text.asciiSpellings.lookup c.toNat).map String.toList

/-- How a character is spelled in a name, if a name can hold it at all. What is spelled with other
characters beyond ASCII stays, because it is of the same kind as they are.
-/
def spell (c : Char) : Option (List Char) :=
  if c.toNat < 0x80 then
    some [c.toLower]
  else if Text.droppedRanges.contain c then
    some []
  else
    match asciiSpelling? c with
    | some spelling => some spelling
    | none => if isRefused c then none else some [c]

/-- A character that is its own spelling.
-/
def isOwnSpelling (c : Char) : Bool :=
  c.toNat < 0x80
    || !Text.droppedRanges.contain c && !Text.respelledRanges.contain c && !isRefused c
      && (asciiSpelling? c).isNone && Text.lowerChar c == [c]

/-- A character of ASCII that no name holds.
-/
def isForbiddenInName (c : Char) : Bool :=
  c.toNat ≤ 0x20 || c.toNat == 0x7f || "\"%#/:<>?@[\\]^`\x7b|\x7d".toList.contains c

/-- Some character is not ASCII.
-/
def isWide (text : List Char) : Bool :=
  text.any fun c => 0x80 ≤ c.toNat

/-- What a label means. One that begins with `xn--` spells some other text, which could not stand in
a name of ASCII alone.
-/
def readLabel (label : List Char) : Option (List Char) :=
  match label with
  | 'x' :: 'n' :: '-' :: '-' :: spelled => do
    let text ← if isWide spelled then none else Punycode.decode spelled
    if isWide text && text.all isOwnSpelling then some text else none
  | _ => some label

/-- The joiners of a text stand where they have an effect, given the characters before it from the
nearest to the farthest: behind a sign that joins letters, or, for the one that parts them, between
two letters that would join.
-/
def hasGoodJoiners (before : List Char) : List Char → Bool
  | [] => true
  | c :: rest =>
    let isMark := Text.markRanges.contain
    let joinsForward := match before.dropWhile isMark with
      | letter :: _ => Text.dualJoiningRanges.contain letter
      | [] => false
    let joinsBackward := match rest.dropWhile isMark with
      | letter :: _ =>
        Text.dualJoiningRanges.contain letter || Text.rightJoiningRanges.contain letter
      | [] => false
    (!isJoiner c || before.head?.any Text.viramaRanges.contain
        || c == '\u200c' && joinsForward && joinsBackward)
      && hasGoodJoiners (c :: before) rest

/-- A label that can be written on its own: no mark stands at its start, and its joiners have an
effect.
-/
def isLabel (label : List Char) : Bool :=
  !label.head?.any Text.markRanges.contain && hasGoodJoiners [] label

/-- A mark that takes the direction of the character that it stands on.
-/
def isNonspacing (c : Char) : Bool :=
  Text.markRanges.contain c && !Text.spacingMarkRanges.contain c

/-- A letter written from left to right.
-/
def isLeftToRight (c : Char) : Bool :=
  !isNonspacing c && !Text.rightToLeftRanges.contain c && !Text.arabicNumberRanges.contain c
    && !Text.europeanNumberRanges.contain c && !Text.neutralRanges.contain c

/-- A character that makes its name one of several directions.
-/
def isBidirectional (c : Char) : Bool :=
  Text.rightToLeftRanges.contain c || Text.arabicNumberRanges.contain c

/-- A label that keeps its parts together wherever it is shown in a text of several directions. Its
first letter gives its direction.
-/
def hasOneDirection (label : List Char) : Bool :=
  match label with
  | [] => true
  | first :: rest =>
    let last := (rest.reverse.dropWhile isNonspacing).head?.getD first
    let isEuropean := Text.europeanNumberRanges.contain
    let isArabic := Text.arabicNumberRanges.contain
    if isLeftToRight first then
      !label.any isBidirectional && (isLeftToRight last || isEuropean last)
    else
      Text.rightToLeftRanges.contain first && !label.any isLeftToRight
        && (isBidirectional last || isEuropean last)
        && !(label.any isEuropean && label.any isArabic)

/-- A name as it is compared, if it is the name of a host.
-/
def readDomain (host : List Char) : Option (List Char) := do
  let characters ← unescapeHost host
  let name := (← characters.mapM spell).flatten
  let labels ← (Text.pieces '.' name).mapM readLabel
  if name ≠ [] && !name.any isForbiddenInName && labels.all isLabel
      && (!labels.any (·.any isBidirectional) || labels.all hasOneDirection) then
    some name
  else
    none

/-- A text that names a host: a domain, or four bytes if it ends in a number.
-/
def isDomain (host : List Char) : Bool :=
  match readDomain host with
  | some name => !endsInNumber name || isFourBytes name
  | none => false

end Tablewright.Http
