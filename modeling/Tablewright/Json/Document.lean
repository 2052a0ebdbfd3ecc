import Tablewright.Json.Number
import Tablewright.Json.Text
import Tablewright.Document.Decode

/-! JSON texts as documents.
-/

namespace Tablewright.Json

/-- The blanks between the parts of a JSON text.
-/
def isBlank (c : Char) : Bool :=
  c == ' ' || c == '\n' || c == '\t' || c == '\r'

/-- The text after its leading blanks.
-/
def skipBlanks (text : List Char) : List Char :=
  text.dropWhile isBlank

/-- The letters of a word, one after the other; what follows them is left.
-/
def readWord : List Char → List Char → Except Fault (List Char)
  | [], rest => .ok rest
  | _ :: _, [] => .error .endInValue
  | letter :: letters, c :: rest =>
    if letter = c then readWord letters rest else .error .unknownWord

/-- A word that stands for a scalar, after its first letter.
-/
def readConstant (letters : List Char) (value : Scalar) (rest : List Char)
    : Document × Option (List Char) :=
  match readWord letters rest with
  | .ok rest => (.scalar (.ok value), some rest)
  | .error fault => (.broken (.of fault), none)

/-- A text value, after its opening quote.
-/
def readTextValue (rest : List Char) : Document × Option (List Char) :=
  match readText rest .empty with
  | .ok (text, rest) => (.scalar (text.map .text), some rest)
  | .error b => (.broken b, none)

/-- A number value.
-/
def readNumberValue (text : List Char) : Document × Option (List Char) :=
  match readNumber text with
  | .ok (number, rest) => (.scalar number.value, some rest)
  | .error b => (.broken b, none)

mutual

/-- A value at the start of a text, and what follows it unless the text breaks off inside. Each
step takes one unit of `fuel`.
-/
def readValue (fuel : Nat) (text : List Char) : Document × Option (List Char) :=
  match fuel with
  | 0 => (.broken (.of .tooDeep), none)
  | fuel + 1 =>
    match skipBlanks text with
    | [] => (.broken (.of .endInValue), none)
    | 'n' :: rest => readConstant ['u', 'l', 'l'] .null rest
    | 't' :: rest => readConstant ['r', 'u', 'e'] (.boolean true) rest
    | 'f' :: rest => readConstant ['a', 'l', 's', 'e'] (.boolean false) rest
    | '"' :: rest => readTextValue rest
    | '[' :: rest =>
      let (items, rest) := readItems fuel true rest
      (.sequence items, rest)
    | '\x7b' :: rest =>
      let (members, rest) := readMembers fuel true rest
      (.mapping members, rest)
    | c :: rest =>
      if c == '-' || c.isDigit then
        readNumberValue (c :: rest)
      else
        (.broken (.of .missingValue), none)

/-- The values of a sequence after its opening bracket, when `first`, or after a value.
-/
def readItems (fuel : Nat) (first : Bool) (text : List Char) : Items × Option (List Char) :=
  match fuel with
  | 0 => (.broken (.of .tooDeep), none)
  | fuel + 1 =>
    match skipBlanks text with
    | [] => (.broken (.of .endInSequence), none)
    | ']' :: rest => (.closed, some rest)
    | c :: rest =>
      if first then
        readItem fuel (c :: rest)
      else if c = ',' then
        match skipBlanks rest with
        | ']' :: _ => (.item (.broken ⟨.trailingComma, .missingValue⟩) .closed, none)
        | next => readItem fuel next
      else
        (.broken (.of .unseparatedItems), none)

/-- One value of a sequence and the values after it.
-/
def readItem (fuel : Nat) (text : List Char) : Items × Option (List Char) :=
  match fuel with
  | 0 => (.broken (.of .tooDeep), none)
  | fuel + 1 =>
    match readValue fuel text with
    | (value, none) => (.item value .closed, none)
    | (value, some rest) =>
      let (items, rest) := readItems fuel false rest
      (.item value items, rest)

/-- The members of a mapping after its opening brace, when `first`, or after a member.
-/
def readMembers (fuel : Nat) (first : Bool) (text : List Char)
    : Members × Option (List Char) :=
  match fuel with
  | 0 => (.broken (.of .tooDeep), none)
  | fuel + 1 =>
    match skipBlanks text with
    | [] => (.broken (.of .endInMapping), none)
    | '\x7d' :: rest => (.closed, some rest)
    | c :: rest =>
      if first then
        if c = '"' then readMember fuel rest else (.broken (.of .keyNotText), none)
      else if c = ',' then
        match skipBlanks rest with
        | [] => (.broken ⟨.endInValue, .endInMapping⟩, none)
        | '"' :: rest => readMember fuel rest
        | '\x7d' :: _ => (.broken ⟨.trailingComma, .keyNotText⟩, none)
        | _ => (.broken (.of .keyNotText), none)
      else
        (.broken (.of .unseparatedMembers), none)

/-- One member of a mapping, after the opening quote of its key, and the members after it.
-/
def readMember (fuel : Nat) (text : List Char) : Members × Option (List Char) :=
  match fuel with
  | 0 => (.broken (.of .tooDeep), none)
  | fuel + 1 =>
    match readText text .empty with
    | .error b => (.broken b, none)
    | .ok (key, rest) =>
      match skipBlanks rest with
      | ':' :: rest =>
        match readValue fuel rest with
        | (value, none) => (.member key value .closed, none)
        | (value, some rest) =>
          let (members, rest) := readMembers fuel false rest
          (.member key value members, rest)
      | [] => (.member key (.broken (.of .endInMapping)) .closed, none)
      | _ => (.member key (.broken (.of .missingColon)) .closed, none)

end

/-- The document of a text, and what follows it unless the text breaks off inside. Between two
characters that a value consumes lie at most three steps.
-/
def readDocument (text : List Char) : Document × Option (List Char) :=
  readValue (3 * text.length + 3) text

/-- What a JSON document leaves to its readers: values nest up to 127 levels, and a record has no
more values than fields.
-/
def conventions : Conventions :=
  ⟨some 127, false⟩

/-- Reads a typed value from a text that holds nothing else.
-/
def decode {α : Type} (read : Document → Decoded α) (text : String) : Decoded α := do
  let (document, rest) := readDocument text.toList
  let value ← read document
  match rest.map skipBlanks with
  | some (_ :: _) => throw (.fault .trailingText)
  | _ => return value

end Tablewright.Json
