import Tablewright.Document.Basic

/-! Texts of a JSON document: reading what stands between quotes, and writing it.
-/

namespace Tablewright.Json

/-- What has been read of a text, from its last character to its first; a leading surrogate that
still waits for its partner; and the first fault that makes the text unreadable without breaking
it off.
-/
structure TextSoFar where
  reversed : List Char
  pending : Option Nat
  fault : Option Fault

/-- Nothing read yet.
-/
def TextSoFar.empty : TextSoFar :=
  ⟨[], none, none⟩

/-- One more character. A waiting surrogate stays without a partner.
-/
def TextSoFar.push (text : TextSoFar) (c : Char) : TextSoFar :=
  match text.pending with
  | none => { text with reversed := c :: text.reversed }
  | some _ => ⟨c :: text.reversed, none, text.fault <|> some .brokenSurrogatePair⟩

/-- A code unit that pairs with the one after it.
-/
def isLeading (unit : Nat) : Bool :=
  0xd800 ≤ unit && unit < 0xdc00

/-- A code unit that pairs with the one before it.
-/
def isTrailing (unit : Nat) : Bool :=
  0xdc00 ≤ unit && unit < 0xe000

/-- One more code unit of sixteen bits.
-/
def TextSoFar.pushUnit (text : TextSoFar) (unit : Nat) : TextSoFar :=
  match text.pending with
  | some leading =>
    if isTrailing unit then
      let code := 0x10000 + (leading - 0xd800) * 0x400 + (unit - 0xdc00)
      { text with reversed := Char.ofNat code :: text.reversed, pending := none }
    else
      { text with pending := none, fault := text.fault <|> some .loneSurrogate }
  | none =>
    if isTrailing unit then
      { text with fault := text.fault <|> some .loneSurrogate }
    else if isLeading unit then
      { text with pending := some unit }
    else
      { text with reversed := Char.ofNat unit :: text.reversed }

/-- The text at its closing quote.
-/
def TextSoFar.finish (text : TextSoFar) : Except Fault String :=
  match text.fault, text.pending with
  | some fault, _ => .error fault
  | none, some _ => .error .brokenSurrogatePair
  | none, none => .ok (String.ofList text.reversed.reverse)

/-- The break at a fault; a reader meets an earlier fault first.
-/
def TextSoFar.breakAt (text : TextSoFar) (fault : Fault) : Break :=
  ⟨text.fault.getD fault, fault⟩

/-- The value of a hexadecimal digit.
-/
def hexValue (c : Char) : Option Nat :=
  if c.isDigit then
    some (c.toNat - '0'.toNat)
  else if 'a' ≤ c ∧ c ≤ 'f' then
    some (c.toNat - 'a'.toNat + 10)
  else if 'A' ≤ c ∧ c ≤ 'F' then
    some (c.toNat - 'A'.toNat + 10)
  else
    none

/-- The value of hexadecimal digits.
-/
def hexDigits (digits : List Char) : Option Nat :=
  digits.foldlM (fun value c => (16 * value + ·) <$> hexValue c) 0

/-- The character of a short escape.
-/
def shortEscape : Char → Option Char
  | '"' => some '"'
  | '\\' => some '\\'
  | '/' => some '/'
  | 'b' => some '\x08'
  | 'f' => some '\x0c'
  | 'n' => some '\n'
  | 'r' => some '\r'
  | 't' => some '\t'
  | _ => none

/-- How many bytes a text takes.
-/
def byteLength (text : List Char) : Nat :=
  text.foldr (fun c size => c.utf8Size + size) 0

/-- The rest of a text after its opening quote, up to the closing one. The inner result is the
text, or why it cannot be read although it ends.
-/
def readText : List Char → TextSoFar → Except Break (Except Fault String × List Char)
  | [], text => .error (text.breakAt .endInText)
  | '"' :: rest, text => .ok (text.finish, rest)
  | '\\' :: 'u' :: a :: b :: c :: d :: rest, text =>
    match hexDigits [a, b, c, d] with
    | some unit => readText rest (text.pushUnit unit)
    | none => .error (text.breakAt .badEscape)
  | '\\' :: 'u' :: rest, text =>
    .error (text.breakAt (if byteLength rest < 4 then .endInText else .badEscape))
  | '\\' :: c :: rest, text =>
    match shortEscape c with
    | some character => readText rest (text.push character)
    | none => .error ((text.push c).breakAt .badEscape)
  | ['\\'], text => .error (text.breakAt .endInText)
  | c :: rest, text =>
    if c.toNat < 0x20 then
      .error ((text.push c).breakAt .controlCharacter)
    else
      readText rest (text.push c)

/-- A hexadecimal digit in lower case.
-/
def hexDigit (value : Nat) : Char :=
  Nat.digitChar (value % 16)

/-- How one character is written inside a text.
-/
def escapeChar (c : Char) : List Char :=
  match c with
  | '"' => ['\\', '"']
  | '\\' => ['\\', '\\']
  | '\x08' => ['\\', 'b']
  | '\x0c' => ['\\', 'f']
  | '\n' => ['\\', 'n']
  | '\r' => ['\\', 'r']
  | '\t' => ['\\', 't']
  | c =>
    if c.toNat < 0x20 then
      ['\\', 'u', '0', '0', hexDigit (c.toNat / 16), hexDigit c.toNat]
    else
      [c]

/-- The written form of a text, with its quotes.
-/
def writeText (text : String) : List Char :=
  '"' :: (text.toList.flatMap escapeChar ++ ['"'])

end Tablewright.Json
