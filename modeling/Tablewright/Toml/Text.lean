import Tablewright.Json.Text

/-! The texts of a TOML document: quoted with escapes or literally, on one line or on several.
-/

namespace Tablewright.Toml

/-- A character that may stand for itself: no control character but the tab.
-/
def isPlain (c : Char) : Bool :=
  c == '\t' || 0x20 ≤ c.toNat && c.toNat != 0x7f

/-- The text after its leading spaces and tabs.
-/
def skipBlanks (text : List Char) : List Char :=
  text.dropWhile fun c => c == ' ' || c == '\t'

/-- What follows the line break at the start of a text.
-/
def lineBreak? : List Char → Option (List Char)
  | '\n' :: rest => some rest
  | '\r' :: '\n' :: rest => some rest
  | _ => none

/-- The character of a short escape.
-/
def shortEscape : Char → Option Char
  | 'b' => some '\x08'
  | 't' => some '\t'
  | 'n' => some '\n'
  | 'f' => some '\x0c'
  | 'r' => some '\r'
  | 'e' => some '\x1b'
  | '"' => some '"'
  | '\\' => some '\\'
  | _ => none

/-- How many hexadecimal digits an escape has after its letter.
-/
def escapeLength : Char → Option Nat
  | 'x' => some 2
  | 'u' => some 4
  | 'U' => some 8
  | _ => none

/-- The character of a code point, unless the code point is a surrogate or too large.
-/
def charOfCode? (code : Nat) : Option Char :=
  if code.isValidChar then some (Char.ofNat code) else none

/-- The escape at the start of a text, after its backslash.
-/
def readEscape : List Char → Option (Char × List Char)
  | [] => none
  | c :: rest =>
    match escapeLength c with
    | some length =>
      if length ≤ rest.length then do
        let code ← Json.hexDigits (rest.take length)
        return (← charOfCode? code, rest.drop length)
      else
        none
    | none => (shortEscape c).map (·, rest)

/-- A text on one line with escapes, after its opening quote; `reversed` holds what has been read.
-/
def readBasic (fuel : Nat) (reversed : List Char) (text : List Char)
    : Option (String × List Char) :=
  match fuel, text with
  | _ + 1, '"' :: rest => some (String.ofList reversed.reverse, rest)
  | fuel + 1, '\\' :: rest => do
    let (c, rest) ← readEscape rest
    readBasic fuel (c :: reversed) rest
  | fuel + 1, c :: rest => if isPlain c then readBasic fuel (c :: reversed) rest else none
  | _, _ => none

/-- A text on one line without escapes, after its opening quote.
-/
def readLiteral (reversed : List Char) : List Char → Option (String × List Char)
  | [] => none
  | '\'' :: rest => some (String.ofList reversed.reverse, rest)
  | c :: rest => if isPlain c then readLiteral (c :: reversed) rest else none

/-- The quotes at the start of a text on several lines: fewer than three belong to the text, three
close it, and up to two before those still belong to it.
-/
def readQuotes (quote : Char) (text : List Char) : Nat × Bool × List Char :=
  let count := min 5 (text.takeWhile (· == quote)).length
  if count < 3 then
    (count, false, text.drop count)
  else
    (count - 3, true, text.drop count)

/-- The text after its leading blanks and line breaks.
-/
def skipGap : List Char → List Char
  | ' ' :: rest => skipGap rest
  | '\t' :: rest => skipGap rest
  | '\n' :: rest => skipGap rest
  | '\r' :: '\n' :: rest => skipGap rest
  | rest => rest

/-- What follows a backslash at the end of a line: blanks and line breaks are left out.
-/
def skipLineEnd? (text : List Char) : Option (List Char) :=
  (lineBreak? (skipBlanks text)).map skipGap

/-- A text on several lines, after its opening quotes and the line break behind them. Line breaks
belong to the text as they are written.
-/
def readLines (quote : Char) (fuel : Nat) (reversed : List Char) (text : List Char)
    : Option (String × List Char) :=
  match fuel, text with
  | 0, _ => none
  | _, [] => none
  | fuel + 1, '\r' :: '\n' :: rest => readLines quote fuel ('\n' :: '\r' :: reversed) rest
  | fuel + 1, c :: rest =>
    if c = quote then
      let (quotes, closed, rest) := readQuotes quote (c :: rest)
      let reversed := List.replicate quotes quote ++ reversed
      if closed then
        some (String.ofList reversed.reverse, rest)
      else
        readLines quote fuel reversed rest
    else if c = '\\' ∧ quote = '"' then
      match skipLineEnd? rest with
      | some rest => readLines quote fuel reversed rest
      | none => do
        let (escaped, rest) ← readEscape rest
        readLines quote fuel (escaped :: reversed) rest
    else if c = '\n' ∨ isPlain c then
      readLines quote fuel (c :: reversed) rest
    else
      none

/-- A text on several lines, after its opening quotes.
-/
def readBlock (quote : Char) (text : List Char) : Option (String × List Char) :=
  let body := (lineBreak? text).getD text
  readLines quote (body.length + 1) [] body

/-- The text at the start of a document, if a quote stands there.
-/
def readText : List Char → Option (String × List Char)
  | '"' :: '"' :: '"' :: rest => readBlock '"' rest
  | '\'' :: '\'' :: '\'' :: rest => readBlock '\'' rest
  | '"' :: rest => readBasic (rest.length + 1) [] rest
  | '\'' :: rest => readLiteral [] rest
  | _ => none

end Tablewright.Toml
