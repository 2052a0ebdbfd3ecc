import Tablewright.Toml.Table

/-! TOML texts as documents. A text that is not well formed anywhere is no document at all, and
tables are read in the order of their keys.
-/

namespace Tablewright.Toml

/-- What follows a comment at the start of a text, up to the line break.
-/
def skipComment : List Char → Option (List Char)
  | '#' :: rest =>
    let rest := rest.dropWhile isPlain
    if rest.isEmpty || (lineBreak? rest).isSome then some rest else none
  | rest => some rest

/-- What follows the blanks, comments and line breaks at the start of a text.
-/
def skipLines (fuel : Nat) (text : List Char) : Option (List Char) :=
  match fuel with
  | 0 => none
  | fuel + 1 => do
    let rest ← skipComment (skipBlanks text)
    match lineBreak? rest with
    | some rest => skipLines fuel rest
    | none => return rest

/-- A character of a key without quotes.
-/
def isKeyChar (c : Char) : Bool :=
  c.isAlphanum || c == '_' || c == '-'

/-- One part of a key.
-/
def readSimpleKey (text : List Char) : Option (String × List Char) :=
  match text with
  | '"' :: '"' :: '"' :: _ => none
  | '\'' :: '\'' :: '\'' :: _ => none
  | '"' :: _ => readText text
  | '\'' :: _ => readText text
  | _ =>
    match text.takeWhile isKeyChar with
    | [] => none
    | key => some (String.ofList key, text.dropWhile isKeyChar)

/-- How deeply arrays and braces may nest in one value, and how many parts a key may have.
-/
def greatestDepth : Nat :=
  80

/-- A key with dots, of at most so many parts.
-/
def readParts (most : Nat) (text : List Char) : Option (List String × List Char) :=
  match most with
  | 0 => none
  | most + 1 => do
    let (key, rest) ← readSimpleKey (skipBlanks text)
    match skipBlanks rest with
    | '.' :: rest =>
      let (path, rest) ← readParts most rest
      return (key :: path, rest)
    | rest => return ([key], rest)

/-- A key with dots.
-/
def readKey (text : List Char) : Option (List String × List Char) :=
  readParts greatestDepth text

mutual

/-- A value at the start of a text, where arrays and braces may nest `room` more levels. Each step
takes one unit of `fuel`.
-/
def readValue (fuel room : Nat) (text : List Char) : Option (Node × List Char) :=
  match fuel with
  | 0 => none
  | fuel + 1 =>
    match text with
    | '[' :: rest =>
      match room with
      | 0 => none
      | room + 1 => do
        let (items, rest) ← readArray fuel room rest
        return (.array items, rest)
    | '\x7b' :: rest =>
      match room with
      | 0 => none
      | room + 1 => do
        let (entries, rest) ← readBraces fuel room [] rest
        return (.table .inline entries, rest)
    | '"' :: _ => do
      let (value, rest) ← readText text
      return (.scalar (.text value), rest)
    | '\'' :: _ => do
      let (value, rest) ← readText text
      return (.scalar (.text value), rest)
    | _ => do
      let (token, rest) := spanToken text
      return (.scalar (← readToken token), rest)

/-- The values of an array, after its opening bracket or a comma.
-/
def readArray (fuel room : Nat) (text : List Char) : Option (List Node × List Char) :=
  match fuel with
  | 0 => none
  | fuel + 1 => do
    match ← skipLines (text.length + 1) text with
    | ']' :: rest => return ([], rest)
    | rest =>
      let (value, rest) ← readValue fuel room rest
      match ← skipLines (rest.length + 1) rest with
      | ',' :: rest =>
        let (items, rest) ← readArray fuel room rest
        return (value :: items, rest)
      | ']' :: rest => return ([value], rest)
      | _ => none

/-- The entries between braces, after the opening brace or a comma, added to those before them.
-/
def readBraces (fuel room : Nat) (done : List (String × Node)) (text : List Char)
    : Option (List (String × Node) × List Char) :=
  match fuel with
  | 0 => none
  | fuel + 1 => do
    match ← skipLines (text.length + 1) text with
    | '\x7d' :: rest => return (done, rest)
    | rest =>
      let (path, rest) ← readKey rest
      let rest ← skipLines (rest.length + 1) rest
      guard (rest.head? = some '=')
      let (value, rest) ← readValue fuel room (← skipLines (rest.length + 1) (rest.drop 1))
      let done ← assign path value done
      match ← skipLines (rest.length + 1) rest with
      | ',' :: rest => readBraces fuel room done rest
      | '\x7d' :: rest => return (done, rest)
      | _ => none

end

/-- A statement at the start of a line that is neither blank nor a comment.
-/
def readStatement (text : List Char) : Option (Statement × List Char) :=
  match text with
  | '[' :: '[' :: rest => do
    let (path, rest) ← readKey rest
    match rest with
    | ']' :: ']' :: rest => return (.item path, rest)
    | _ => none
  | '[' :: rest => do
    let (path, rest) ← readKey rest
    match rest with
    | ']' :: rest => return (.table path, rest)
    | _ => none
  | _ => do
    let (path, rest) ← readKey text
    guard (rest.head? = some '=')
    let rest := skipBlanks (rest.drop 1)
    let (value, rest) ← readValue (2 * rest.length + 2) greatestDepth rest
    return (.assign path value, rest)

/-- The statements of a text. A statement ends with its line.
-/
def readStatements (fuel : Nat) (text : List Char) : Option (List Statement) :=
  match fuel with
  | 0 => none
  | fuel + 1 => do
    match ← skipLines (text.length + 1) text with
    | [] => return []
    | rest =>
      let (statement, rest) ← readStatement rest
      let rest ← skipComment (skipBlanks rest)
      match rest with
      | [] => return [statement]
      | _ => return statement :: (← readStatements fuel (← lineBreak? rest))

/-- The root table of a text, which a byte order mark may precede; none when the text is no TOML
document.
-/
def parse (text : String) : Option Entries := do
  let text :=
    match text.toList with
    | '\ufeff' :: rest => rest
    | rest => rest
  build (← readStatements (text.length + 1) text)

/-- What a TOML document leaves to its readers.
-/
def conventions : Conventions :=
  ⟨none, true⟩

/-- Reads a typed value from a TOML text. The error is the misfit of a well-formed text; a text with
a number beyond 64 bits does not count as well formed once it fails to be read.
-/
def decode {α : Type} (read : Document → Decoded α) (text : String)
    : Except (Option Misfit) α :=
  match parse text with
  | none => .error none
  | some entries =>
    let root := Node.table .header entries
    match read root.document with
    | .ok value => .ok value
    | .error (.misfit misfit) => .error (if root.isNarrow then some misfit else none)
    | .error (.fault _) => .error none

end Tablewright.Toml
