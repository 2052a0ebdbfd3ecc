import Tablewright.Text.Case

/-! References to variables inside a text: a name in braces after a dollar sign, or a run of
letters, numbers and underscores after it.
-/

namespace Tablewright.Variables

/-- A part of a text: a character that stands for itself, a reference to a variable, or a brace
that opens a name and is never closed.
-/
inductive Piece
  | literal (c : Char)
  | reference (name : String)
  | unclosed
  deriving DecidableEq, Repr

/-- A character of a name without braces.
-/
def isNameChar (c : Char) : Bool :=
  Text.isAlphanumeric c || c == '_'

/-- The parts of a text, from left to right.
-/
def pieces : List Char → List Piece
  | [] => []
  | c :: rest =>
    if c = '$' then
      match rest with
      | '\x7b' :: inner =>
        match _h : inner.dropWhile (· != '\x7d') with
        | [] => [.unclosed]
        | _ :: after =>
          .reference (String.ofList (inner.takeWhile (· != '\x7d'))) :: pieces after
      | rest =>
        match rest.takeWhile isNameChar with
        | [] => .literal '$' :: pieces rest
        | name => .reference (String.ofList name) :: pieces (rest.dropWhile isNameChar)
    else
      .literal c :: pieces rest
termination_by text => text.length
decreasing_by
  · have := (List.dropWhile_sublist (l := inner) (fun c => c != '\x7d')).length_le
    rw [_h] at this
    simp only [List.length_cons] at this ⊢
    omega
  · simp
  · have := (List.dropWhile_sublist (l := rest) isNameChar).length_le
    simp only [List.length_cons]
    omega
  · simp

/-- Why a text cannot be expanded.
-/
inductive Failure
  | undefined (name : String)
  | unterminated (text : String)
  deriving DecidableEq, Repr

/-- The wording of a failure.
-/
def Failure.message : Failure → String
  | undefined name => "Missing environment variable: " ++ name
  | unterminated text => "Unterminated variable reference in: " ++ text

/-- Puts the values of the variables in place of the references. Variables are looked up from left
to right, and the first failure ends the expansion.
-/
def replace {m : Type → Type} [Monad m] (lookup : String → m (Option String)) (text : String)
    (done : String)
    : List Piece → m (Except Failure String)
  | [] => pure (.ok done)
  | .literal c :: rest => replace lookup text (done.push c) rest
  | .unclosed :: _ => pure (.error (.unterminated text))
  | .reference name :: rest => do
    match ← lookup name with
    | some value => replace lookup text (done ++ value) rest
    | none => pure (.error (.undefined name))

/-- The text with the values of its variables.
-/
def expandM {m : Type → Type} [Monad m] (lookup : String → m (Option String)) (text : String)
    : m (Except Failure String) :=
  replace lookup text "" (pieces text.toList)

/-- The text with the values of its variables in an environment.
-/
def expand (environment : String → Option String) (text : String) : Except Failure String :=
  expandM (m := Id) environment text

end Tablewright.Variables
