/-! A text cut at every occurrence of one character.
-/

namespace Tablewright.Text

/-- The pieces of a text between separators. There is one more of them than there are separators.
-/
def pieces (separator : Char) : List Char → List (List Char)
  | [] => [[]]
  | c :: rest =>
    if c = separator then
      [] :: pieces separator rest
    else
      match pieces separator rest with
      | [] => [[c]]
      | piece :: more => (c :: piece) :: more

end Tablewright.Text
