import Tablewright.Text.Property.WhiteSpace

/-! Blank characters and the removal of blanks around a text.
-/

namespace Tablewright.Text

/-- A character of Unicode white space.
-/
def isBlank (c : Char) : Bool :=
  whiteSpaceRanges.contain c

/-- The text without the blanks at its two ends.
-/
def trim (text : String) : String :=
  String.ofList ((text.toList.dropWhile isBlank).reverse.dropWhile isBlank).reverse

end Tablewright.Text
