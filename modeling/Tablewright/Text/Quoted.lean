import Tablewright.Text.Property.GraphemeExtend
import Tablewright.Text.Property.Unprintable

/-! A text as it is quoted inside a message: between double quotes, with whatever would not show
written as an escape.
-/

namespace Tablewright.Text

/-- Marks that join the character before them and yet show on their own: the halfwidth sound marks.
-/
def standaloneMarkRanges : Ranges :=
  [(0xff9e, 0xff9f)]

/-- Letters that show nothing: the fillers of Hangul.
-/
def fillerRanges : Ranges :=
  [(0x115f, 0x1160), (0x3164, 0x3164), (0xffa0, 0xffa0)]

/-- A character that does not show by itself.
-/
def isHidden (c : Char) : Bool :=
  graphemeExtendRanges.contain c && !standaloneMarkRanges.contain c
    || fillerRanges.contain c || unprintableRanges.contain c

/-- How one character stands inside a quotation.
-/
def quotedChar (c : Char) : List Char :=
  match c with
  | '\x00' => ['\\', '0']
  | '\t' => ['\\', 't']
  | '\n' => ['\\', 'n']
  | '\r' => ['\\', 'r']
  | '\\' => ['\\', '\\']
  | '"' => ['\\', '"']
  | c =>
    if isHidden c then
      ['\\', 'u', '\x7b'] ++ Nat.toDigits 16 c.toNat ++ ['\x7d']
    else
      [c]

/-- The text between double quotes.
-/
def quoted (text : String) : String :=
  String.ofList ('"' :: (text.toList.flatMap quotedChar ++ ['"']))

end Tablewright.Text
