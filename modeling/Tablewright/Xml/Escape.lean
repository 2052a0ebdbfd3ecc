/-! Text as it stands in XML: the five characters with a meaning of their own are written as
references.
-/

namespace Tablewright.Xml

/-- The characters that stand for one character.
-/
def escapeChar : Char → List Char
  | '&' => ['&', 'a', 'm', 'p', ';']
  | '<' => ['&', 'l', 't', ';']
  | '>' => ['&', 'g', 't', ';']
  | '"' => ['&', 'q', 'u', 'o', 't', ';']
  | '\'' => ['&', 'a', 'p', 'o', 's', ';']
  | c => [c]

/-- A text as it stands between tags or in an attribute value.
-/
def escape (text : String) : String :=
  String.ofList (text.toList.flatMap escapeChar)

end Tablewright.Xml
