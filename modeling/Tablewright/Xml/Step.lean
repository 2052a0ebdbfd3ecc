import Tablewright.Xml.Escape

/-! Writing XML step by step, one line a step, indented by two blanks a level.
-/

namespace Tablewright.Xml

/-- Names and values of attributes, in the order in which they are written.
-/
abbrev Attributes := List (String × String)

/-- The text of attributes inside a tag.
-/
def attributesText (attributes : Attributes) : String :=
  String.join <| attributes.map fun (name, value) =>
    " " ++ name ++ "=\"" ++ escape value ++ "\""

/-- A step of writing. A start tag indents what follows and an end tag takes that back.
-/
inductive Step
  | startTag (tag : String) (attributes : Attributes)
  | endTag (tag : String)
  | element (tag : String) (attributes : Attributes) (text : String)
  | emptyTag (tag : String) (attributes : Attributes)
  | line (text : String)
  | indent
  | dedent

/-- The attribute of an element that stands for the absence of a value.
-/
def absent : Attributes := [("xsi:nil", "true")]

/-- A line at a level of indentation.
-/
def lineAt (level : Nat) (text : String) : String :=
  String.ofList (List.replicate (2 * level) ' ') ++ text ++ "\n"

/-- The lines of steps, begun at a level of indentation.
-/
def lines (level : Nat) : List Step → List String
  | [] => []
  | .startTag tag attributes :: rest =>
    lineAt level ("<" ++ tag ++ attributesText attributes ++ ">") :: lines (level + 1) rest
  | .endTag tag :: rest =>
    lineAt (level - 1) ("</" ++ tag ++ ">") :: lines (level - 1) rest
  | .element tag attributes text :: rest =>
    lineAt level
        ("<" ++ tag ++ attributesText attributes ++ ">" ++ escape text ++ "</" ++ tag ++ ">")
      :: lines level rest
  | .emptyTag tag attributes :: rest =>
    lineAt level ("<" ++ tag ++ attributesText attributes ++ " />") :: lines level rest
  | .line text :: rest => lineAt level text :: lines level rest
  | .indent :: rest => lines (level + 1) rest
  | .dedent :: rest => lines (level - 1) rest

/-- The text of steps.
-/
def write (steps : List Step) : String :=
  String.join (lines 0 steps)

/-- The line that every document starts with.
-/
def declaration : String := "<?xml version=\"1.0\" encoding=\"utf-8\"?>"

end Tablewright.Xml
