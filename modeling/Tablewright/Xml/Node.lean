import Tablewright.Xml.Step

/-! XML elements as trees.
-/

namespace Tablewright.Xml

/-- An element: with a text, without content, or with elements inside.
-/
inductive Node
  | leaf (tag : String) (attributes : Attributes) (text : String)
  | empty (tag : String) (attributes : Attributes)
  | branch (tag : String) (attributes : Attributes) (children : List Node)
  deriving Inhabited

mutual

/-- The steps that write an element.
-/
def Node.steps : Node → List Step
  | .leaf tag attributes text => [.element tag attributes text]
  | .empty tag attributes => [.emptyTag tag attributes]
  | .branch tag attributes children =>
    .startTag tag attributes :: (stepsOf children ++ [.endTag tag])

/-- The steps that write elements one after the other.
-/
def stepsOf : List Node → List Step
  | [] => []
  | node :: rest => node.steps ++ stepsOf rest

end

namespace Node

/-- An element with a text and without attributes.
-/
def text (tag value : String) : Node :=
  leaf tag [] value

/-- An element that is one or zero.
-/
def flag (tag : String) (value : Bool) : Node :=
  leaf tag [] (if value then "1" else "0")

/-- An element without a value.
-/
def nil (tag : String) : Node :=
  leaf tag absent ""

/-- An element that says a text in a language.
-/
def described (language tag text : String) : Node :=
  empty tag [("description", text), ("languagecode", language)]

/-- The text of an element alone.
-/
def write (node : Node) : String :=
  Xml.write node.steps

/-- The text of a document with an element as its root.
-/
def document (node : Node) : String :=
  Xml.write (.line declaration :: node.steps)

end Node

/-- The attribute by which a root element declares the names of schema instances.
-/
def instanceNames : Attributes :=
  [("xmlns:xsi", "http://www.w3.org/2001/XMLSchema-instance")]

end Tablewright.Xml
