import Tablewright.Xml.Node

/-! A reader of XML, character by character: it tells tags from what stands between them, and
matches the end tags with the start tags. References are left as they stand.
-/

namespace Tablewright.Xml

-----------------------------------------------------------------------------------------
-- What is read
-----------------------------------------------------------------------------------------

/-- What stands in a text: characters between tags, and elements. An element with an empty tag has
no content, and any other one has the characters between each two of its tags, be there none.
-/
inductive Markup
  | text (value : String)
  | element (name : String) (attributes : Attributes) (content : List Markup)
  deriving Inhabited

/-- A tag: it starts an element, stops one, or is an empty element.
-/
inductive Tag
  | start (name : String) (attributes : Attributes)
  | stop (name : String)
  | empty (name : String) (attributes : Attributes)
  deriving DecidableEq

/-- A tag with the characters before it, back to the end of the previous tag.
-/
structure Piece where
  before : String
  tag : Tag
  deriving DecidableEq

/-- A character that a name begins with.
-/
def isNameStart (c : Char) : Bool :=
  c.isAlpha || c == '_' || c == ':'

/-- A character that stands in a name.
-/
def isNameChar (c : Char) : Bool :=
  c.isAlphanum || c == '_' || c == ':' || c == '-' || c == '.'

/-- A name of an element or an attribute.
-/
def isName (name : String) : Bool :=
  match name.toList with
  | [] => false
  | c :: rest => isNameStart c && rest.all isNameChar

-----------------------------------------------------------------------------------------
-- Reading tags
-----------------------------------------------------------------------------------------

/-- The text of characters that were read one by one, the last one first.
-/
def ofRead (read : List Char) : String :=
  String.ofList read.reverse

/-- A place inside a tag, behind its opening bracket.
-/
inductive TagPlace
  | opened
  | name (read : List Char)
  | blank (tag : String) (attributes : Attributes)
  | label (tag : String) (attributes : Attributes) (read : List Char)
  | equals (tag : String) (attributes : Attributes) (key : String)
  | value (tag : String) (attributes : Attributes) (key : String) (read : List Char)
  | quoted (tag : String) (attributes : Attributes)
  | slash (tag : String) (attributes : Attributes)
  | stop (read : List Char)

namespace TagPlace

/-- How a tag goes on behind a name or an attribute.
-/
def proceed (tag : String) (attributes : Attributes) (c : Char) : Option (TagPlace ⊕ Tag) :=
  if c = ' ' then
    some (.inl (.blank tag attributes))
  else if c = '/' then
    some (.inl (.slash tag attributes))
  else if c = '>' then
    some (.inr (.start tag attributes))
  else
    none

/-- The place behind one more character, or the tag that it ends.
-/
def step (c : Char) : TagPlace → Option (TagPlace ⊕ Tag)
  | .opened =>
    if c = '/' then
      some (.inl (.stop []))
    else if isNameStart c then
      some (.inl (.name [c]))
    else
      none
  | .name read =>
    if isNameChar c then some (.inl (.name (c :: read))) else proceed (ofRead read) [] c
  | .blank tag attributes =>
    if isNameStart c then
      some (.inl (.label tag attributes [c]))
    else
      proceed tag attributes c
  | .label tag attributes read =>
    if isNameChar c then
      some (.inl (.label tag attributes (c :: read)))
    else if c = '=' then
      some (.inl (.equals tag attributes (ofRead read)))
    else
      none
  | .equals tag attributes key =>
    if c = '"' then some (.inl (.value tag attributes key [])) else none
  | .value tag attributes key read =>
    if c = '"' then
      some (.inl (.quoted tag (attributes ++ [(key, ofRead read)])))
    else if c = '<' then
      none
    else
      some (.inl (.value tag attributes key (c :: read)))
  | .quoted tag attributes => proceed tag attributes c
  | .slash tag attributes => if c = '>' then some (.inr (.empty tag attributes)) else none
  | .stop read =>
    if c = '>' then
      some (.inr (.stop (ofRead read)))
    else if isNameChar c then
      some (.inl (.stop (c :: read)))
    else
      none

end TagPlace

/-- A place in a text: between tags, or inside one.
-/
inductive Place
  | between (read : List Char)
  | inside (before : String) (place : TagPlace)

/-- The tags of a text from a place on, with the characters before each, and the characters behind
the last one. A text that breaks off inside a tag has none.
-/
def scan : Place → List Char → Option (List Piece × String)
  | .between read, [] => some ([], ofRead read)
  | .inside _ _, [] => none
  | .between read, c :: rest =>
    if c = '<' then
      scan (.inside (ofRead read) .opened) rest
    else
      scan (.between (c :: read)) rest
  | .inside before place, c :: rest =>
    match place.step c with
    | none => none
    | some (.inl next) => scan (.inside before next) rest
    | some (.inr tag) =>
      (scan (.between []) rest).map fun found => (⟨before, tag⟩ :: found.1, found.2)

-----------------------------------------------------------------------------------------
-- Matching tags
-----------------------------------------------------------------------------------------

/-- An element whose end tag is still to come, with what was read before it, the last first.
-/
structure Opened where
  name : String
  attributes : Attributes
  before : List Markup

/-- The content of a text with some tags. Every end tag ends the element that was opened last, and
has its name; in the end no element is open.
-/
def nest (last : String) : List Opened → List Markup → List Piece → Option (List Markup)
  | [], read, [] => some (.text last :: read).reverse
  | _ :: _, _, [] => none
  | opened, read, ⟨before, .empty name attributes⟩ :: rest =>
    nest last opened (.element name attributes [] :: .text before :: read) rest
  | opened, read, ⟨before, .start name attributes⟩ :: rest =>
    nest last (⟨name, attributes, .text before :: read⟩ :: opened) [] rest
  | [], _, ⟨_, .stop _⟩ :: _ => none
  | element :: opened, read, ⟨before, .stop name⟩ :: rest =>
    if element.name = name then
      nest last opened
        (.element name element.attributes (.text before :: read).reverse :: element.before) rest
    else
      none

/-- The content of a text: characters and elements in turn.
-/
def read (text : String) : Option (List Markup) :=
  (scan (.between []) text.toList).bind fun found => nest found.2 [] [] found.1

-----------------------------------------------------------------------------------------
-- Views of what is read
-----------------------------------------------------------------------------------------

/-- Replaces the values of attributes.
-/
def replaceValues (f : String → String) (attributes : Attributes) : Attributes :=
  attributes.map fun (label, value) => (label, f value)

mutual

/-- Replaces texts and the values of attributes.
-/
def Markup.replace (f : String → String) : Markup → Markup
  | .text value => .text (f value)
  | .element name attributes content =>
    .element name (replaceValues f attributes) (replaceAll f content)

/-- Replaces texts and the values of attributes everywhere.
-/
def replaceAll (f : String → String) : List Markup → List Markup
  | [] => []
  | markup :: rest => markup.replace f :: replaceAll f rest

end

mutual

/-- The texts and the values of attributes.
-/
def Markup.strings : Markup → List String
  | .text value => [value]
  | .element _ attributes content => attributes.map (·.2) ++ stringsOf content

/-- All texts and values of attributes.
-/
def stringsOf : List Markup → List String
  | [] => []
  | markup :: rest => markup.strings ++ stringsOf rest

end

mutual

/-- The elements and the names of their attributes, without any text or value.
-/
def Markup.skeleton : Markup → List Markup
  | .text _ => []
  | .element name attributes content =>
    [.element name (replaceValues (fun _ => "") attributes) (skeletonOf content)]

/-- All elements and the names of their attributes, without any text or value.
-/
def skeletonOf : List Markup → List Markup
  | [] => []
  | markup :: rest => markup.skeleton ++ skeletonOf rest

end

mutual

/-- The elements, each before those inside it.
-/
def Markup.elements : Markup → List Markup
  | .text _ => []
  | .element name attributes content => .element name attributes content :: elementsOf content

/-- All elements, each before those inside it.
-/
def elementsOf : List Markup → List Markup
  | [] => []
  | markup :: rest => markup.elements ++ elementsOf rest

end

/-- The name of an element.
-/
def Markup.name? : Markup → Option String
  | .text _ => none
  | .element name _ _ => some name

end Tablewright.Xml
