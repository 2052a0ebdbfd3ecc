import Tablewright.Proofs.Xml.Reading

/-! What documents say: their texts and values with all references expanded, their elements, and
what is left of them without any text or value.
-/

namespace Tablewright.Xml

/-- The root element of a document, with the references in its texts and values expanded.
-/
def parse? (document : String) : Option Markup :=
  (root? document).map (Markup.replace expand)

-----------------------------------------------------------------------------------------
-- Replacing texts and values
-----------------------------------------------------------------------------------------

mutual

/-- Replacing is undone by replacing back.
-/
theorem replace_replace {f g : String → String} (inverse : ∀ text, g (f text) = text)
    : ∀ markup : Markup, (markup.replace f).replace g = markup
  | .text value => by rw [Markup.replace, Markup.replace, inverse]
  | .element name attributes content => by
      have values : replaceValues g (replaceValues f attributes) = attributes := by
        simp [replaceValues, Function.comp_def, inverse]
      rw [Markup.replace, Markup.replace, values, replaceAll_replaceAll inverse]

/-- Replacing is undone by replacing back.
-/
theorem replaceAll_replaceAll {f g : String → String} (inverse : ∀ text, g (f text) = text)
    : ∀ content : List Markup, replaceAll g (replaceAll f content) = content
  | [] => rfl
  | markup :: rest => by
      rw [replaceAll, replaceAll, replace_replace inverse, replaceAll_replaceAll inverse]

end

mutual

/-- What is replaced are the texts and values.
-/
theorem strings_replace (f : String → String)
    : ∀ markup : Markup, (markup.replace f).strings = markup.strings.map f
  | .text value => rfl
  | .element name attributes content => by
      rw [Markup.replace, Markup.strings, Markup.strings, stringsOf_replaceAll, List.map_append,
        List.map_map, replaceValues, List.map_map]
      rfl

/-- What is replaced are the texts and values.
-/
theorem stringsOf_replaceAll (f : String → String)
    : ∀ content : List Markup, stringsOf (replaceAll f content) = (stringsOf content).map f
  | [] => rfl
  | markup :: rest => by
      rw [replaceAll, stringsOf, stringsOf, strings_replace, stringsOf_replaceAll,
        List.map_append]

end

mutual

/-- Replacing keeps the elements and the names of their attributes.
-/
theorem skeleton_replace (f : String → String)
    : ∀ markup : Markup, (markup.replace f).skeleton = markup.skeleton
  | .text value => rfl
  | .element name attributes content => by
      have values : replaceValues (fun _ => "") (replaceValues f attributes)
          = replaceValues (fun _ => "") attributes := by
        simp [replaceValues]
      rw [Markup.replace, Markup.skeleton, Markup.skeleton, values, skeletonOf_replaceAll]

/-- Replacing keeps the elements and the names of their attributes.
-/
theorem skeletonOf_replaceAll (f : String → String)
    : ∀ content : List Markup, skeletonOf (replaceAll f content) = skeletonOf content
  | [] => rfl
  | markup :: rest => by
      rw [replaceAll, skeletonOf, skeletonOf, skeleton_replace, skeletonOf_replaceAll]

end

-----------------------------------------------------------------------------------------
-- Documents of elements
-----------------------------------------------------------------------------------------

/-- A document says what the element says that it was made from.
-/
theorem parse?_document {node : Node} (named : ∀ word ∈ node.words, isName word = true)
    : parse? node.document = some (node.markup 0) := by
  rw [parse?, root?_document named, Option.map_some, replace_replace expand_escape]

/-- The words of elements are those of each.
-/
theorem wordsOf_eq_flatMap (nodes : List Node) : wordsOf nodes = nodes.flatMap Node.words := by
  induction nodes with
  | nil => rfl
  | cons node rest ih => rw [wordsOf, ih, List.flatMap_cons]

-----------------------------------------------------------------------------------------
-- Elements
-----------------------------------------------------------------------------------------

/-- The elements go through what is read one by one.
-/
theorem elementsOf_append (first rest : List Markup)
    : elementsOf (first ++ rest) = elementsOf first ++ elementsOf rest := by
  induction first with
  | nil => rfl
  | cons markup others ih =>
      rw [List.cons_append, elementsOf, ih, elementsOf, List.append_assoc]

mutual

/-- The names of elements are among the words.
-/
theorem mem_words_of_mem_elements {level : Nat} {markup : Markup} {name : String}
    (named : markup.name? = some name)
    : ∀ node : Node, markup ∈ (node.markup level).elements → name ∈ node.words
  | .leaf tag attributes text, member => by
      rw [List.mem_singleton.mp member] at named
      exact Option.some.inj named ▸ List.mem_cons_self
  | .empty tag attributes, member => by
      rw [List.mem_singleton.mp member] at named
      exact Option.some.inj named ▸ List.mem_cons_self
  | .branch tag attributes children, member => by
      rcases List.mem_cons.mp member with rfl | inside
      · exact Option.some.inj named ▸ List.mem_cons_self
      · rw [elementsOf_append] at inside
        rcases List.mem_append.mp inside with child | none
        · exact List.mem_cons_of_mem _
            (List.mem_append_right _ (mem_wordsOf_of_mem_elementsOf named children child))
        · exact absurd none List.not_mem_nil

/-- The names of elements are among the words.
-/
theorem mem_wordsOf_of_mem_elementsOf {level : Nat} {markup : Markup} {name : String}
    (named : markup.name? = some name)
    : ∀ nodes : List Node, markup ∈ elementsOf (markupOf level nodes) → name ∈ wordsOf nodes
  | [], member => absurd member List.not_mem_nil
  | node :: rest, member => by
      change markup ∈ (node.markup level).elements ++ elementsOf (markupOf level rest)
        at member
      rcases List.mem_append.mp member with own | other
      · exact List.mem_append_left _ (mem_words_of_mem_elements named node own)
      · exact List.mem_append_right _ (mem_wordsOf_of_mem_elementsOf named rest other)

end

-----------------------------------------------------------------------------------------
-- Skeletons
-----------------------------------------------------------------------------------------

mutual

/-- The skeleton of an element.
-/
def Node.skeleton : Node → Markup
  | .leaf tag attributes _ => .element tag (replaceValues (fun _ => "") attributes) []
  | .empty tag attributes => .element tag (replaceValues (fun _ => "") attributes) []
  | .branch tag attributes children =>
    .element tag (replaceValues (fun _ => "") attributes) (skeletons children)

/-- The skeletons of elements.
-/
def skeletons : List Node → List Markup
  | [] => []
  | node :: rest => node.skeleton :: skeletons rest

end

/-- The skeletons of elements are those of each.
-/
theorem skeletons_eq_map (nodes : List Node) : skeletons nodes = nodes.map Node.skeleton := by
  induction nodes with
  | nil => rfl
  | cons node rest ih => rw [skeletons, ih, List.map_cons]

/-- The skeleton of what is read is found part by part.
-/
theorem skeletonOf_append (first rest : List Markup)
    : skeletonOf (first ++ rest) = skeletonOf first ++ skeletonOf rest := by
  induction first with
  | nil => rfl
  | cons markup others ih =>
      rw [List.cons_append, skeletonOf, ih, skeletonOf, List.append_assoc]

mutual

/-- What is to be read of an element has its skeleton.
-/
theorem skeleton_markup {level : Nat}
    : ∀ node : Node, (node.markup level).skeleton = [node.skeleton]
  | .leaf tag attributes text => rfl
  | .empty tag attributes => rfl
  | .branch tag attributes children => by
      rw [Node.markup, Markup.skeleton, skeletonOf_append, skeletonOf_markupOf, Node.skeleton]
      simp [skeletonOf, Markup.skeleton]

/-- What is to be read of elements has their skeletons.
-/
theorem skeletonOf_markupOf {level : Nat}
    : ∀ nodes : List Node, skeletonOf (markupOf level nodes) = skeletons nodes
  | [] => rfl
  | node :: rest => by
      rw [markupOf, skeletonOf, skeletonOf, skeleton_markup, skeletonOf_markupOf, skeletons]
      rfl

end

end Tablewright.Xml
