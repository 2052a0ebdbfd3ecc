import Tablewright.Proofs.Xml.Interpretation

/-! Elements by the tags that lead to them, and the values that are found there. A reader finds what
was written there, flattened.
-/

namespace Tablewright.Xml

-----------------------------------------------------------------------------------------
-- Selecting what is read
-----------------------------------------------------------------------------------------

/-- The elements with a tag, one level further in.
-/
def Markup.inside (tag : String) : Markup → List Markup
  | .text _ => []
  | .element _ _ content => content.filter fun markup => markup.name? == some tag

/-- The elements that tags lead to, one for each level.
-/
def Markup.reach : List String → Markup → List Markup
  | [], markup => [markup]
  | tag :: rest, markup => (markup.inside tag).flatMap (reach rest)

/-- The value of an attribute.
-/
def Markup.value? (key : String) : Markup → Option String
  | .text _ => none
  | .element _ attributes _ => attributes.lookup key

/-- The values of an attribute in the elements that tags lead to.
-/
def Markup.valuesAt (path : List String) (key : String) (markup : Markup) : List String :=
  (markup.reach path).filterMap (Markup.value? key)

/-- Texts, the tags that lead to where they are written, and the attribute that they are written to.
-/
structure Inscription where
  path : List String
  key : String
  texts : List String

namespace Inscription

/-- The texts are found where they were written, each as it is read.
-/
def Shows (inscription : Inscription) (read : String → String) (markup : Markup) : Prop :=
  markup.valuesAt inscription.path inscription.key = inscription.texts.map read

variable {inscription : Inscription} {read other : String → String} {markup : Markup}

/-- Texts that are read alike are shown alike.
-/
theorem Shows.congr (shows : inscription.Shows read markup)
    (same : ∀ text ∈ inscription.texts, read text = other text)
    : inscription.Shows other markup :=
  Eq.trans shows (List.map_congr_left same)

/-- Texts are shown in one way.
-/
theorem Shows.unique (shows : inscription.Shows read markup)
    (too : inscription.Shows other markup)
    : ∀ text ∈ inscription.texts, read text = other text :=
  List.map_inj_left.mp (Eq.trans (Eq.symm shows) too)

end Inscription

-----------------------------------------------------------------------------------------
-- Selecting what is written
-----------------------------------------------------------------------------------------

namespace Node

/-- The tag of an element.
-/
def tag : Node → String
  | leaf tag _ _ => tag
  | empty tag _ => tag
  | branch tag _ _ => tag

/-- The attributes of an element.
-/
def attributes : Node → Attributes
  | leaf _ attributes _ => attributes
  | empty _ attributes => attributes
  | branch _ attributes _ => attributes

/-- The elements one level further in.
-/
def children : Node → List Node
  | branch _ _ children => children
  | _ => []

/-- The elements with a tag, one level further in.
-/
def inside (tag : String) (node : Node) : List Node :=
  node.children.filter fun child => child.tag == tag

/-- The elements that tags lead to, one for each level.
-/
def reach : List String → Node → List Node
  | [], node => [node]
  | tag :: rest, node => (node.inside tag).flatMap (reach rest)

/-- The values of an attribute in the elements that tags lead to.
-/
def valuesAt (path : List String) (key : String) (node : Node) : List String :=
  (node.reach path).filterMap fun found => found.attributes.lookup key

/-- All elements one level further in are found when they have the tag.
-/
theorem inside_branch_map {α : Type} {tag : String} {make : α → Node}
    (tagged : ∀ element, (make element).tag = tag) (outer : String) (attributes : Attributes)
    (list : List α)
    : (branch outer attributes (list.map make)).inside tag = list.map make :=
  List.filter_eq_self.mpr (List.forall_mem_map.mpr fun element _ => beq_iff_eq.mpr (tagged element))

/-- Values are found from one level to the next.
-/
theorem valuesAt_cons (tag key : String) (rest : List String) (node : Node)
    : node.valuesAt (tag :: rest) key = (node.inside tag).flatMap (valuesAt rest key) := by
  rw [valuesAt, reach, List.filterMap_flatMap]
  rfl

end Node

-----------------------------------------------------------------------------------------
-- Reading what was written
-----------------------------------------------------------------------------------------

/-- The name that is read of an element is its tag.
-/
theorem name?_settled_markup (level : Nat) (node : Node)
    : (node.markup level).settled.name? = some node.tag := by
  cases node with
  | _ => rfl

/-- Between the characters around them, the elements are read that were written.
-/
theorem filter_settledAll_markupOf (tag behind : String) (level : Nat) (nodes : List Node)
    : (settledAll (markupOf level nodes ++ [.text behind])).filter
          (fun markup => markup.name? == some tag)
      = (nodes.filter fun node => node.tag == tag).map fun node =>
          (node.markup level).settled := by
  induction nodes with
  | nil => rfl
  | cons node rest ih =>
      have before (start : String) : ((Markup.text start).settled.name? == some tag) = false := rfl
      have named : ((node.markup level).settled.name? == some tag) = (node.tag == tag) := by
        rw [name?_settled_markup]
        rfl
      rw [markupOf, List.cons_append, List.cons_append, settledAll, settledAll,
        List.filter_cons_of_neg (by rw [before]; decide), List.filter_cons, List.filter_cons, named,
        ih]
      split
      · rw [List.map_cons]
      · rfl

/-- The elements one level further in are read that were written there.
-/
theorem inside_settled_markup (tag : String) (level : Nat) (node : Node)
    : (node.markup level).settled.inside tag
      = (node.inside tag).map fun child => (child.markup (level + 1)).settled := by
  cases node with
  | branch name attributes children => exact filter_settledAll_markupOf tag _ _ children
  | _ => rfl

/-- The elements that tags lead to are read as they were written.
-/
theorem reach_settled_markup (path : List String) (level : Nat) (node : Node)
    : (node.markup level).settled.reach path
      = (node.reach path).map fun found => (found.markup (level + path.length)).settled := by
  induction path generalizing level node with
  | nil => rfl
  | cons tag rest ih =>
      have deeper : level + 1 + rest.length = level + (tag :: rest).length := by
        rw [List.length_cons]
        omega
      rw [Markup.reach, inside_settled_markup, List.flatMap_map, Node.reach, List.map_flatMap]
      simp only [ih, deeper]

/-- The values of attributes are looked up before or after they are changed.
-/
theorem lookup_replaceValues (f : String → String) (key : String) (attributes : Attributes)
    : (replaceValues f attributes).lookup key = (attributes.lookup key).map f := by
  induction attributes with
  | nil => rfl
  | cons entry rest ih =>
      change ((entry.1, f entry.2) :: replaceValues f rest).lookup key = _
      rw [List.lookup_cons, List.lookup_cons, ih]
      split
      · rfl
      · rfl

/-- A value is read flattened.
-/
theorem value?_settled_markup (key : String) (level : Nat) (node : Node)
    : (node.markup level).settled.value? key = (node.attributes.lookup key).map flattened := by
  cases node with
  | _ => exact lookup_replaceValues flattened key _

/-- The values that tags lead to are read flattened.
-/
theorem valuesAt_settled_markup (path : List String) (key : String) (level : Nat) (node : Node)
    : (node.markup level).settled.valuesAt path key = (node.valuesAt path key).map flattened := by
  rw [Markup.valuesAt, reach_settled_markup, List.filterMap_map, Node.valuesAt, List.map_filterMap]
  exact congrArg (fun value? => (node.reach path).filterMap value?)
    (funext fun found => value?_settled_markup key _ found)

/-- Texts that were written somewhere are shown there flattened.
-/
theorem Inscription.shows_flattened {inscription : Inscription} {node : Node} (level : Nat)
    (written : node.valuesAt inscription.path inscription.key = inscription.texts)
    : inscription.Shows flattened (node.markup level).settled := by
  rw [Shows, valuesAt_settled_markup, written]

end Tablewright.Xml
