import Tablewright.Package.Basic
import Tablewright.Proofs.Xml.Contents

/-! The words of package documents: all tags and names of attributes are names, and only the
documents of relationships have elements of relationships.
-/

namespace Tablewright

open Xml

/-- A name of something else than a relationship.
-/
def isOrdinary (word : String) : Bool :=
  isName word && word != "EntityRelationship"

namespace Xml.Node

/-- All words of an element are accepted.
-/
def Every (accepts : String → Bool) (node : Node) : Prop :=
  ∀ word ∈ node.words, accepts word = true

/-- An element whose words are names.
-/
abbrev Named (node : Node) : Prop :=
  node.Every isName

/-- An element in which no element of a relationship stands.
-/
abbrev Ordinary (node : Node) : Prop :=
  node.Every isOrdinary

-----------------------------------------------------------------------------------------
-- Elements part by part
-----------------------------------------------------------------------------------------

variable {accepts : String → Bool}

/-- The words of an element are checked one by one.
-/
theorem every_of_all {node : Node} (checked : node.words.all accepts = true)
    : node.Every accepts :=
  List.all_eq_true.mp checked

/-- The words of elements are checked one by one.
-/
theorem every_of_all_wordsOf {nodes : List Node} (checked : (wordsOf nodes).all accepts = true)
    : ∀ node ∈ nodes, node.Every accepts := by
  intro node listed word member
  refine List.all_eq_true.mp checked word ?_
  rw [wordsOf_eq_flatMap]
  exact List.mem_flatMap.mpr ⟨node, listed, member⟩

/-- An element is accepted when its own words and the elements inside it are.
-/
theorem every_branch {tag : String} {attributes : Attributes} {children : List Node}
    (own : (tag :: attributes.map (·.1)).all accepts = true)
    (inside : ∀ child ∈ children, child.Every accepts)
    : (branch tag attributes children).Every accepts := by
  obtain ⟨outside, labels⟩ := List.forall_mem_cons.mp (List.all_eq_true.mp own)
  rw [Every, words, wordsOf_eq_flatMap]
  refine List.forall_mem_cons.mpr ⟨outside, List.forall_mem_append.mpr ⟨labels, ?_⟩⟩
  intro word member
  obtain ⟨child, listed, there⟩ := List.mem_flatMap.mp member
  exact inside child listed word there

/-- The words of ordinary elements are names.
-/
theorem Ordinary.named {node : Node} (ordinary : node.Ordinary) : node.Named :=
  fun word member => (Bool.and_eq_true_iff.mp (ordinary word member)).1

/-- Nothing in an ordinary element is an element of a relationship.
-/
theorem Ordinary.name?_ne {node : Node} (ordinary : node.Ordinary) {level : Nat}
    {markup : Markup} (member : markup ∈ (node.markup level).elements)
    : markup.name? ≠ some "EntityRelationship" := by
  intro named
  have checked := ordinary _ (mem_words_of_mem_elements named node member)
  exact absurd checked (by decide)

end Xml.Node

-----------------------------------------------------------------------------------------
-- Entities
-----------------------------------------------------------------------------------------

attribute [local simp] Node.words wordsOf Node.text Node.flag Node.nil Node.described

/-- The element of an option is ordinary.
-/
theorem OptionEntry.ordinary_node (kind : OptionSetKind) (language : String)
    (entry : OptionEntry)
    : (entry.node kind language).Ordinary := by
  refine Node.every_of_all ?_
  cases kind with
  | _ =>
      simp [node, OptionSetKind.entryTag, OptionSetKind.entryAttributes]
      decide

/-- The element of an option set is ordinary.
-/
theorem OptionSet.ordinary_node (language : String) (set : OptionSet)
    : (set.node language).Ordinary := by
  refine Node.every_branch (by simp; decide) ?_
  change ∀ child ∈ [_, _, _, _] ++ [_], Node.Every _ child
  refine List.forall_mem_append.mpr ⟨?_, List.forall_mem_singleton.mpr (Node.every_branch ?_ ?_)⟩
  · exact Node.every_of_all_wordsOf (by simp; decide)
  · cases set.kind with
    | _ => decide
  · exact List.forall_mem_map.mpr fun entry _ => entry.ordinary_node set.kind language

/-- What a record says of its kind is ordinary.
-/
theorem RecordDetail.ordinary_nodes (language : String) (detail : RecordDetail)
    : ∀ node ∈ detail.nodes language, node.Ordinary := by
  cases detail with
  | optionSet set => exact List.forall_mem_singleton.mpr (set.ordinary_node language)
  | text format maxLength storedLength =>
      cases storedLength with
      | _ => exact Node.every_of_all_wordsOf (by simp [nodes]; decide)
  | none => exact Node.every_of_all_wordsOf rfl
  | _ => exact Node.every_of_all_wordsOf (by simp [nodes]; decide)

/-- The element of a record is ordinary.
-/
theorem AttributeRecord.ordinary_node (language : String) (record : AttributeRecord)
    : (record.node language).Ordinary := by
  refine Node.every_branch (by simp; decide) ?_
  simp only [List.forall_mem_append]
  refine ⟨⟨⟨⟨⟨?_, ?_⟩, ?_⟩, ?_⟩, ?_⟩, ?_⟩
  · exact Node.every_of_all_wordsOf (by simp; decide)
  · cases record.displayMask with
    | _ => exact Node.every_of_all_wordsOf (by simp <;> decide)
  · exact Node.every_of_all_wordsOf (by simp; decide)
  · exact record.detail.ordinary_nodes language
  · exact Node.every_of_all_wordsOf (by simp; decide)
  · cases record.description with
    | _ => exact Node.every_of_all_wordsOf (by simp <;> decide)

/-- The document of an entity is ordinary.
-/
theorem Entity.ordinary_node (publisherPrefix language : String) (entity : Entity)
    : (entity.node publisherPrefix language).Ordinary := by
  refine Node.every_branch (by simp [instanceNames]; decide) ?_
  refine List.forall_mem_cons.mpr ⟨?_, List.forall_mem_cons.mpr ⟨?_, ?_⟩⟩
  · exact Node.every_of_all (by simp; decide)
  · refine Node.every_branch (by decide) (List.forall_mem_singleton.mpr ?_)
    refine Node.every_branch (by simp; decide) ?_
    simp only [List.forall_mem_append]
    refine ⟨⟨?_, List.forall_mem_cons.mpr ⟨?_, ?_⟩⟩, ?_⟩
    · exact Node.every_of_all_wordsOf (by simp [labelNodes]; decide)
    · refine Node.every_branch (by decide) ?_
      exact List.forall_mem_map.mpr fun record _ => record.ordinary_node language
    · exact Node.every_of_all_wordsOf (by simp; decide)
    · exact Node.every_of_all_wordsOf (by simp [settings]; decide +kernel)
  · exact Node.every_of_all_wordsOf (by simp; decide)

-----------------------------------------------------------------------------------------
-- Other documents
-----------------------------------------------------------------------------------------

/-- The document of customizations is ordinary.
-/
theorem Solution.ordinary_customizationsNode (language : String)
    : (customizationsNode language).Ordinary :=
  Node.every_of_all (by simp [customizationsNode, instanceNames]; decide)

/-- The element of an address is ordinary.
-/
theorem Solution.ordinary_addressNode (number : Nat) : (addressNode number).Ordinary := by
  refine Node.every_branch (by decide) ?_
  simp only [List.forall_mem_append]
  refine ⟨⟨?_, ?_⟩, ?_⟩
  · exact Node.every_of_all_wordsOf (by simp; decide)
  · exact Node.every_of_all_wordsOf (by decide)
  · exact Node.every_of_all_wordsOf (by decide)

/-- The element of a publisher is ordinary.
-/
theorem Solution.ordinary_publisherNode (publisher : PublisherSettings) (language : String)
    : (publisherNode publisher language).Ordinary := by
  refine Node.every_branch (by decide) ?_
  change ∀ child ∈ [_, _, _, _, _, _, _] ++ [_], Node.Every _ child
  refine List.forall_mem_append.mpr
    ⟨?_, List.forall_mem_singleton.mpr (Node.every_branch (by decide) ?_)⟩
  · exact Node.every_of_all_wordsOf (by simp [absent]; decide)
  · exact List.forall_mem_cons.mpr
      ⟨ordinary_addressNode 1, List.forall_mem_singleton.mpr (ordinary_addressNode 2)⟩

/-- The manifest is ordinary.
-/
theorem Solution.ordinary_manifestNode (solution : SolutionSettings)
    (publisher : PublisherSettings) (language : String) (tables : List String)
    : (manifestNode solution publisher language tables).Ordinary := by
  refine Node.every_branch (by simp [instanceNames]; decide)
    (List.forall_mem_singleton.mpr (Node.every_branch (by decide) ?_))
  change ∀ child ∈ [_, _, _, _, _] ++ [_, _, _], Node.Every _ child
  refine List.forall_mem_append.mpr ⟨?_, List.forall_mem_cons.mpr
    ⟨ordinary_publisherNode publisher language, List.forall_mem_cons.mpr
      ⟨Node.every_branch (by decide) ?_, ?_⟩⟩⟩
  · exact Node.every_of_all_wordsOf (by simp; decide)
  · exact List.forall_mem_map.mpr fun table _ =>
      Node.every_of_all (by simp [componentNode]; decide)
  · exact Node.every_of_all_wordsOf (by simp; decide)

/-- The document of file types is ordinary.
-/
theorem Solution.ordinary_contentTypesNode : contentTypesNode.Ordinary :=
  Node.every_of_all (by decide)

/-- The words of a relationship are names.
-/
theorem Relationship.named_node (relationship : Relationship) : relationship.node.Named := by
  refine Node.every_of_all ?_
  simp [node, roleNodes]
  decide

/-- The words of a group of relationships are names.
-/
theorem Relationship.named_groupNode (relationships : List Relationship)
    : (groupNode relationships).Named :=
  Node.every_branch (by decide) <| List.forall_mem_map.mpr fun relationship _ =>
    relationship.named_node

/-- The words of a list of relationships are names.
-/
theorem Relationship.named_indexNode (names : List String) : (indexNode names).Named :=
  Node.every_branch (by decide) <| List.forall_mem_map.mpr fun name _ =>
    Node.every_of_all (by simp; decide)

end Tablewright
