import Tablewright.Proofs.Package.Documents
import Tablewright.Proofs.Text.ByteOrder

/-! What the documents of a package say: each relationship is written once, in the document of the
table it refers to, all of them are listed in order, and so are the tables of the manifest.
-/

namespace Tablewright

open Xml

-----------------------------------------------------------------------------------------
-- Reading documents
-----------------------------------------------------------------------------------------

/-- What the elements of a document say, one after the other.
-/
def Xml.gather {α : Type} (select : Markup → Option α) (document : String) : List α :=
  ((parse? document).map fun root => root.elements.filterMap select).getD []

/-- The text in the first element of a name.
-/
def Xml.textIn? (name : String) : List Markup → Option String
  | [] => none
  | .element other _ [.text value] :: rest =>
    if other = name then some value else textIn? name rest
  | _ :: rest => textIn? name rest

/-- What a document says of a relationship.
-/
structure Link where
  name : String
  referencingTable : String
  referencedTable : String
  referencingAttribute : String
  deriving DecidableEq

/-- What is to be said of a relationship.
-/
def Relationship.link (relationship : Relationship) : Link where
  name := relationship.name
  referencingTable := relationship.referencingTable
  referencedTable := relationship.referencedTable
  referencingAttribute := relationship.referencingAttribute

/-- What an element says of a relationship.
-/
def Xml.Markup.link? : Markup → Option Link
  | .text _ => none
  | .element tag attributes content =>
    if tag = "EntityRelationship" then do
      let name ← attributes.lookup "Name"
      let referencingTable ← textIn? "ReferencingEntityName" content
      let referencedTable ← textIn? "ReferencedEntityName" content
      let referencingAttribute ← textIn? "ReferencingAttributeName" content
      return ⟨name, referencingTable, referencedTable, referencingAttribute⟩
    else
      none

/-- The name of the relationship that an element mentions.
-/
def Xml.Markup.mentioned? : Markup → Option String
  | .text _ => none
  | .element tag attributes _ =>
    if tag = "EntityRelationship" then attributes.lookup "Name" else none

/-- The table that an element makes a component of a solution.
-/
def Xml.Markup.component? : Markup → Option String
  | .text _ => none
  | .element tag attributes _ =>
    if tag = "RootComponent" ∧ attributes.lookup "type" = some "1" then
      attributes.lookup "schemaName"
    else
      none

-----------------------------------------------------------------------------------------
-- Elements of elements
-----------------------------------------------------------------------------------------

section Gather

variable {α : Type} (select : Markup → Option α)

/-- A document says what its elements say.
-/
theorem Xml.gather_document {node : Node} (named : node.Named)
    : gather select node.document = (node.markup 0).elements.filterMap select := by
  rw [gather, parse?_document named]
  rfl

/-- The elements that elements of a list are written as are those of each.
-/
theorem Xml.elementsOf_markupOf (level : Nat) (nodes : List Node)
    : elementsOf (markupOf level nodes)
      = nodes.flatMap fun node => (node.markup level).elements := by
  induction nodes with
  | nil => rfl
  | cons node rest ih =>
      rw [List.flatMap_cons, ← ih]
      rfl

/-- What an element and those inside it say.
-/
theorem Xml.filterMap_elements_branch (level : Nat) (tag : String) (attributes : Attributes)
    (children : List Node)
    : (((Node.branch tag attributes children).markup level).elements).filterMap select
      = (select ((Node.branch tag attributes children).markup level)).toList
        ++ children.flatMap fun child =>
          (child.markup (level + 1)).elements.filterMap select := by
  rw [Node.markup, Markup.elements, elementsOf_append, elementsOf_markupOf, List.filterMap_cons,
    List.filterMap_append, List.filterMap_flatMap]
  cases select (.element tag attributes
    (markupOf (level + 1) children ++ [.text (lineStart level)])) with
  | _ => simp [elementsOf, Markup.elements]

/-- Elements of which none is a relationship say nothing of relationships.
-/
theorem Xml.filterMap_elements_of_ordinary {node : Node} (ordinary : node.Ordinary)
    (others : ∀ markup : Markup, markup.name? ≠ some "EntityRelationship" → select markup = none)
    (level : Nat)
    : (node.markup level).elements.filterMap select = [] :=
  List.filterMap_eq_nil_iff.mpr fun markup member => others markup (ordinary.name?_ne member)

end Gather

/-- Only elements of relationships say something of one.
-/
theorem Xml.Markup.link?_of_name?_ne {markup : Markup}
    (other : markup.name? ≠ some "EntityRelationship")
    : markup.link? = none := by
  cases markup with
  | text value => rfl
  | element tag attributes content =>
      exact if_neg fun same => other (congrArg some same)

-----------------------------------------------------------------------------------------
-- Relationships
-----------------------------------------------------------------------------------------

/-- The elements inside that of a relationship are no relationships.
-/
theorem Relationship.ordinary_children (relationship : Relationship)
    {attributes : Attributes} {children : List Node}
    (split : relationship.node = .branch "EntityRelationship" attributes children)
    : ∀ child ∈ children, child.Ordinary := by
  injection split with _ _ inside
  subst inside
  exact Node.every_of_all_wordsOf
    (by simp [roleNodes, wordsOf, Node.words, Node.text]; decide)

/-- The element of a relationship says what is to be said of it.
-/
theorem Relationship.filterMap_link? (relationship : Relationship) (level : Nat)
    : ((relationship.node.markup level).elements).filterMap Markup.link?
      = [relationship.link] := by
  have inside := relationship.ordinary_children rfl
  rw [node, filterMap_elements_branch]
  rw [List.flatMap_eq_nil_iff.mpr fun child member =>
    filterMap_elements_of_ordinary _ (inside child member)
      (fun markup => Markup.link?_of_name?_ne) (level + 1)]
  rfl

/-- The document of a group says what is to be said of its relationships.
-/
theorem Relationship.gather_link?_groupNode (relationships : List Relationship)
    : gather Markup.link? (groupNode relationships).document = relationships.map link := by
  rw [gather_document _ (named_groupNode relationships), groupNode, filterMap_elements_branch,
    List.flatMap_map]
  simp only [filterMap_link?, ← List.map_eq_flatMap]
  rfl

/-- The list of relationships says nothing of them but their names.
-/
theorem Relationship.gather_link?_indexNode (names : List String)
    : gather Markup.link? (indexNode names).document = [] := by
  rw [gather_document _ (named_indexNode names), indexNode, filterMap_elements_branch,
    List.flatMap_map]
  exact List.flatMap_eq_nil_iff.mpr fun name _ => rfl

/-- The list of relationships mentions the names that it is made with.
-/
theorem Relationship.gather_mentioned?_indexNode (names : List String)
    : gather Markup.mentioned? (indexNode names).document = names := by
  rw [gather_document _ (named_indexNode names), indexNode, filterMap_elements_branch,
    List.flatMap_map]
  have each (name : String)
      : (((Node.empty "EntityRelationship" [("Name", name)]).markup 1).elements).filterMap
          Markup.mentioned?
        = [name] :=
    rfl
  simp only [each, List.flatMap_singleton']
  rfl

/-- Documents without relationships say nothing of any.
-/
theorem gather_link?_of_ordinary {node : Node} (ordinary : node.Ordinary)
    : gather Markup.link? node.document = [] := by
  rw [gather_document _ ordinary.named]
  exact filterMap_elements_of_ordinary _ ordinary (fun markup => Markup.link?_of_name?_ne) 0

-----------------------------------------------------------------------------------------
-- Components
-----------------------------------------------------------------------------------------

/-- The manifest has the tables that it is made with as components.
-/
theorem Solution.gather_component?_manifestNode (solution : SolutionSettings)
    (publisher : PublisherSettings) (language : String) (tables : List String)
    : gather Markup.component? (manifestNode solution publisher language tables).document
      = tables := by
  have each (table : String)
      : (((componentNode table).markup 3).elements).filterMap Markup.component? = [table] :=
    rfl
  rw [gather_document _ (ordinary_manifestNode solution publisher language tables).named,
    manifestNode, filterMap_elements_branch]
  have publisherless
      : ((publisherNode publisher language).markup 2).elements.filterMap Markup.component? = [] :=
    rfl
  simp only [List.flatMap_cons, List.flatMap_nil, filterMap_elements_branch, List.flatMap_map, each,
    publisherless, List.flatMap_singleton']
  simp [Node.markup, Node.text, Node.described, Markup.elements, elementsOf, Markup.component?]

-----------------------------------------------------------------------------------------
-- Packages
-----------------------------------------------------------------------------------------

/-- What the package of some tables and the relationships between them has to be like. There are two
documents for each table, one for each table that is referred to, and four others. Each relationship
is written once, in the document of the table it refers to, and nothing else is written of
relationships. Their names ascend by their bytes there and in the list of all of them. The manifest
has the tables as components, in their order.
-/
structure Package.Arranged (package : Package) (tables : List String)
    (relationships : List Relationship)
    : Prop where
  paths
    : ∀ path,
        (∃ text, package.get? path = some text)
        ↔ (∃ table ∈ tables, path = entityPath table ∨ path = ribbonPath table)
          ∨ (∃ relationship ∈ relationships, path = groupPath relationship.referencedTable)
          ∨ path ∈ fixedPaths
  size
    : package.size
      = 2 * tables.length + (relationships.map (·.referencedTable)).dedup.length + 4
  written
    : ∀ relationship ∈ relationships,
        ∀ path text,
          package.get? path = some text
          → (gather Markup.link? text).count relationship.link
            = if path = groupPath relationship.referencedTable then 1 else 0
  nothingElse
    : ∀ path text,
        package.get? path = some text
        → ∀ link ∈ gather Markup.link? text,
            ∃ relationship ∈ relationships, relationship.link = link
  ascending
    : ∀ path text,
        package.get? path = some text
        → (gather Markup.link? text).Pairwise fun link later =>
            Text.bytes link.name < Text.bytes later.name
  index
    : ∃ text,
        package.get? indexPath = some text
        ∧ (gather Markup.mentioned? text).Perm (relationships.map (·.name))
        ∧ (gather Markup.mentioned? text).Pairwise fun name later =>
            Text.bytes name < Text.bytes later
  manifest
    : ∃ text, package.get? manifestPath = some text ∧ gather Markup.component? text = tables

/-- A document says of relationships what is to be said of those that refer to its table, when it is
kept at the path of one, and nothing otherwise.
-/
theorem CompiledSchema.gather_link?_of_mem_documents {compiled : CompiledSchema}
    {settings : Settings} {path : String} {node : Node}
    (member : (path, node) ∈ compiled.documents settings)
    : (∃ table,
        path = Package.groupPath table
        ∧ gather Markup.link? node.document
          = (Relationship.group compiled.relationships table).map Relationship.link)
      ∨ (∀ table, path ≠ Package.groupPath table) ∧ gather Markup.link? node.document = [] := by
  have tablePath {entity : Entity} {own : String}
      (one : own ∈ [Package.entityPath entity.logicalName, Package.ribbonPath entity.logicalName])
      (table : String)
      : own ≠ Package.groupPath table := by
    rintro rfl
    exact Package.groupPath_notMem_tablePaths [entity.logicalName] table (by simpa using one)
  have fixedPath {own : String} (one : own ∈ Package.fixedPaths) (table : String)
      : own ≠ Package.groupPath table := by
    rintro rfl
    exact Package.groupPath_notMem_fixedPaths table one
  rcases mem_documents_iff.mp member with
    ⟨entity, _, ⟨rfl, rfl⟩ | ⟨rfl, rfl⟩⟩ | ⟨table, _, rfl, rfl⟩ | fixed
  · exact .inr ⟨tablePath (.head _), gather_link?_of_ordinary (entity.ordinary_node _ _)⟩
  · exact .inr ⟨tablePath (.tail _ (.head _)),
      gather_link?_of_ordinary (Node.every_of_all (by decide))⟩
  · exact .inl ⟨table, rfl, Relationship.gather_link?_groupNode _⟩
  · refine .inr ⟨fixedPath ?_, ?_⟩
    · exact List.mem_map_of_mem (f := Prod.fst) fixed
    · simp only [fixedDocuments, List.mem_cons, Prod.mk.injEq, List.not_mem_nil, or_false]
        at fixed
      rcases fixed with ⟨_, rfl⟩ | ⟨_, rfl⟩ | ⟨_, rfl⟩ | ⟨_, rfl⟩
      · exact Relationship.gather_link?_indexNode _
      · exact gather_link?_of_ordinary (Solution.ordinary_customizationsNode _)
      · exact gather_link?_of_ordinary (Solution.ordinary_manifestNode _ _ _ _)
      · exact gather_link?_of_ordinary Solution.ordinary_contentTypesNode

/-- Relationships of distinct names that refer to a table are each written once in its document.
-/
theorem Relationship.count_link_group {relationships : List Relationship}
    (distinct : (relationships.map (·.name)).Nodup) {relationship : Relationship}
    (member : relationship ∈ relationships) (table : String)
    : ((group relationships table).map link).count relationship.link
      = if relationship.referencedTable = table then 1 else 0 := by
  have nodup : ((group relationships table).map link).Nodup := by
    refine List.pairwise_map.mpr ((group_ascending distinct table).imp fun {a b} before same => ?_)
    have named : a.name = b.name := congrArg Link.name same
    exact String.lt_irrefl _ (named ▸ before)
  have listed
      : relationship.link ∈ (group relationships table).map link
        ↔ relationship.referencedTable = table := by
    rw [List.mem_map]
    constructor
    · intro there
      obtain ⟨other, grouped, same⟩ := there
      exact (congrArg Link.referencedTable same).symm.trans (mem_group_iff.mp grouped).2
    · exact fun refers => ⟨relationship, mem_group_iff.mpr ⟨member, refers⟩, rfl⟩
  split
  · next refers => exact List.count_eq_one_of_mem nodup (listed.mpr refers)
  · next other => exact List.count_eq_zero_of_not_mem fun there => other (listed.mp there)

/-- The package of a compiled schema is arranged by its tables and relationships, and none of its
documents takes the place of another.
Witness: a document is read back as the element that it was made from, and paths differ when tables
do.
-/
theorem CompiledSchema.package_arranged {schema : Schema} {publisherPrefix : String}
    {compiled : CompiledSchema} (compiles : schema.compile publisherPrefix = .ok compiled)
    (settings : Settings)
    : schema.tableNames.Nodup
      ∧ ((compiled.documents settings).map (·.1)).Nodup
      ∧ (compiled.package settings).Arranged schema.tableNames compiled.relationships := by
  have coherent := coherent_of_compile compiles
  have tables : schema.tableNames = compiled.entities.map (·.logicalName) :=
    (Schema.entities_map_logicalName (Schema.compile_eq_ok_iff.mp compiles).2.1).symm
  have kept {path text : String}
      : (compiled.package settings).get? path = some text
        ↔ ∃ node, (path, node) ∈ compiled.documents settings ∧ node.document = text :=
    coherent.get?_eq_some_iff settings
  have fixed {path : String} {node : Node}
      (listed : (path, node) ∈ compiled.fixedDocuments settings)
      : (compiled.package settings).get? path = some node.document :=
    kept.mpr ⟨node, mem_documents_iff.mpr (.inr (.inr listed)), rfl⟩
  rw [tables]
  refine ⟨coherent.entities, coherent.documents_nodup settings, ?_⟩
  constructor
  case paths => exact fun path => coherent.exists_get?_iff settings
  case size =>
    rw [coherent.size_eq settings, List.length_map, Relationship.referencedTables_length]
  case written =>
    intro relationship member path text found
    obtain ⟨node, listed, rfl⟩ := kept.mp found
    rcases gather_link?_of_mem_documents listed with ⟨table, rfl, said⟩ | ⟨other, said⟩
    · rw [said, Relationship.count_link_group coherent.relationships member]
      simp only [Package.groupPath_injective.eq_iff, eq_comm]
    · rw [said, if_neg (other _), List.count_nil]
  case nothingElse =>
    intro path text found link gathered
    obtain ⟨node, listed, rfl⟩ := kept.mp found
    rcases gather_link?_of_mem_documents listed with ⟨table, rfl, said⟩ | ⟨_, said⟩
    · rw [said] at gathered
      obtain ⟨relationship, grouped, rfl⟩ := List.mem_map.mp gathered
      exact ⟨relationship, (Relationship.mem_group_iff.mp grouped).1, rfl⟩
    · rw [said] at gathered
      exact absurd gathered List.not_mem_nil
  case ascending =>
    intro path text found
    obtain ⟨node, listed, rfl⟩ := kept.mp found
    rcases gather_link?_of_mem_documents listed with ⟨table, rfl, said⟩ | ⟨_, said⟩
    · rw [said, List.pairwise_map]
      exact (Relationship.group_ascending coherent.relationships table).imp Text.bytes_lt_bytes
    · rw [said]
      exact .nil
  case index =>
    refine ⟨_, fixed (.head _), ?_, ?_⟩
    · rw [Relationship.gather_mentioned?_indexNode]
      exact Relationship.sortedNames_perm compiled.relationships
    · rw [Relationship.gather_mentioned?_indexNode]
      exact (Relationship.sortedNames_ascending coherent.relationships).imp Text.bytes_lt_bytes
  case manifest =>
    exact ⟨_, fixed (.tail _ (.tail _ (.head _))), Solution.gather_component?_manifestNode _ _ _ _⟩

/-- The package of a library is arranged. Persons are referred to by loans and by each other.
-/
theorem package_arranged_library
    : library.compile "x" = .ok libraryCompiled
      ∧ library.tableNames.Nodup
      ∧ ((libraryCompiled.documents {}).map (·.1)).Nodup
      ∧ (libraryCompiled.package {}).Arranged library.tableNames libraryCompiled.relationships :=
  ⟨library_compiles, CompiledSchema.package_arranged library_compiles {}⟩

end Tablewright
