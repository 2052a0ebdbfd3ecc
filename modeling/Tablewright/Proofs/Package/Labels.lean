import Tablewright.Proofs.Package.Documents
import Tablewright.Proofs.Package.Words

/-! Labels in package documents. Whatever names, descriptions and settings say, it stands between
the tags and inside the values of a document, whose elements and names of attributes it cannot
change.
-/

namespace Tablewright

open Xml

-----------------------------------------------------------------------------------------
-- Compiled schemas without labels
-----------------------------------------------------------------------------------------

/-- An option without its label.
-/
def OptionEntry.unlabelled (entry : OptionEntry) : OptionEntry :=
  { entry with label := "" }

/-- An option set without labels.
-/
def OptionSet.unlabelled (set : OptionSet) : OptionSet :=
  { set with displayName := "", options := set.options.map OptionEntry.unlabelled }

/-- An attribute without labels.
-/
def Attribute.unlabelled (attr : Attribute) : Attribute :=
  { attr with displayName := "", optionSet? := attr.optionSet?.map OptionSet.unlabelled }

/-- An entity without labels and descriptions.
-/
def Entity.unlabelled (entity : Entity) : Entity :=
  { entity with
    displayName := ""
    pluralName := ""
    description := ""
    attributes := entity.attributes.map Attribute.unlabelled }

/-- A relationship without its label.
-/
def Relationship.unlabelled (relationship : Relationship) : Relationship :=
  { relationship with displayName := "" }

/-- A compiled schema without labels and descriptions.
-/
def CompiledSchema.unlabelled (compiled : CompiledSchema) : CompiledSchema where
  entities := compiled.entities.map Entity.unlabelled
  relationships := compiled.relationships.map Relationship.unlabelled
  plan := compiled.plan

-----------------------------------------------------------------------------------------
-- Skeletons without labels
-----------------------------------------------------------------------------------------

/-- The skeletons of elements that are made one by one do not change when those of each do not.
-/
theorem Xml.skeletons_map_congr {α : Type} {first second : α → Node} {list : List α}
    (same : ∀ element ∈ list, (first element).skeleton = (second element).skeleton)
    : skeletons (list.map first) = skeletons (list.map second) := by
  rw [skeletons_eq_map, skeletons_eq_map, List.map_map, List.map_map]
  exact List.map_congr_left same

/-- The skeletons of elements are found part by part.
-/
theorem Xml.skeletons_append (first rest : List Node)
    : skeletons (first ++ rest) = skeletons first ++ skeletons rest := by
  rw [skeletons_eq_map, skeletons_eq_map, skeletons_eq_map, List.map_append]

/-- The skeleton of an element that may be there or not.
-/
theorem Xml.skeletons_toList_congr {option other : Option String} (first second : String → Node)
    (same : ∀ text value, (first text).skeleton = (second value).skeleton)
    (present : option.isSome = other.isSome)
    : skeletons (option.map first).toList = skeletons (other.map second).toList := by
  cases option with
  | none =>
      cases other with
      | none => rfl
      | some value => cases present
  | some text =>
      cases other with
      | none => cases present
      | some value => exact congrArg (fun skeleton => [skeleton]) (same text value)

/-- The element of an option has one skeleton whatever its label.
-/
theorem OptionEntry.skeleton_node (kind : OptionSetKind) (language other : String)
    (entry : OptionEntry)
    : (entry.unlabelled.node kind other).skeleton = (entry.node kind language).skeleton := by
  cases kind with
  | _ => rfl

/-- The element of an option set has one skeleton whatever its labels.
-/
theorem OptionSet.skeleton_node (language other : String) (set : OptionSet)
    : (set.unlabelled.node other).skeleton = (set.node language).skeleton := by
  have options
      : skeletons (set.unlabelled.options.map (OptionEntry.node set.kind other))
        = skeletons (set.options.map (OptionEntry.node set.kind language)) := by
    rw [unlabelled, List.map_map]
    exact skeletons_map_congr fun entry _ => entry.skeleton_node set.kind language other
  simp only [node, Node.skeleton, skeletons, Node.text, Node.described, replaceValues,
    List.map_cons, List.map_nil]
  rw [← options]
  rfl

/-- What a record says of its kind has one skeleton whatever the labels.
-/
theorem AttributeRecord.skeletons_detailOf (language other : String) (attr : Attribute)
    : skeletons ((detailOf attr.unlabelled).nodes other)
      = skeletons ((detailOf attr).nodes language) := by
  obtain ⟨_, _, kind, _, _, _, _, set?⟩ := attr
  cases kind with
  | boolean | choice =>
      cases set? with
      | none => rfl
      | some set => exact congrArg (fun skeleton => [skeleton]) (set.skeleton_node _ _)
  | _ => rfl

/-- What a record says of its kind has one skeleton whatever the language.
-/
theorem RecordDetail.skeletons_nodes (language other : String) (detail : RecordDetail)
    : skeletons (detail.nodes other) = skeletons (detail.nodes language) := by
  cases detail with
  | optionSet set =>
      have same : (set.node other).skeleton = (set.node language).skeleton := by
        rw [← set.skeleton_node other "", ← set.skeleton_node language ""]
      exact congrArg (fun skeleton => [skeleton]) same
  | text format maxLength storedLength =>
      cases storedLength with
      | _ => rfl
  | _ => rfl

/-- The element of a record has the skeleton that its kind, its display mask and its description
give it.
-/
theorem AttributeRecord.skeleton_node_congr {record other : AttributeRecord}
    {language dialect : String}
    (mask : other.displayMask.isSome = record.displayMask.isSome)
    (description : other.description.isSome = record.description.isSome)
    (detail
      : skeletons (other.detail.nodes dialect) = skeletons (record.detail.nodes language))
    : (other.node dialect).skeleton = (record.node language).skeleton := by
  have masks := skeletons_toList_congr (Node.text "DisplayMask") (Node.text "DisplayMask")
    (fun _ _ => rfl) mask
  have descriptions := skeletons_toList_congr
    (fun text => .branch "Descriptions" [] [.described dialect "Description" text])
    (fun text => .branch "Descriptions" [] [.described language "Description" text])
    (fun _ _ => rfl) description
  simp only [node, Node.skeleton, skeletons_append, masks, descriptions, detail]
  rfl

/-- The records of an entity have one skeleton each, whatever its labels, the language and the
publisher.
-/
theorem Entity.skeletons_records (publisherPrefix otherPrefix language other : String)
    (entity : Entity)
    : skeletons ((entity.unlabelled.records otherPrefix).map (AttributeRecord.node other))
      = skeletons ((entity.records publisherPrefix).map (AttributeRecord.node language)) := by
  have own
      : skeletons (entity.attributes.map fun attr =>
          (AttributeRecord.ofAttribute attr.unlabelled).node other)
        = skeletons (entity.attributes.map fun attr =>
          (AttributeRecord.ofAttribute attr).node language) :=
    skeletons_map_congr fun attr _ => AttributeRecord.skeleton_node_congr rfl rfl
      (AttributeRecord.skeletons_detailOf language other attr)
  have key
      : ((AttributeRecord.systemKey entity.logicalName otherPrefix).node other).skeleton
        = ((AttributeRecord.systemKey entity.logicalName publisherPrefix).node
            language).skeleton :=
    AttributeRecord.skeleton_node_congr rfl rfl rfl
  have system
      : skeletons ((AttributeRecord.systemRecords entity.logicalName otherPrefix).map
          (AttributeRecord.node other))
        = skeletons ((AttributeRecord.systemRecords entity.logicalName publisherPrefix).map
          (AttributeRecord.node language)) := by
    have each (records : List AttributeRecord)
        : skeletons (records.map (AttributeRecord.node other))
          = skeletons (records.map (AttributeRecord.node language)) :=
      skeletons_map_congr fun record _ => AttributeRecord.skeleton_node_congr rfl rfl
        (record.detail.skeletons_nodes language other)
    exact congrArg₂ List.cons key (each _)
  rw [records, records, List.map_append, List.map_append, skeletons_append, skeletons_append,
    List.map_map, List.map_map]
  refine congrArg₂ _ (Eq.trans ?_ own) system
  rw [unlabelled, List.map_map]
  rfl

/-- The document of an entity has one skeleton whatever its labels, the language and the publisher.
-/
theorem Entity.skeleton_node (publisherPrefix otherPrefix language other : String)
    (entity : Entity)
    : (entity.unlabelled.node otherPrefix other).skeleton
      = (entity.node publisherPrefix language).skeleton := by
  have records := entity.skeletons_records publisherPrefix otherPrefix language other
  have labels
      : skeletons (entity.unlabelled.labelNodes other) = skeletons (entity.labelNodes language) :=
    rfl
  simp only [node, infoNode, Node.skeleton, skeletons, skeletons_append, records, labels]
  rfl

/-- The document of customizations has one skeleton whatever the language.
-/
theorem Solution.skeleton_customizationsNode (language other : String)
    : (customizationsNode other).skeleton = (customizationsNode language).skeleton :=
  rfl

/-- The manifest has one skeleton whatever the solution, the publisher and the language.
-/
theorem Solution.skeleton_manifestNode (solution otherSolution : SolutionSettings)
    (publisher otherPublisher : PublisherSettings) (language other : String)
    (tables : List String)
    : (manifestNode otherSolution otherPublisher other tables).skeleton
      = (manifestNode solution publisher language tables).skeleton := by
  have optionValuePrefix (first second : String)
      : (Node.text "CustomizationOptionValuePrefix" first).skeleton
        = (Node.text "CustomizationOptionValuePrefix" second).skeleton :=
    rfl
  simp only [manifestNode, publisherNode, Node.skeleton, skeletons]
  rw [optionValuePrefix _ (toString publisher.optionValuePrefix)]
  rfl

/-- Relationships are grouped and sorted without regard to their labels.
-/
theorem Relationship.groups_map_unlabelled (relationships : List Relationship)
    : groups (relationships.map unlabelled)
      = (groups relationships).map fun (table, group) => (table, group.map unlabelled) := by
  have tables
      : referencedTables (relationships.map unlabelled) = referencedTables relationships := by
    rw [referencedTables_eq_names, referencedTables_eq_names, List.map_map]
    rfl
  have each (table : String)
      : group (relationships.map unlabelled) table
        = (group relationships table).map unlabelled := by
    rw [group, group, List.filter_map]
    exact (List.map_mergeSort (f := unlabelled) fun _ _ _ _ => rfl).symm
  rw [groups_eq_map, groups_eq_map, tables, List.map_map]
  exact List.map_congr_left fun table _ => congrArg _ (each table)

/-- The document of a group says nothing of the labels of its relationships.
-/
theorem Relationship.groupNode_map_unlabelled (relationships : List Relationship)
    : groupNode (relationships.map unlabelled) = groupNode relationships := by
  rw [groupNode, List.map_map]
  rfl

/-- The documents of a package have one skeleton each, whatever the labels and the settings.
-/
theorem CompiledSchema.skeletons_documents (compiled : CompiledSchema)
    (settings other : Settings)
    : (compiled.unlabelled.documents other).map (Prod.map id Node.skeleton)
      = (compiled.documents settings).map (Prod.map id Node.skeleton) := by
  have names
      : compiled.unlabelled.entities.map (·.logicalName)
        = compiled.entities.map (·.logicalName) := by
    rw [unlabelled, List.map_map]
    rfl
  have index
      : Relationship.sortedNames compiled.unlabelled.relationships
        = Relationship.sortedNames compiled.relationships := by
    rw [unlabelled, Relationship.sortedNames, Relationship.sortedNames, List.map_map]
    rfl
  have entities
      : (compiled.unlabelled.entities.flatMap (entityDocuments other)).map
          (Prod.map id Node.skeleton)
        = (compiled.entities.flatMap (entityDocuments settings)).map
          (Prod.map id Node.skeleton) := by
    rw [unlabelled, List.flatMap_map, List.map_flatMap, List.map_flatMap]
    congr 1
    funext entity
    simp only [entityDocuments, List.map_cons, List.map_nil, Prod.map_apply]
    rw [entity.skeleton_node settings.publisher.namePrefix other.publisher.namePrefix
      (toString settings.package.languageCode) (toString other.package.languageCode)]
    rfl
  have groups
      : ((Relationship.groups compiled.unlabelled.relationships).map groupDocument)
        = (Relationship.groups compiled.relationships).map groupDocument := by
    rw [unlabelled, Relationship.groups_map_unlabelled, List.map_map]
    refine List.map_congr_left fun group _ => ?_
    exact congrArg (Prod.mk _) (Relationship.groupNode_map_unlabelled group.2)
  have fixed
      : (compiled.unlabelled.fixedDocuments other).map (Prod.map id Node.skeleton)
        = (compiled.fixedDocuments settings).map (Prod.map id Node.skeleton) := by
    have manifest := Solution.skeleton_manifestNode settings.solution other.solution
      settings.publisher other.publisher (toString settings.package.languageCode)
      (toString other.package.languageCode) (compiled.entities.map (·.logicalName))
    have customizations := Solution.skeleton_customizationsNode
      (toString settings.package.languageCode) (toString other.package.languageCode)
    simp only [fixedDocuments, names, index, List.map_cons, List.map_nil, Prod.map_apply, manifest,
      customizations]
  rw [documents, documents, List.map_append, List.map_append, List.map_append, List.map_append,
    entities, groups, fixed]

-----------------------------------------------------------------------------------------
-- Documents whatever the labels
-----------------------------------------------------------------------------------------

/-- How the root element of a document at a path has to read. All its texts and values are escaped,
and with their references expanded they are what was to be written. The document at that path has
the same skeleton for any other labels and settings.
-/
structure CompiledSchema.Confines (compiled : CompiledSchema) (settings : Settings)
    (path : String) (root : Markup)
    : Prop where
  escaped : ∀ written ∈ root.strings, Escaped written
  expanded
    : ∃ node,
        (path, node) ∈ compiled.documents settings ∧ root.replace expand = node.markup 0
  independent
    : ∀ (other : CompiledSchema) (otherSettings : Settings),
        other.unlabelled = compiled.unlabelled
        → ∃ text otherRoot,
            (other.package otherSettings).get? path = some text
            ∧ root? text = some otherRoot
            ∧ otherRoot.skeleton = root.skeleton

/-- The document of an element reads as it was written.
-/
theorem Xml.Node.escaped_replace_markup (node : Node)
    : ∀ written ∈ ((node.markup 0).replace escape).strings, Escaped written := by
  rw [strings_replace]
  exact List.forall_mem_map.mpr fun text _ => escaped_escape text

/-- Schemas that differ only in their labels have documents of the same skeletons at the same paths.
-/
theorem CompiledSchema.exists_document_of_unlabelled_eq {compiled other : CompiledSchema}
    (same : other.unlabelled = compiled.unlabelled) (settings otherSettings : Settings)
    {path : String} {node : Node} (member : (path, node) ∈ compiled.documents settings)
    : ∃ otherNode,
        (path, otherNode) ∈ other.documents otherSettings
        ∧ otherNode.skeleton = node.skeleton := by
  have skeletons := compiled.skeletons_documents settings {}
  rw [← same, other.skeletons_documents otherSettings {}] at skeletons
  have listed := List.mem_map_of_mem (f := Prod.map id Node.skeleton) member
  rw [← skeletons] at listed
  obtain ⟨⟨_, otherNode⟩, there, equal⟩ := List.mem_map.mp listed
  obtain ⟨rfl, shape⟩ := Prod.mk.inj equal
  exact ⟨otherNode, there, shape⟩

/-- Schemas that differ only in their labels have distinct paths together.
-/
theorem CompiledSchema.documents_nodup_of_unlabelled_eq {compiled other : CompiledSchema}
    (same : other.unlabelled = compiled.unlabelled) (settings otherSettings : Settings)
    (distinct : ((compiled.documents settings).map (·.1)).Nodup)
    : ((other.documents otherSettings).map (·.1)).Nodup := by
  have skeletons := compiled.skeletons_documents settings {}
  rw [← same, other.skeletons_documents otherSettings {}] at skeletons
  have paths := congrArg (List.map Prod.fst) skeletons
  rw [List.map_map, List.map_map] at paths
  exact paths ▸ distinct

/-- Every document of a package has one root element, and whatever labels and settings say is
confined to its texts and values.
Witness: the document is read back as the element that it was made from, and the skeletons of
elements depend on no label.
-/
theorem CompiledSchema.labels_confined {schema : Schema} {publisherPrefix : String}
    {compiled : CompiledSchema} (compiles : schema.compile publisherPrefix = .ok compiled)
    (settings : Settings) {path text : String}
    (kept : (compiled.package settings).get? path = some text)
    : ∃ root, root? text = some root ∧ compiled.Confines settings path root := by
  have coherent := coherent_of_compile compiles
  obtain ⟨node, member, rfl⟩ := (coherent.get?_eq_some_iff settings).mp kept
  refine ⟨_, root?_document (named_of_mem_documents member), node.escaped_replace_markup,
    ⟨node, member, replace_replace expand_escape _⟩, ?_⟩
  intro other otherSettings same
  obtain ⟨otherNode, there, shape⟩ :=
    exists_document_of_unlabelled_eq same settings otherSettings member
  have distinct := documents_nodup_of_unlabelled_eq same settings otherSettings
    (coherent.documents_nodup settings)
  refine ⟨otherNode.document, _, ?_, root?_document (named_of_mem_documents there), ?_⟩
  · exact (package_get?_eq_some_iff distinct).mpr ⟨otherNode, there, rfl⟩
  · rw [skeleton_replace, skeleton_replace, skeleton_markup, skeleton_markup, shape]

/-- The labels of the books of a library are confined, although they have the signs of markup.
-/
theorem labels_confined_library
    : library.compile "x" = .ok libraryCompiled
      ∧ ∃ text,
          (libraryCompiled.package {}).get? "Entities/book/Entity.xml" = some text
          ∧ ∃ root,
              root? text = some root
              ∧ libraryCompiled.Confines {} "Entities/book/Entity.xml" root := by
  have coherent := CompiledSchema.coherent_of_compile library_compiles
  have kept := (coherent.get?_eq_some_iff {}).mpr
    ⟨_, CompiledSchema.mem_documents_iff.mpr
      (.inl ⟨_, .tail _ (.head _), .inl ⟨rfl, rfl⟩⟩), rfl⟩
  exact ⟨library_compiles, _, kept, CompiledSchema.labels_confined library_compiles {} kept⟩

end Tablewright
