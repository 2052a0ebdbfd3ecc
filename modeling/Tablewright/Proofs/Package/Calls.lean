import Tablewright.Package.Basic

/-! The documents of a package call by call. A call opens an element, closes one, or writes one that
has no elements inside; the calls of a document are the steps of its tree.
-/

namespace Tablewright

open Xml

-----------------------------------------------------------------------------------------
-- Calls of elements
-----------------------------------------------------------------------------------------

namespace Xml

namespace Step

/-- The call that opens an element without attributes.
-/
def opens (tag : String) : Step :=
  .startTag tag []

/-- The call that writes a text.
-/
def text (tag value : String) : Step :=
  .element tag [] value

/-- The call that writes one or zero.
-/
def flag (tag : String) (value : Bool) : Step :=
  text tag (if value then "1" else "0")

/-- The call that writes the absence of a value.
-/
def nil (tag : String) : Step :=
  .element tag absent ""

/-- The call that says a text in a language.
-/
def described (language tag text : String) : Step :=
  .emptyTag tag [("description", text), ("languagecode", language)]

end Step

/-- Elements are written one after the other.
-/
theorem stepsOf_eq_flatMap (nodes : List Node) : stepsOf nodes = nodes.flatMap Node.steps := by
  induction nodes with
  | nil => rfl
  | cons node rest ih => rw [stepsOf, ih, List.flatMap_cons]

/-- Elements that are made one by one are written one by one.
-/
theorem stepsOf_map {α : Type} {make : α → Node} {calls : α → List Step}
    (same : ∀ a, (make a).steps = calls a) (list : List α)
    : stepsOf (list.map make) = list.flatMap calls := by
  simp only [stepsOf_eq_flatMap, List.flatMap_map, same]

/-- Elements that are made one by one and take one call each are written call by call.
-/
theorem stepsOf_map_call {α : Type} {make : α → Node} {call : α → Step}
    (same : ∀ a, (make a).steps = [call a]) (list : List α)
    : stepsOf (list.map make) = list.map call := by
  rw [stepsOf_map same, List.map_eq_flatMap]

/-- Elements are written part by part.
-/
theorem stepsOf_append (first rest : List Node)
    : stepsOf (first ++ rest) = stepsOf first ++ stepsOf rest := by
  simp only [stepsOf_eq_flatMap, List.flatMap_append]

/-- An element with others inside is opened, filled and closed.
-/
theorem Node.steps_branch {tag : String} {attributes : Attributes} {children : List Node}
    {calls : List Step} (inside : stepsOf children = calls)
    : (Node.branch tag attributes children).steps
      = .startTag tag attributes :: (calls ++ [.endTag tag]) := by
  rw [steps, inside]

end Xml

-----------------------------------------------------------------------------------------
-- Option sets and records
-----------------------------------------------------------------------------------------

/-- The calls for the label of an option.
-/
def labelCalls (language label : String) : List Xml.Step :=
  [.opens "labels", .described language "label" label, .endTag "labels"]

namespace OptionSet

/-- The calls for the options of a set, of which states and statuses are linked.
-/
def optionCalls (language : String) (set : OptionSet) : List Xml.Step :=
  match set.kind with
  | .bit | .picklist =>
    [.opens "options"]
      ++ set.options.flatMap (fun option =>
        [.startTag "option"
            [("value", valueText (option.value .package)), ("ExternalValue", ""),
              ("IsHidden", "0")]]
          ++ labelCalls language option.label
          ++ [.endTag "option"])
      ++ [.endTag "options"]
  | .state =>
    [.opens "states"]
      ++ set.options.flatMap (fun option =>
        [.startTag "state"
            [("value", valueText option.packageValue),
              ("defaultstatus", valueText (option.linked.getD 0)),
              ("invariantname", option.label)]]
          ++ labelCalls language option.label
          ++ [.endTag "state"])
      ++ [.endTag "states"]
  | .status =>
    [.opens "statuses"]
      ++ set.options.flatMap (fun option =>
        [.startTag "status"
            [("value", valueText option.packageValue),
              ("state", valueText (option.linked.getD 0))]]
          ++ labelCalls language option.label
          ++ [.endTag "status"])
      ++ [.endTag "statuses"]

/-- The calls for an option set.
-/
def calls (language : String) (set : OptionSet) : List Xml.Step :=
  [
    .startTag "optionset" [("Name", set.name)],
    .text "OptionSetType" set.kind.name,
    .text "IntroducedVersion" "1.0.0.0",
    .text "IsCustomizable" "1",
    .opens "displaynames",
    .described language "displayname" set.displayName,
    .endTag "displaynames"
  ]
    ++ set.optionCalls language
    ++ [.endTag "optionset"]

/-- The element of an option set is written by its calls.
-/
theorem steps_node (language : String) (set : OptionSet)
    : (set.node language).steps = set.calls language := by
  have options
      : (Node.branch set.kind.listTag []
          (set.options.map (OptionEntry.node set.kind language))).steps
        = set.optionCalls language := by
    obtain ⟨name, kind, displayName, options⟩ := set
    cases kind with
    | _ => exact Node.steps_branch (stepsOf_map (fun entry => rfl) options)
  rw [node, calls, ← options]
  simp [Node.steps, stepsOf, Node.text, Node.described, Xml.Step.opens, Xml.Step.text, Xml.Step.described]

end OptionSet

/-- The calls for what a record says of its kind.
-/
def RecordDetail.calls (language : String) : RecordDetail → List Xml.Step
  | none => []
  | text format maxLength storedLength =>
    [.text "Format" format, .text "MaxLength" (toString maxLength.toNat)]
      ++ (storedLength.map fun length => Xml.Step.text "Length" (toString length)).toList
  | integer minimum maximum =>
    [.text "Format" "", .text "MinValue" (toString minimum), .text "MaxValue" (toString maximum)]
  | dateTime format canChangeBehavior behavior =>
    [
      .text "Format" format,
      .flag "CanChangeDateTimeBehavior" canChangeBehavior,
      .text "Behavior" (toString behavior)
    ]
  | lookup => [.text "LookupStyle" "single", .emptyTag "LookupTypes" []]
  | optionSet set => set.calls language

/-- What a record says of its kind is written by its calls.
-/
theorem RecordDetail.stepsOf_nodes (language : String) (detail : RecordDetail)
    : stepsOf (detail.nodes language) = detail.calls language := by
  cases detail with
  | text format maxLength storedLength =>
      cases storedLength with
      | _ => rfl
  | optionSet set => rw [nodes, stepsOf, stepsOf, List.append_nil, set.steps_node, calls]
  | _ => rfl

namespace AttributeRecord

/-- The calls for a record.
-/
def calls (language : String) (record : AttributeRecord) : List Xml.Step :=
  [
    .startTag "attribute" [("PhysicalName", record.physicalName)],
    .text "Type" record.typeTag,
    .text "Name" record.logicalName,
    .text "LogicalName" record.logicalName,
    .text "RequiredLevel" record.requiredLevel.packageName
  ]
    ++ (record.displayMask.map (Xml.Step.text "DisplayMask")).toList
    ++ [
      .text "ImeMode" record.inputMode.name,
      .flag "ValidForUpdateApi" record.validity.update,
      .flag "ValidForReadApi" record.validity.read,
      .flag "ValidForCreateApi" record.validity.create,
      .flag "IsCustomField" record.isCustom,
      .flag "IsAuditEnabled" record.isAudited,
      .text "IsSecured" "0",
      .text "IntroducedVersion" "1.0.0.0",
      .text "IsCustomizable" "1",
      .text "IsRenameable" "1",
      .text "CanModifySearchSettings" "1",
      .flag "CanModifyRequirementLevelSettings" record.canModifyRequirement,
      .text "CanModifyAdditionalSettings" "1",
      .text "SourceType" "0",
      .text "IsGlobalFilterEnabled" "0",
      .text "IsSortableEnabled" "0",
      .text "CanModifyGlobalFilterSettings" "1",
      .text "CanModifyIsSortableSettings" "1",
      .text "IsDataSourceSecret" "0",
      .text "AutoNumberFormat" "",
      .flag "IsSearchable" record.flags.searchable,
      .flag "IsFilterable" record.flags.filterable,
      .flag "IsRetrievable" record.flags.retrievable,
      .text "IsLocalizable" "0"
    ]
    ++ record.detail.calls language
    ++ [
      .opens "displaynames",
      .described language "displayname" record.displayName,
      .endTag "displaynames"
    ]
    ++ (record.description.map fun text => [
      .opens "Descriptions",
      .described language "Description" text,
      .endTag "Descriptions"
    ]).getD []
    ++ [.endTag "attribute"]

/-- The element of a record is written by its calls.
-/
theorem steps_node (language : String) (record : AttributeRecord)
    : (record.node language).steps = record.calls language := by
  have mask
      : stepsOf (record.displayMask.map (Node.text "DisplayMask")).toList
        = (record.displayMask.map (Xml.Step.text "DisplayMask")).toList := by
    cases record.displayMask with
    | _ => rfl
  have description
      : stepsOf (record.description.map fun text =>
          Node.branch "Descriptions" [] [.described language "Description" text]).toList
        = (record.description.map fun text => [
            Xml.Step.opens "Descriptions",
            .described language "Description" text,
            .endTag "Descriptions"
          ]).getD [] := by
    cases record.description with
    | _ => rfl
  rw [node, Node.steps, calls]
  simp only [stepsOf_append, mask, description, record.detail.stepsOf_nodes]
  simp [stepsOf, Node.steps, Node.text, Node.flag, Node.described, Xml.Step.opens, Xml.Step.text,
    Xml.Step.flag, Xml.Step.described]

end AttributeRecord

-----------------------------------------------------------------------------------------
-- Documents
-----------------------------------------------------------------------------------------

namespace Entity

/-- The calls for the main document of an entity.
-/
def calls (publisherPrefix language : String) (entity : Entity) : List Xml.Step :=
  [
    .startTag "Entity" instanceNames,
    .element "Name"
      [("LocalizedName", entity.displayName), ("OriginalName", entity.displayName)]
      entity.logicalName,
    .opens "EntityInfo",
    .startTag "entity" [("Name", entity.logicalName)],
    .opens "LocalizedNames",
    .described language "LocalizedName" entity.displayName,
    .endTag "LocalizedNames",
    .opens "LocalizedCollectionNames",
    .described language "LocalizedCollectionName" entity.pluralName,
    .endTag "LocalizedCollectionNames",
    .opens "Descriptions",
    .described language "Description" entity.description,
    .endTag "Descriptions",
    .opens "attributes"
  ]
    ++ (entity.records publisherPrefix).flatMap (AttributeRecord.calls language)
    ++ [.endTag "attributes", .text "EntitySetName" entity.setName]
    ++ settings.map (fun entry => Xml.Step.text entry.1 entry.2)
    ++ [
      .endTag "entity",
      .endTag "EntityInfo",
      .emptyTag "FormXml" [],
      .emptyTag "SavedQueries" [],
      .emptyTag "RibbonDiffXml" [],
      .endTag "Entity"
    ]

/-- The tree of an entity's main document is written by its calls.
-/
theorem steps_node (publisherPrefix language : String) (entity : Entity)
    : (entity.node publisherPrefix language).steps = entity.calls publisherPrefix language := by
  have records
      : stepsOf ((entity.records publisherPrefix).map (AttributeRecord.node language))
        = (entity.records publisherPrefix).flatMap (AttributeRecord.calls language) :=
    stepsOf_map (AttributeRecord.steps_node language) _
  have fixed {make : String × String → Node}
      (same : ∀ entry, (make entry).steps = [Xml.Step.text entry.1 entry.2])
      : stepsOf (settings.map make)
        = settings.map fun entry => Xml.Step.text entry.1 entry.2 :=
    stepsOf_map_call same settings
  simp only [node, infoNode, labelNodes, Node.steps, stepsOf, stepsOf_append, records]
  rw [fixed fun _ => rfl]
  simp [calls, Node.text, Node.described, Node.steps, Xml.Step.opens, Xml.Step.text,
    Xml.Step.described]

end Entity

namespace Relationship

/-- The calls for a relationship.
-/
def calls (relationship : Relationship) : List Xml.Step :=
  [
    .startTag "EntityRelationship" [("Name", relationship.name)],
    .text "EntityRelationshipType" "OneToMany",
    .text "IsCustomizable" "1",
    .text "IntroducedVersion" "1.0.0.0",
    .text "IsHierarchical" "0",
    .text "ReferencingEntityName" relationship.referencingTable,
    .text "ReferencedEntityName" relationship.referencedTable,
    .text "CascadeAssign" "NoCascade",
    .text "CascadeDelete" "RemoveLink",
    .text "CascadeArchive" "RemoveLink",
    .text "CascadeReparent" "NoCascade",
    .text "CascadeShare" "NoCascade",
    .text "CascadeUnshare" "NoCascade",
    .text "CascadeRollupView" "NoCascade",
    .text "IsValidForAdvancedFind" "1",
    .text "ReferencingAttributeName" relationship.referencingAttribute,
    .emptyTag "RelationshipDescription" [],
    .opens "EntityRelationshipRoles",
    .opens "EntityRelationshipRole",
    .text "NavPaneDisplayOption" "UseCollectionName",
    .text "NavPaneArea" "Details",
    .text "NavPaneOrder" "10000",
    .text "NavigationPropertyName" relationship.referencingAttribute,
    .text "RelationshipRoleType" "1",
    .endTag "EntityRelationshipRole",
    .opens "EntityRelationshipRole",
    .text "NavigationPropertyName" relationship.name,
    .text "RelationshipRoleType" "0",
    .endTag "EntityRelationshipRole",
    .endTag "EntityRelationshipRoles",
    .endTag "EntityRelationship"
  ]

/-- The calls for relationships that refer to one table.
-/
def groupCalls (relationships : List Relationship) : List Xml.Step :=
  [.startTag "EntityRelationships" instanceNames]
    ++ relationships.flatMap calls
    ++ [.endTag "EntityRelationships"]

/-- The calls for the list of names.
-/
def indexCalls (names : List String) : List Xml.Step :=
  [.startTag "EntityRelationships" instanceNames]
    ++ names.map (fun name => Xml.Step.emptyTag "EntityRelationship" [("Name", name)])
    ++ [.endTag "EntityRelationships"]

/-- The tree of relationships that refer to one table is written by its calls.
-/
theorem steps_groupNode (relationships : List Relationship)
    : (groupNode relationships).steps = groupCalls relationships :=
  Node.steps_branch (stepsOf_map (fun _ => rfl) relationships)

/-- The tree of the list of names is written by its calls.
-/
theorem steps_indexNode (names : List String) : (indexNode names).steps = indexCalls names :=
  Node.steps_branch (stepsOf_map_call (fun _ => rfl) names)

end Relationship

namespace Solution

/-- The calls for the document of customizations.
-/
def customizationsCalls (language : String) : List Xml.Step :=
  [.startTag "ImportExportXml" instanceNames]
    ++ [
      "Entities", "Roles", "Workflows", "FieldSecurityProfiles", "Templates", "EntityMaps",
      "EntityRelationships", "OrganizationSettings", "optionsets", "CustomControls",
      "EntityDataProviders"
    ].map (fun tag => Xml.Step.emptyTag tag [])
    ++ [
      .opens "Languages",
      .text "Language" language,
      .endTag "Languages",
      .endTag "ImportExportXml"
    ]

/-- The calls for an address.
-/
def addressCalls (number : Nat) : List Xml.Step :=
  [
    .opens "Address",
    .text "AddressNumber" (toString number),
    .text "AddressTypeCode" "1"
  ]
    ++ leadingAddressFields.map Xml.Step.nil
    ++ [.text "ShippingMethodCode" "1", .nil "StateOrProvince"]
    ++ ["Telephone1", "Telephone2", "Telephone3"].map Xml.Step.nil
    ++ [
      .text "TimeZoneRuleVersionNumber" "0",
      .nil "UPSZone",
      .nil "UTCOffset",
      .nil "UTCConversionTimeZoneCode",
      .endTag "Address"
    ]

/-- The calls for a manifest.
-/
def manifestCalls (solution : SolutionSettings) (publisher : PublisherSettings)
    (language : String) (tables : List String)
    : List Xml.Step :=
  [
    .startTag "ImportExportXml"
      ([
        ("version", "9.2.26012.156"),
        ("SolutionPackageVersion", "9.2"),
        ("languagecode", language),
        ("generatedBy", "CrmLive")
      ] ++ instanceNames),
    .opens "SolutionManifest",
    .text "UniqueName" solution.uniqueName,
    .opens "LocalizedNames",
    .described language "LocalizedName" solution.displayName,
    .endTag "LocalizedNames",
    .opens "Descriptions",
    .described language "Description" solution.description,
    .endTag "Descriptions",
    .text "Version" solution.version,
    .text "Managed" "0",
    .opens "Publisher",
    .text "UniqueName" publisher.uniqueName,
    .opens "LocalizedNames",
    .described language "LocalizedName" publisher.displayName,
    .endTag "LocalizedNames",
    .emptyTag "Descriptions" [],
    .nil "EMailAddress",
    .nil "SupportingWebsiteUrl",
    .text "CustomizationPrefix" publisher.namePrefix,
    .text "CustomizationOptionValuePrefix" (toString publisher.optionValuePrefix),
    .opens "Addresses"
  ]
    ++ addressCalls 1
    ++ addressCalls 2
    ++ [.endTag "Addresses", .endTag "Publisher", .opens "RootComponents"]
    ++ tables.map (fun table =>
      Xml.Step.emptyTag "RootComponent"
        [("type", "1"), ("schemaName", table), ("behavior", "0")])
    ++ [
      .endTag "RootComponents",
      .emptyTag "MissingDependencies" [],
      .endTag "SolutionManifest",
      .endTag "ImportExportXml"
    ]

/-- The calls for the document of file types.
-/
def contentTypesCalls : List Xml.Step :=
  [
    .startTag "Types"
      [("xmlns", "http://schemas.openxmlformats.org/package/2006/content-types")],
    .emptyTag "Default" [("Extension", "xml"), ("ContentType", "application/octet-stream")],
    .endTag "Types"
  ]

/-- The tree of customizations is written by its calls.
-/
theorem steps_customizationsNode (language : String)
    : (customizationsNode language).steps = customizationsCalls language :=
  rfl

/-- The tree of file types is written by its calls.
-/
theorem steps_contentTypesNode : contentTypesNode.steps = contentTypesCalls :=
  rfl

/-- The element of an address is written by its calls.
-/
theorem steps_addressNode (number : Nat)
    : (addressNode number).steps = addressCalls number :=
  rfl

/-- The tree of a manifest is written by its calls.
-/
theorem steps_manifestNode (solution : SolutionSettings) (publisher : PublisherSettings)
    (language : String) (tables : List String)
    : (manifestNode solution publisher language tables).steps
      = manifestCalls solution publisher language tables := by
  have components
      : stepsOf (tables.map componentNode)
        = tables.map fun table =>
            Xml.Step.emptyTag "RootComponent"
              [("type", "1"), ("schemaName", table), ("behavior", "0")] :=
    stepsOf_map_call (fun _ => rfl) tables
  simp only [manifestNode, publisherNode, Node.steps, stepsOf, components, steps_addressNode]
  simp [manifestCalls, Node.text, Node.nil, Node.described, Node.steps, Xml.Step.opens,
    Xml.Step.text, Xml.Step.nil, Xml.Step.described]

end Solution

-----------------------------------------------------------------------------------------
-- Packages
-----------------------------------------------------------------------------------------

namespace CompiledSchema

/-- The calls for the documents of an entity.
-/
def entityCalls (settings : Settings) (entity : Entity) : List (String × List Xml.Step) :=
  let language := toString settings.package.languageCode
  let directory := "Entities/" ++ entity.logicalName
  [
    (directory ++ "/Entity.xml", entity.calls settings.publisher.namePrefix language),
    (directory ++ "/RibbonDiff.xml", [.emptyTag "RibbonDiffXml" []])
  ]

/-- The calls for the document of the relationships that refer to one table.
-/
def groupCalls (group : String × List Relationship) : String × List Xml.Step :=
  ("Other/Relationships/" ++ group.1 ++ ".xml", Relationship.groupCalls group.2)

/-- The calls for the documents that every package has.
-/
def fixedCalls (compiled : CompiledSchema) (settings : Settings)
    : List (String × List Xml.Step) :=
  let language := toString settings.package.languageCode
  [
    (
      "Other/Relationships.xml",
      Relationship.indexCalls (Relationship.sortedNames compiled.relationships)
    ),
    ("Other/Customizations.xml", Solution.customizationsCalls language),
    (
      "Other/Solution.xml",
      Solution.manifestCalls settings.solution settings.publisher language
        (compiled.entities.map (·.logicalName))
    ),
    ("[Content_Types].xml", Solution.contentTypesCalls)
  ]

/-- The calls for the documents of a package, by their paths.
-/
def calls (compiled : CompiledSchema) (settings : Settings) : List (String × List Xml.Step) :=
  compiled.entities.flatMap (entityCalls settings)
    ++ (Relationship.groups compiled.relationships).map groupCalls
    ++ compiled.fixedCalls settings

variable (compiled : CompiledSchema) (settings : Settings)

/-- The trees of a package's documents are written by the calls for them.
-/
theorem map_steps_documents
    : (compiled.documents settings).map (Prod.map id Node.steps) = compiled.calls settings := by
  have entities (entity : Entity)
      : (entityDocuments settings entity).map (Prod.map id Node.steps)
        = entityCalls settings entity := by
    simp only [entityDocuments, entityCalls, List.map_cons, List.map_nil, Prod.map, id_eq,
      entity.steps_node, Entity.ribbonNode, Node.steps]
  have groups (group : String × List Relationship)
      : Prod.map id Node.steps (groupDocument group) = groupCalls group := by
    unfold groupDocument groupCalls
    rw [Prod.map_apply, Relationship.steps_groupNode, id_eq]
  have fixed
      : (compiled.fixedDocuments settings).map (Prod.map id Node.steps)
        = compiled.fixedCalls settings := by
    simp only [fixedDocuments, fixedCalls, List.map_cons, List.map_nil, Prod.map, id_eq,
      Relationship.steps_indexNode, Solution.steps_manifestNode,
      Solution.steps_customizationsNode, Solution.steps_contentTypesNode]
  rw [documents, calls, List.map_append, List.map_append, fixed, List.map_flatMap, List.map_map]
  simp only [entities, Function.comp_def, groups]

/-- The documents of a package are the texts that the calls for them write, each behind the
declaration.
-/
theorem package_eq_ofList_calls
    : compiled.package settings
      = ⟨Index.ofList <| (compiled.calls settings).map <|
          Prod.map id fun calls => write (.line declaration :: calls)⟩ := by
  rw [package, ← map_steps_documents, List.map_map]
  rfl

end CompiledSchema

end Tablewright
