import Tablewright.Relationship.Basic
import Tablewright.Xml.Node

/-! The documents of relationships in a package: one for each table that is referred to, and a list
of all.
-/

namespace Tablewright.Relationship

/-- The two ends of a relationship: the table that refers and the one that is referred to.
-/
def roleNodes (relationship : Relationship) : List Xml.Node :=
  [
    .branch "EntityRelationshipRole" [] [
      .text "NavPaneDisplayOption" "UseCollectionName",
      .text "NavPaneArea" "Details",
      .text "NavPaneOrder" "10000",
      .text "NavigationPropertyName" relationship.referencingAttribute,
      .text "RelationshipRoleType" "1"
    ],
    .branch "EntityRelationshipRole" [] [
      .text "NavigationPropertyName" relationship.name,
      .text "RelationshipRoleType" "0"
    ]
  ]

/-- The element of a relationship.
-/
def node (relationship : Relationship) : Xml.Node :=
  .branch "EntityRelationship" [("Name", relationship.name)] [
    .text "EntityRelationshipType" "OneToMany",
    .text "IsCustomizable" "1",
    .text "IntroducedVersion" "1.0.0.0",
    .text "IsHierarchical" "0",
    .text "ReferencingEntityName" relationship.referencingTable,
    .text "ReferencedEntityName" relationship.referencedTable,
    .text "CascadeAssign" "NoCascade",
    .text "CascadeDelete" "RemoveLink",
    .text "CascadeArchive" "RemoveLink",
    .text "CascadeReparent" "NoCascade",
    .text "CascadeShare" "NoCascade",
    .text "CascadeUnshare" "NoCascade",
    .text "CascadeRollupView" "NoCascade",
    .text "IsValidForAdvancedFind" "1",
    .text "ReferencingAttributeName" relationship.referencingAttribute,
    .empty "RelationshipDescription" [],
    .branch "EntityRelationshipRoles" [] relationship.roleNodes
  ]

/-- The document of relationships that refer to one table.
-/
def groupNode (relationships : List Relationship) : Xml.Node :=
  .branch "EntityRelationships" Xml.instanceNames (relationships.map node)

/-- The document that lists names of relationships.
-/
def indexNode (names : List String) : Xml.Node :=
  .branch "EntityRelationships" Xml.instanceNames <|
    names.map fun name => .empty "EntityRelationship" [("Name", name)]

end Tablewright.Relationship
