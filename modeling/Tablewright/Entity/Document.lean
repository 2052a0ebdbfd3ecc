import Tablewright.Attribute.System
import Tablewright.Entity.Basic

/-! The documents of an entity in a package.
-/

namespace Tablewright.Entity

/-- The settings that all entities have, in document order.
-/
def settings : List (String × String) :=
  [
    ("IsDuplicateCheckSupported", "0"),
    ("IsBusinessProcessEnabled", "0"),
    ("IsRequiredOffline", "0"),
    ("IsInteractionCentricEnabled", "0"),
    ("IsCollaboration", "0"),
    ("AutoRouteToOwnerQueue", "0"),
    ("IsConnectionsEnabled", "0"),
    ("IsDocumentManagementEnabled", "0"),
    ("AutoCreateAccessTeams", "0"),
    ("IsOneNoteIntegrationEnabled", "0"),
    ("IsKnowledgeManagementEnabled", "0"),
    ("IsSLAEnabled", "0"),
    ("IsDocumentRecommendationsEnabled", "0"),
    ("IsBPFEntity", "0"),
    ("OwnershipTypeMask", "UserOwned"),
    ("IsAuditEnabled", "1"),
    ("IsRetrieveAuditEnabled", "0"),
    ("IsRetrieveMultipleAuditEnabled", "0"),
    ("IsActivity", "0"),
    ("ActivityTypeMask", ""),
    ("IsActivityParty", "0"),
    ("IsReplicated", "0"),
    ("IsReplicationUserFiltered", "0"),
    ("IsMailMergeEnabled", "0"),
    ("IsVisibleInMobile", "0"),
    ("IsVisibleInMobileClient", "0"),
    ("IsReadOnlyInMobileClient", "0"),
    ("IsOfflineInMobileClient", "0"),
    ("DaysSinceRecordLastModified", "0"),
    ("MobileOfflineFilters", ""),
    ("IsMapiGridEnabled", "1"),
    ("IsReadingPaneEnabled", "1"),
    ("IsQuickCreateEnabled", "0"),
    ("SyncToExternalSearchIndex", "0"),
    ("IntroducedVersion", "1.0.0.0"),
    ("IsCustomizable", "1"),
    ("IsRenameable", "1"),
    ("IsMappable", "1"),
    ("CanModifyAuditSettings", "1"),
    ("CanModifyMobileVisibility", "1"),
    ("CanModifyMobileClientVisibility", "1"),
    ("CanModifyMobileClientReadOnly", "1"),
    ("CanModifyMobileClientOffline", "1"),
    ("CanModifyConnectionSettings", "1"),
    ("CanModifyDuplicateDetectionSettings", "1"),
    ("CanModifyMailMergeSettings", "1"),
    ("CanModifyQueueSettings", "1"),
    ("CanCreateAttributes", "1"),
    ("CanCreateForms", "1"),
    ("CanCreateCharts", "1"),
    ("CanCreateViews", "1"),
    ("CanModifyAdditionalSettings", "1"),
    ("CanEnableSyncToExternalSearchIndex", "1"),
    ("EnforceStateTransitions", "0"),
    ("CanChangeHierarchicalRelationship", "1"),
    ("EntityHelpUrlEnabled", "0"),
    ("ChangeTrackingEnabled", "1"),
    ("CanChangeTrackingBeEnabled", "1"),
    ("IsEnabledForExternalChannels", "0"),
    ("IsMSTeamsIntegrationEnabled", "0"),
    ("IsSolutionAware", "0")
  ]

/-- The records of an entity: its own attributes, then those of the system.
-/
def records (publisherPrefix : String) (entity : Entity) : List AttributeRecord :=
  entity.attributes.map AttributeRecord.ofAttribute
    ++ AttributeRecord.systemRecords entity.logicalName publisherPrefix

/-- The names by which people know an entity.
-/
def labelNodes (language : String) (entity : Entity) : List Xml.Node :=
  [
    .branch "LocalizedNames" [] [.described language "LocalizedName" entity.displayName],
    .branch "LocalizedCollectionNames" []
      [.described language "LocalizedCollectionName" entity.pluralName],
    .branch "Descriptions" [] [.described language "Description" entity.description]
  ]

/-- What a package says of an entity itself.
-/
def infoNode (publisherPrefix language : String) (entity : Entity) : Xml.Node :=
  .branch "entity" [("Name", entity.logicalName)] <|
    entity.labelNodes language
      ++ [
        .branch "attributes" []
          ((entity.records publisherPrefix).map (AttributeRecord.node language)),
        .text "EntitySetName" entity.setName
      ]
      ++ settings.map fun (tag, value) => .text tag value

/-- The main document of an entity.
-/
def node (publisherPrefix language : String) (entity : Entity) : Xml.Node :=
  .branch "Entity" Xml.instanceNames [
    .leaf "Name" [("LocalizedName", entity.displayName), ("OriginalName", entity.displayName)]
      entity.logicalName,
    .branch "EntityInfo" [] [entity.infoNode publisherPrefix language],
    .empty "FormXml" [],
    .empty "SavedQueries" [],
    .empty "RibbonDiffXml" []
  ]

/-- The document of an entity's command bar, to which nothing is added.
-/
def ribbonNode : Xml.Node :=
  .empty "RibbonDiffXml" []

end Tablewright.Entity
