import Tablewright.Settings.Basic
import Tablewright.Xml.Node

/-! The documents that tell a package from others: its manifest, the sections that it could
customize, and the types of its files.
-/

namespace Tablewright.Solution

/-- The document of customizations. Only the language is filled in.
-/
def customizationsNode (language : String) : Xml.Node :=
  .branch "ImportExportXml" Xml.instanceNames [
    .empty "Entities" [],
    .empty "Roles" [],
    .empty "Workflows" [],
    .empty "FieldSecurityProfiles" [],
    .empty "Templates" [],
    .empty "EntityMaps" [],
    .empty "EntityRelationships" [],
    .empty "OrganizationSettings" [],
    .empty "optionsets" [],
    .empty "CustomControls" [],
    .empty "EntityDataProviders" [],
    .branch "Languages" [] [.text "Language" language]
  ]

/-- The fields of an address that stand before the method of shipping.
-/
def leadingAddressFields : List String :=
  [
    "City", "County", "Country", "Fax", "FreightTermsCode", "ImportSequenceNumber", "Latitude",
    "Line1", "Line2", "Line3", "Longitude", "Name", "PostalCode", "PostOfficeBox",
    "PrimaryContactName"
  ]

/-- One of the publisher's addresses, of which nothing is known.
-/
def addressNode (number : Nat) : Xml.Node :=
  .branch "Address" [] <|
    [.text "AddressNumber" (toString number), .text "AddressTypeCode" "1"]
      ++ leadingAddressFields.map Xml.Node.nil
      ++ [
        .text "ShippingMethodCode" "1",
        .nil "StateOrProvince",
        .nil "Telephone1",
        .nil "Telephone2",
        .nil "Telephone3",
        .text "TimeZoneRuleVersionNumber" "0",
        .nil "UPSZone",
        .nil "UTCOffset",
        .nil "UTCConversionTimeZoneCode"
      ]

/-- The publisher in a manifest.
-/
def publisherNode (publisher : PublisherSettings) (language : String) : Xml.Node :=
  .branch "Publisher" [] [
    .text "UniqueName" publisher.uniqueName,
    .branch "LocalizedNames" [] [.described language "LocalizedName" publisher.displayName],
    .empty "Descriptions" [],
    .nil "EMailAddress",
    .nil "SupportingWebsiteUrl",
    .text "CustomizationPrefix" publisher.namePrefix,
    .text "CustomizationOptionValuePrefix" (toString publisher.optionValuePrefix),
    .branch "Addresses" [] [addressNode 1, addressNode 2]
  ]

/-- The entry of a table in a manifest.
-/
def componentNode (table : String) : Xml.Node :=
  .empty "RootComponent" [("type", "1"), ("schemaName", table), ("behavior", "0")]

/-- The manifest of a solution with its tables.
-/
def manifestNode (solution : SolutionSettings) (publisher : PublisherSettings)
    (language : String) (tables : List String)
    : Xml.Node :=
  .branch "ImportExportXml"
    ([
      ("version", "9.2.26012.156"),
      ("SolutionPackageVersion", "9.2"),
      ("languagecode", language),
      ("generatedBy", "CrmLive")
    ] ++ Xml.instanceNames)
    [
      .branch "SolutionManifest" [] [
        .text "UniqueName" solution.uniqueName,
        .branch "LocalizedNames" [] [.described language "LocalizedName" solution.displayName],
        .branch "Descriptions" [] [.described language "Description" solution.description],
        .text "Version" solution.version,
        .text "Managed" "0",
        publisherNode publisher language,
        .branch "RootComponents" [] (tables.map componentNode),
        .empty "MissingDependencies" []
      ]
    ]

/-- The document of file types.
-/
def contentTypesNode : Xml.Node :=
  .branch "Types" [("xmlns", "http://schemas.openxmlformats.org/package/2006/content-types")]
    [.empty "Default" [("Extension", "xml"), ("ContentType", "application/octet-stream")]]

end Tablewright.Solution
