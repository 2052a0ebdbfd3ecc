import Tablewright.Attribute.Basic
import Tablewright.Attribute.OptionSet.Document

/-! Attributes in package documents. Declared attributes and those of the system have the same
form.
-/

namespace Tablewright

/-- What a record says of its kind of attribute alone.
-/
inductive RecordDetail
  | none
  | text (format : String) (maxLength : UInt32) (storedLength : Option Nat)
  | integer (minimum maximum : Int)
  | dateTime (format : String) (canChangeBehavior : Bool) (behavior : Nat)
  | lookup
  | optionSet (options : OptionSet)
  deriving DecidableEq

/-- Which uses of the Web API an attribute is valid for.
-/
structure ApiValidity where
  update : Bool
  read : Bool
  create : Bool
  deriving DecidableEq, Repr

/-- All that a package says of an attribute.
-/
structure AttributeRecord where
  physicalName : String
  logicalName : String
  typeTag : String
  requiredLevel : RequiredLevel
  displayMask : Option String
  inputMode : InputMode
  validity : ApiValidity
  isCustom : Bool
  isAudited : Bool
  canModifyRequirement : Bool
  flags : AttributeFlags
  detail : RecordDetail
  displayName : String
  description : Option String
  deriving DecidableEq

namespace AttributeRecord

/-- What the record of an attribute says of its kind.
-/
def detailOf (attr : Attribute) : RecordDetail :=
  match attr.kind with
  | .string length => .text "text" length attr.storedLength?
  | .memo _ => .text "textarea" ((attr.maxLength? .package).getD 0) none
  | .integer =>
    let (minimum, maximum) := (attr.integerBounds? .package).getD (0, 0)
    .integer minimum maximum
  | .dateTime behavior => .dateTime behavior.packageFormat true behavior.code
  | .lookup _ => .lookup
  | .boolean _ | .choice => (attr.optionSet?.map .optionSet).getD .none

/-- The record of a declared attribute.
-/
def ofAttribute (attr : Attribute) : AttributeRecord where
  physicalName := attr.logicalName
  logicalName := attr.logicalName
  typeTag := attr.kind.typeTag
  requiredLevel := attr.requiredLevel
  displayMask := some attr.displayMask
  inputMode := attr.inputMode
  validity := ⟨true, true, true⟩
  isCustom := true
  isAudited := true
  canModifyRequirement := true
  flags := attr.flags
  detail := detailOf attr
  displayName := attr.displayName
  description := none

end AttributeRecord

/-- The elements of what a record says of its kind.
-/
def RecordDetail.nodes (language : String) : RecordDetail → List Xml.Node
  | none => []
  | text format maxLength storedLength =>
    [.text "Format" format, .text "MaxLength" (toString maxLength.toNat)]
      ++ (storedLength.map fun length => Xml.Node.text "Length" (toString length)).toList
  | integer minimum maximum =>
    [.text "Format" "", .text "MinValue" (toString minimum), .text "MaxValue" (toString maximum)]
  | dateTime format canChangeBehavior behavior =>
    [
      .text "Format" format,
      .flag "CanChangeDateTimeBehavior" canChangeBehavior,
      .text "Behavior" (toString behavior)
    ]
  | lookup => [.text "LookupStyle" "single", .empty "LookupTypes" []]
  | optionSet options => [options.node language]

/-- The element of a record.
-/
def AttributeRecord.node (language : String) (record : AttributeRecord) : Xml.Node :=
  .branch "attribute" [("PhysicalName", record.physicalName)] <|
    [
      .text "Type" record.typeTag,
      .text "Name" record.logicalName,
      .text "LogicalName" record.logicalName,
      .text "RequiredLevel" record.requiredLevel.packageName
    ]
      ++ (record.displayMask.map (Xml.Node.text "DisplayMask")).toList
      ++ [
        .text "ImeMode" record.inputMode.name,
        .flag "ValidForUpdateApi" record.validity.update,
        .flag "ValidForReadApi" record.validity.read,
        .flag "ValidForCreateApi" record.validity.create,
        .flag "IsCustomField" record.isCustom,
        .flag "IsAuditEnabled" record.isAudited,
        .text "IsSecured" "0",
        .text "IntroducedVersion" "1.0.0.0",
        .text "IsCustomizable" "1",
        .text "IsRenameable" "1",
        .text "CanModifySearchSettings" "1",
        .flag "CanModifyRequirementLevelSettings" record.canModifyRequirement,
        .text "CanModifyAdditionalSettings" "1",
        .text "SourceType" "0",
        .text "IsGlobalFilterEnabled" "0",
        .text "IsSortableEnabled" "0",
        .text "CanModifyGlobalFilterSettings" "1",
        .text "CanModifyIsSortableSettings" "1",
        .text "IsDataSourceSecret" "0",
        .text "AutoNumberFormat" "",
        .flag "IsSearchable" record.flags.searchable,
        .flag "IsFilterable" record.flags.filterable,
        .flag "IsRetrievable" record.flags.retrievable,
        .text "IsLocalizable" "0"
      ]
      ++ record.detail.nodes language
      ++ [.branch "displaynames" [] [.described language "displayname" record.displayName]]
      ++ (record.description.map fun text =>
        Xml.Node.branch "Descriptions" [] [.described language "Description" text]).toList

end Tablewright
