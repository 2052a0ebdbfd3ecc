import Tablewright.Attribute.Record
import Tablewright.Schema.Name
import Tablewright.Text.Case

/-! The attributes that the system gives to every table: its key, who made and changed a record and
when, the bookkeeping of imports and time zones, and the pair of state and status.
-/

namespace Tablewright

/-- The option set of a table's states: active and inactive.
-/
def stateSet (table : String) : OptionSet :=
  ⟨table ++ "_statecode", .state, "Status",
    [.same 0 "Active" (some 1), .same 1 "Inactive" (some 2)]⟩

/-- The option set of a table's statuses, one for each state.
-/
def statusSet (table : String) : OptionSet :=
  ⟨table ++ "_statuscode", .status, "Status Reason",
    [.same 1 "Active" (some 0), .same 2 "Inactive" (some 1)]⟩

namespace AttributeRecord

/-- A system attribute with what most of them share.
-/
def system (physicalName typeTag displayName : String) : AttributeRecord where
  physicalName
  logicalName := Text.lower physicalName
  typeTag
  requiredLevel := .optional
  displayMask := some "ValidForAdvancedFind|ValidForForm|ValidForGrid"
  inputMode := .auto
  validity := ⟨false, true, false⟩
  isCustom := false
  isAudited := false
  canModifyRequirement := true
  flags := {}
  detail := .none
  displayName
  description := none

/-- A system attribute that refers to a user.
-/
def systemLookup (physicalName displayName : String) : AttributeRecord :=
  { system physicalName "lookup" displayName with detail := .lookup }

/-- A system attribute that keeps when something happened.
-/
def systemStamp (physicalName displayName : String) : AttributeRecord :=
  { system physicalName "datetime" displayName with
    inputMode := .inactive
    flags := ⟨false, true, true⟩
    detail := .dateTime "datetime" false 1 }

/-- A system attribute that keeps the code of a time zone.
-/
def systemTimeZone (physicalName displayName : String) : AttributeRecord :=
  { system physicalName "int" displayName with
    displayMask := none
    validity := ⟨true, true, true⟩
    detail := .integer (-1) integerRange.2 }

/-- The key of a table.
-/
def systemKey (table publisherPrefix : String) : AttributeRecord :=
  { system (table ++ "id") "primarykey" (Text.titleWords (shortName publisherPrefix table)) with
    requiredLevel := .system
    displayMask := some "ValidForAdvancedFind|RequiredForGrid"
    validity := ⟨false, true, true⟩
    canModifyRequirement := false
    flags := ⟨false, true, true⟩
    description := some "Unique identifier for entity instances" }

/-- When a record was made before it was imported.
-/
def systemImportDate : AttributeRecord :=
  { system "OverriddenCreatedOn" "datetime" "Record Created On" with
    displayMask := some "ValidForAdvancedFind|ValidForGrid"
    inputMode := .inactive
    validity := ⟨false, true, true⟩
    isAudited := true
    detail := .dateTime "date" false 1 }

/-- The import that made a record.
-/
def systemImportNumber : AttributeRecord :=
  { system "ImportSequenceNumber" "int" "Import Sequence Number" with
    displayMask := some "ValidForAdvancedFind"
    inputMode := .disabled
    validity := ⟨false, true, true⟩
    isAudited := true
    detail := .integer integerRange.1 integerRange.2 }

/-- The state of a record.
-/
def systemState (table : String) : AttributeRecord :=
  { system "statecode" "state" "Status" with
    requiredLevel := .system
    validity := ⟨true, true, false⟩
    isAudited := true
    flags := ⟨false, true, false⟩
    detail := .optionSet (stateSet table) }

/-- The status of a record.
-/
def systemStatus (table : String) : AttributeRecord :=
  { system "statuscode" "status" "Status Reason" with
    validity := ⟨true, true, true⟩
    isAudited := true
    detail := .optionSet (statusSet table) }

/-- The system attributes of a table, in document order.
-/
def systemRecords (table publisherPrefix : String) : List AttributeRecord :=
  [
    systemKey table publisherPrefix,
    systemLookup "CreatedBy" "Created By",
    systemStamp "CreatedOn" "Created On",
    systemLookup "CreatedOnBehalfBy" "Created By (Delegate)",
    systemLookup "ModifiedBy" "Modified By",
    systemStamp "ModifiedOn" "Modified On",
    systemLookup "ModifiedOnBehalfBy" "Modified By (Delegate)",
    systemImportDate,
    systemImportNumber,
    systemTimeZone "TimeZoneRuleVersionNumber" "Time Zone Rule Version Number",
    systemTimeZone "UTCConversionTimeZoneCode" "UTC Conversion Time Zone Code",
    systemState table,
    systemStatus table
  ]

end AttributeRecord

end Tablewright
