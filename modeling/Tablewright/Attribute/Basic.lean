import Tablewright.Attribute.OptionSet

/-! Attributes: what a column becomes in the metadata of an entity.
-/

namespace Tablewright

/-- Whether a record needs a value of an attribute, and who insists on it.
-/
inductive RequiredLevel
  | optional
  | application
  | system
  deriving DecidableEq, Repr

/-- The name of a level in package documents.
-/
def RequiredLevel.packageName : RequiredLevel → String
  | optional => "none"
  | application => "required"
  | system => "systemrequired"

/-- The name of a level in the Web API.
-/
def RequiredLevel.apiName : RequiredLevel → String
  | optional => "None"
  | application => "ApplicationRequired"
  | system => "SystemRequired"

/-- How the editor of an attribute takes input.
-/
inductive InputMode
  | auto
  | inactive
  | disabled
  deriving DecidableEq, Repr

/-- The name of an input mode in package documents.
-/
def InputMode.name : InputMode → String
  | auto => "auto"
  | inactive => "inactive"
  | disabled => "disabled"

/-- What a date attribute keeps.
-/
inductive DateBehavior
  | dateAndTime
  | dateOnly
  deriving DecidableEq, Repr

namespace DateBehavior

/-- The number of a behavior in package documents.
-/
def code : DateBehavior → Nat
  | dateAndTime => 1
  | dateOnly => 2

/-- The format of a behavior in package documents.
-/
def packageFormat : DateBehavior → String
  | dateAndTime => "datetime"
  | dateOnly => "date"

/-- The format of a behavior in the Web API.
-/
def apiFormat : DateBehavior → String
  | dateAndTime => "DateAndTime"
  | dateOnly => "DateOnly"

end DateBehavior

/-- What an attribute stores.
-/
inductive AttributeKind
  | string (maxLength : UInt32)
  | memo (declaredMaxLength : Option UInt32)
  | integer
  | boolean (defaultValue : Bool)
  | dateTime (behavior : DateBehavior)
  | lookup (target : String)
  | choice
  deriving DecidableEq

namespace AttributeKind

/-- The name of a kind.
-/
def name : AttributeKind → String
  | string _ => "String"
  | memo _ => "Memo"
  | integer => "Integer"
  | boolean _ => "Boolean"
  | dateTime _ => "DateTime"
  | lookup _ => "Lookup"
  | choice => "Choice"

/-- The type of a kind in package documents.
-/
def typeTag : AttributeKind → String
  | string _ => "nvarchar"
  | memo _ => "ntext"
  | integer => "int"
  | boolean _ => "bit"
  | dateTime _ => "datetime"
  | lookup _ => "lookup"
  | choice => "picklist"

/-- The type of a kind in the Web API.
-/
def odataType : AttributeKind → String
  | string _ => "Microsoft.Dynamics.CRM.StringAttributeMetadata"
  | memo _ => "Microsoft.Dynamics.CRM.MemoAttributeMetadata"
  | integer => "Microsoft.Dynamics.CRM.IntegerAttributeMetadata"
  | boolean _ => "Microsoft.Dynamics.CRM.BooleanAttributeMetadata"
  | dateTime _ => "Microsoft.Dynamics.CRM.DateTimeAttributeMetadata"
  | lookup _ => "Microsoft.Dynamics.CRM.LookupAttributeMetadata"
  | choice => "Microsoft.Dynamics.CRM.PicklistAttributeMetadata"

/-- The kind refers to records of a table.
-/
def isLookup : AttributeKind → Bool
  | lookup _ => true
  | _ => false

end AttributeKind

/-- Whether an attribute can be searched, filtered by and retrieved.
-/
structure AttributeFlags where
  searchable : Bool := false
  filterable : Bool := false
  retrievable : Bool := false
  deriving DecidableEq, Repr

/-- An attribute of an entity. The primary name attribute is the one that names a record.
-/
structure Attribute where
  logicalName : String
  displayName : String
  kind : AttributeKind
  requiredLevel : RequiredLevel := .optional
  isPrimaryName : Bool := false
  flags : AttributeFlags := {}
  inputMode : InputMode := .auto
  optionSet? : Option OptionSet := none
  deriving DecidableEq

/-- The length of short text without a declared length.
-/
def defaultStringLength : UInt32 := 200

/-- The length of every long text in a package.
-/
def packageMemoLength : UInt32 := 2000

/-- The length of long text in a live store without a declared length.
-/
def defaultMemoLength : UInt32 := 100000

/-- The least and the greatest whole number of 32 bits.
-/
def integerRange : Int × Int := (-2147483648, 2147483647)

/-- The bounds of whole numbers in a live store.
-/
def provisionIntegerRange : Int × Int := (0, 999999)

namespace Attribute

/-- The text that names the records of a table.
-/
def naming (logicalName displayName : String) : Attribute where
  logicalName
  displayName
  kind := .string defaultStringLength
  requiredLevel := .application
  isPrimaryName := true
  flags := { searchable := true, retrievable := true }

/-- Where an attribute may be shown.
-/
def displayMask (attr : Attribute) : String :=
  if attr.isPrimaryName then
    "PrimaryName|ValidForAdvancedFind|ValidForForm|ValidForGrid|RequiredForForm"
  else
    "ValidForAdvancedFind|ValidForForm|ValidForGrid"

/-- The greatest number of characters of a text.
-/
def maxLength? (attr : Attribute) (target : Target) : Option UInt32 :=
  match attr.kind, target with
  | .string length, _ => some length
  | .memo _, .package => some packageMemoLength
  | .memo declared, .provision => some (declared.getD defaultMemoLength)
  | _, _ => none

/-- The bytes of a short text, two a character, as far as 32 bits can count them.
-/
def storedLength? (attr : Attribute) : Option Nat :=
  match attr.kind with
  | .string length => some (min (2 * length.toNat) (UInt32.size - 1))
  | _ => none

/-- The least and the greatest value of a whole number.
-/
def integerBounds? (attr : Attribute) (target : Target) : Option (Int × Int) :=
  match attr.kind, target with
  | .integer, .package => some integerRange
  | .integer, .provision => some provisionIntegerRange
  | _, _ => none

/-- The default of a truth value; packages carry none.
-/
def booleanDefault? (attr : Attribute) (target : Target) : Option Bool :=
  match attr.kind, target with
  | .boolean value, .provision => some value
  | _, _ => none

/-- The values and labels of the options in one of the outputs.
-/
def optionValues (attr : Attribute) (target : Target) : List (Int32 × String) :=
  match attr.optionSet? with
  | some set => set.options.map fun entry => (entry.value target, entry.label)
  | none => []

/-- The table that a lookup refers to.
-/
def lookupTarget? (attr : Attribute) : Option String :=
  match attr.kind with
  | .lookup target => some target
  | _ => none

end Attribute

end Tablewright
