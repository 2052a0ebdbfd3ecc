import Tablewright.Attribute.Record
import Tablewright.Proofs.Schema.Encoding
import Tablewright.Store.Payload

/-! What the two outputs say of an attribute: the record of a package and the body of a request,
each read back on its own.
-/

namespace Tablewright

/-- What an output says of the kind of an attribute.
-/
inductive DescribedKind
  | string (maxLength : Int)
  | memo (maxLength : Int)
  | integer (minimum maximum : Int)
  | boolean (defaultValue? : Option Bool) (options : List (Int × String))
  | dateTime (behavior : DateBehavior)
  | lookup
  | choice (options : List (Int × String))
  deriving DecidableEq

/-- What an output says of an attribute.
-/
structure Description where
  logicalName : String
  displayName : String
  requiredLevel : RequiredLevel
  kind : DescribedKind
  deriving DecidableEq

-----------------------------------------------------------------------------------------
-- Reading the record of a package
-----------------------------------------------------------------------------------------

/-- The behavior with a format and a number of package documents.
-/
def DateBehavior.ofPackage? : String → Nat → Option DateBehavior
  | "datetime", 1 => some .dateAndTime
  | "date", 2 => some .dateOnly
  | _, _ => none

/-- The values and labels that a package has of a set's options.
-/
def OptionSet.packaged (set : OptionSet) : List (Int × String) :=
  set.options.map fun entry => (entry.packageValue.toInt, entry.label)

namespace AttributeRecord

/-- What a record says of the kind of its attribute, when its type and its details fit together.
-/
def describedKind? (record : AttributeRecord) : Option DescribedKind :=
  match record.typeTag, record.detail with
  | "nvarchar", .text _ maxLength _ => some (.string maxLength.toNat)
  | "ntext", .text _ maxLength _ => some (.memo maxLength.toNat)
  | "int", .integer minimum maximum => some (.integer minimum maximum)
  | "bit", .optionSet set => some (.boolean none set.packaged)
  | "datetime", .dateTime format _ code =>
    (DateBehavior.ofPackage? format code).map .dateTime
  | "lookup", .lookup => some .lookup
  | "picklist", .optionSet set => some (.choice set.packaged)
  | _, _ => none

/-- What a record says of its attribute.
-/
def description? (record : AttributeRecord) : Option Description :=
  record.describedKind?.map fun kind =>
    ⟨record.logicalName, record.displayName, record.requiredLevel, kind⟩

end AttributeRecord

-----------------------------------------------------------------------------------------
-- Reading the body of a request
-----------------------------------------------------------------------------------------

/-- The level with a name of the Web API.
-/
def RequiredLevel.ofApiName? : String → Option RequiredLevel
  | "None" => some .optional
  | "ApplicationRequired" => some .application
  | "SystemRequired" => some .system
  | _ => none

/-- The behavior with a format of the Web API.
-/
def DateBehavior.ofApiFormat? : String → Option DateBehavior
  | "DateAndTime" => some .dateAndTime
  | "DateOnly" => some .dateOnly
  | _ => none

namespace Json.Value

/-- An integer value.
-/
def integer? : Value → Option Int
  | .integer value => some value
  | _ => none

/-- A truth value.
-/
def boolean? : Value → Option Bool
  | .boolean value => some value
  | _ => none

/-- The text of a label in its only language.
-/
def label? (label : Value) : Option String := do
  let [localized] ← (← label.get? "LocalizedLabels").items? | none
  (← localized.get? "Label").text?

/-- The value and the label of an option.
-/
def option? (option : Value) : Option (Int × String) := do
  return (← (← option.get? "Value").integer?, ← (← option.get? "Label").label?)

/-- What a body says of the kind of its attribute.
-/
def describedKind? (body : Value) : Option DescribedKind := do
  match ← (← body.get? "@odata.type").text? with
  | "Microsoft.Dynamics.CRM.StringAttributeMetadata" =>
    return .string (← (← body.get? "MaxLength").integer?)
  | "Microsoft.Dynamics.CRM.MemoAttributeMetadata" =>
    return .memo (← (← body.get? "MaxLength").integer?)
  | "Microsoft.Dynamics.CRM.IntegerAttributeMetadata" =>
    return .integer (← (← body.get? "MinValue").integer?) (← (← body.get? "MaxValue").integer?)
  | "Microsoft.Dynamics.CRM.BooleanAttributeMetadata" =>
    let options ← body.get? "OptionSet"
    let whenTrue ← (← options.get? "TrueOption").option?
    let whenFalse ← (← options.get? "FalseOption").option?
    return .boolean (← (← body.get? "DefaultValue").boolean?) [whenTrue, whenFalse]
  | "Microsoft.Dynamics.CRM.DateTimeAttributeMetadata" =>
    return .dateTime (← DateBehavior.ofApiFormat? (← (← body.get? "Format").text?))
  | "Microsoft.Dynamics.CRM.LookupAttributeMetadata" => return .lookup
  | "Microsoft.Dynamics.CRM.PicklistAttributeMetadata" =>
    return .choice (← (← (← (← body.get? "OptionSet").get? "Options").items?).mapM option?)
  | _ => none

/-- What a body says of its attribute.
-/
def description? (body : Value) : Option Description := do
  let level ← (← (← body.get? "RequiredLevel").get? "Value").text?
  return {
    logicalName := ← (← body.get? "SchemaName").text?
    displayName := ← (← body.get? "DisplayName").label?
    requiredLevel := ← RequiredLevel.ofApiName? level
    kind := ← body.describedKind?
  }

end Json.Value

-----------------------------------------------------------------------------------------
-- What is said of an attribute
-----------------------------------------------------------------------------------------

namespace Attribute

/-- The values and labels of an attribute's options in one of the outputs.
-/
def pairs (attr : Attribute) (target : Target) : List (Int × String) :=
  match attr.optionSet? with
  | some set => set.options.map fun entry => ((entry.value target).toInt, entry.label)
  | none => []

/-- What each output is to say of the kind of an attribute. The outputs have constraints of their own
on the length of long text, on whole numbers, on the default of a truth value and on the values of a
choice.
-/
def describedKind (attr : Attribute) (target : Target) : DescribedKind :=
  match attr.kind, target with
  | .string maxLength, _ => .string maxLength.toNat
  | .memo _, .package => .memo 2000
  | .memo declared, .provision => .memo (declared.getD 100000).toNat
  | .integer, .package => .integer (-2147483648) 2147483647
  | .integer, .provision => .integer 0 999999
  | .boolean _, .package => .boolean none (attr.pairs .package)
  | .boolean defaultValue, .provision => .boolean (some defaultValue) [(1, "Yes"), (0, "No")]
  | .dateTime behavior, _ => .dateTime behavior
  | .lookup _, _ => .lookup
  | .choice, target => .choice (attr.pairs target)

/-- What each output is to say of an attribute.
-/
def description (attr : Attribute) (target : Target) : Description :=
  ⟨attr.logicalName, attr.displayName, attr.requiredLevel, attr.describedKind target⟩

end Attribute

/-- Levels have different names in the Web API.
-/
theorem RequiredLevel.ofApiName?_apiName (level : RequiredLevel)
    : ofApiName? level.apiName = some level := by
  cases level with
  | _ => rfl

/-- A record says what a package is to say of its attribute, if the option set of this fits.
-/
theorem AttributeRecord.description?_ofAttribute {attr : Attribute}
    (fits : attr.kind.Fits attr.optionSet?)
    : (ofAttribute attr).description? = some (attr.description .package) := by
  have kind : (ofAttribute attr).describedKind? = some (attr.describedKind .package) := by
    obtain ⟨_, _, kind, _, _, _, _, set?⟩ := attr
    cases fits with
    | boolean | choice => rfl
    | plain optionless =>
        cases kind with
        | boolean | choice => cases optionless
        | dateTime behavior =>
            cases behavior with
            | _ => rfl
        | _ => rfl
  rw [description?, kind]
  rfl

namespace Payload

variable (attr : Attribute) (language : Nat)

/-- A labelled value is an option.
-/
theorem option?_labelledValue (value : Int) (text : String)
    : (labelledValue language value text).option? = some (value, text) :=
  rfl

/-- Options read as their values and labels.
-/
theorem mapM_option?_map (options : List OptionEntry)
    : ((options.map fun entry => (entry.value .provision, entry.label)).map
        fun (value, text) => labelledValue language value.toInt text).mapM Json.Value.option?
      = some (options.map fun entry => ((entry.value .provision).toInt, entry.label)) := by
  induction options with
  | nil => rfl
  | cons entry rest ih =>
      rw [List.map_cons, List.map_cons, List.mapM_cons, option?_labelledValue, ih]
      rfl

/-- A body has the name, the level and the label of its attribute, whatever its kind adds.
-/
theorem get?_attributeBody
    : (attributeBody attr language).get? "SchemaName" = some (.text attr.logicalName)
      ∧ (attributeBody attr language).get? "RequiredLevel"
        = some (.mapping [("Value", .text attr.requiredLevel.apiName)])
      ∧ (attributeBody attr language).get? "DisplayName"
        = some (label attr.displayName language) := by
  obtain ⟨_, _, kind, _, _, _, _, _⟩ := attr
  cases kind with
  | _ => exact ⟨rfl, rfl, rfl⟩

/-- A body says of the kind of its attribute what provisioning is to say of it.
-/
theorem describedKind?_attributeBody
    : (attributeBody attr language).describedKind? = some (attr.describedKind .provision) := by
  obtain ⟨_, _, kind, _, _, _, _, set?⟩ := attr
  cases kind with
  | dateTime behavior =>
      cases behavior with
      | _ => rfl
  | choice =>
      cases set? with
      | none => rfl
      | some set =>
          exact congrArg (Option.bind · fun options => some (DescribedKind.choice options))
            (mapM_option?_map language set.options)
  | _ => rfl

/-- A body says what provisioning is to say of its attribute.
-/
theorem description?_attributeBody
    : (attributeBody attr language).description? = some (attr.description .provision) := by
  obtain ⟨name, level, text⟩ := get?_attributeBody attr language
  calc (attributeBody attr language).description?
      = (RequiredLevel.ofApiName? attr.requiredLevel.apiName).bind fun level =>
          some ⟨attr.logicalName, attr.displayName, level, attr.describedKind .provision⟩ := by
        rw [Json.Value.description?, level, name, text, describedKind?_attributeBody]
        rfl
    _ = some (attr.description .provision) := by
        rw [RequiredLevel.ofApiName?_apiName]
        rfl

end Payload

-----------------------------------------------------------------------------------------
-- Descriptions that agree
-----------------------------------------------------------------------------------------

/-- Two descriptions of one kind. They may have different lengths of long text, different bounds of
whole numbers, different defaults of a truth value and different values of the options of a choice,
and nothing else.
-/
inductive DescribedKind.Agrees : DescribedKind → DescribedKind → Prop
  | string (maxLength : Int) : Agrees (.string maxLength) (.string maxLength)
  | memo (maxLength otherLength : Int) : Agrees (.memo maxLength) (.memo otherLength)
  | integer (minimum maximum otherMinimum otherMaximum : Int)
    : Agrees (.integer minimum maximum) (.integer otherMinimum otherMaximum)
  | boolean (defaultValue? otherDefault? : Option Bool)
    : Agrees (.boolean defaultValue? [(1, "Yes"), (0, "No")])
        (.boolean otherDefault? [(1, "Yes"), (0, "No")])
  | dateTime (behavior : DateBehavior) : Agrees (.dateTime behavior) (.dateTime behavior)
  | lookup : Agrees .lookup .lookup
  | choice {options otherOptions : List (Int × String)}
    (labels : options.map (·.2) = otherOptions.map (·.2))
    : Agrees (.choice options) (.choice otherOptions)

/-- Two descriptions of one attribute.
-/
structure Description.Agrees (description other : Description) : Prop where
  logicalName : description.logicalName = other.logicalName
  displayName : description.displayName = other.displayName
  requiredLevel : description.requiredLevel = other.requiredLevel
  kind : description.kind.Agrees other.kind

/-- The labels of an attribute's options do not depend on the output.
-/
theorem Attribute.pairs_map_snd (attr : Attribute) (target : Target)
    : (attr.pairs target).map (·.2)
      = attr.optionSet?.toList.flatMap fun set => set.options.map (·.label) := by
  rw [pairs]
  cases attr.optionSet? with
  | none => rfl
  | some set =>
      rw [Option.toList_some, List.flatMap_singleton, List.map_map]
      rfl

/-- A package and provisioning are to say the same of an attribute whose option set fits.
-/
theorem Attribute.description_agrees {attr : Attribute} (fits : attr.kind.Fits attr.optionSet?)
    : (attr.description .package).Agrees (attr.description .provision) := by
  refine ⟨rfl, rfl, rfl, ?_⟩
  have labels := (attr.pairs_map_snd .package).trans (attr.pairs_map_snd .provision).symm
  obtain ⟨_, _, kind, _, _, _, _, set?⟩ := attr
  cases kind with
  | string maxLength => exact .string _
  | memo declared => exact .memo _ _
  | integer => exact .integer _ _ _ _
  | boolean defaultValue =>
      -- A record takes the options of a truth value from its set and a body spells them out, so that
      -- here the set has to be known.
      cases fits with
      | boolean => exact .boolean _ _
      | plain optionless => cases optionless
  | dateTime behavior => exact .dateTime _
  | lookup target => exact .lookup
  | choice => exact .choice labels

end Tablewright
