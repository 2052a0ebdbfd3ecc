import Tablewright.Entity.Basic
import Tablewright.Json.Value
import Tablewright.Relationship.Basic
import Tablewright.Settings.Basic

/-! The JSON bodies of the requests that make something in a store. Labels, attributes and
relationships name the type of metadata they are.
-/

namespace Tablewright.Payload

/-- The member that names a type of metadata.
-/
def typeMember (name : String) : String × Json.Value :=
  ("@odata.type", .text name)

/-- A text in a language.
-/
def label (text : String) (language : Nat) : Json.Value :=
  .mapping [
    typeMember "Microsoft.Dynamics.CRM.Label",
    ("LocalizedLabels", .sequence [
      .mapping [
        typeMember "Microsoft.Dynamics.CRM.LocalizedLabel",
        ("Label", .text text),
        ("LanguageCode", .integer language)
      ]
    ])
  ]

/-- A value with its label.
-/
def labelledValue (language : Nat) (value : Int) (text : String) : Json.Value :=
  .mapping [("Value", .integer value), ("Label", label text language)]

/-- The greatest length of a text.
-/
def lengthMembers (attr : Attribute) : List (String × Json.Value) :=
  [("MaxLength", ((attr.maxLength? .provision).map fun length =>
    Json.Value.integer length.toNat).getD .null)]

/-- The bounds of a whole number.
-/
def boundMembers (attr : Attribute) : List (String × Json.Value) :=
  match attr.integerBounds? .provision with
  | some (minimum, maximum) => [("MinValue", .integer minimum), ("MaxValue", .integer maximum)]
  | none => []

/-- The default and the two options of a truth value.
-/
def booleanMembers (attr : Attribute) (language : Nat) : List (String × Json.Value) :=
  [
    ("DefaultValue", ((attr.booleanDefault? .provision).map Json.Value.boolean).getD .null),
    ("OptionSet", .mapping [
      ("TrueOption", labelledValue language 1 "Yes"),
      ("FalseOption", labelledValue language 0 "No")
    ])
  ]

/-- The options of a choice.
-/
def choiceMembers (attr : Attribute) (language : Nat) : List (String × Json.Value) :=
  [
    ("OptionSet", .mapping [
      typeMember "Microsoft.Dynamics.CRM.OptionSetMetadata",
      ("IsGlobal", .boolean false),
      ("OptionSetType", .text "Picklist"),
      ("Options", .sequence <| (attr.optionValues .provision).map fun (value, text) =>
        labelledValue language value.toInt text)
    ])
  ]

/-- What a body says of the kind of an attribute.
-/
def kindMembers (attr : Attribute) (language : Nat) : List (String × Json.Value) :=
  match attr.kind with
  | .string _ => lengthMembers attr
  | .memo _ => lengthMembers attr
  | .integer => boundMembers attr
  | .boolean _ => booleanMembers attr language
  | .dateTime behavior => [("Format", .text behavior.apiFormat)]
  | .choice => choiceMembers attr language
  | .lookup _ => []

/-- The members of an attribute's body.
-/
def attributeMembers (attr : Attribute) (language : Nat) : List (String × Json.Value) :=
  [
    typeMember attr.kind.odataType,
    ("SchemaName", .text attr.logicalName),
    ("RequiredLevel", .mapping [("Value", .text attr.requiredLevel.apiName)]),
    ("DisplayName", label attr.displayName language)
  ] ++ kindMembers attr language

/-- The body of an attribute.
-/
def attributeBody (attr : Attribute) (language : Nat) : Json.Value :=
  .mapping (attributeMembers attr language)

/-- The body of a table with its primary name.
-/
def tableBody (entity : Entity) (primary : Attribute) (language : Nat) : Json.Value :=
  .mapping [
    ("SchemaName", .text entity.logicalName),
    ("DisplayName", label entity.displayName language),
    ("DisplayCollectionName", label entity.pluralName language),
    ("Description", label entity.description language),
    ("HasActivities", .boolean false),
    ("HasNotes", .boolean false),
    ("OwnershipType", .text "UserOwned"),
    ("IsActivity", .boolean false),
    ("PrimaryNameAttribute", .text primary.logicalName),
    ("Attributes", .sequence [
      .mapping (attributeMembers primary language ++ [("IsPrimaryName", .boolean true)])
    ])
  ]

/-- The body of a relationship with its lookup.
-/
def relationshipBody (relationship : Relationship) (lookup : Attribute) (language : Nat)
    : Json.Value :=
  .mapping [
    ("SchemaName", .text relationship.name),
    typeMember "Microsoft.Dynamics.CRM.OneToManyRelationshipMetadata",
    ("ReferencedEntity", .text relationship.referencedTable),
    ("ReferencingEntity", .text relationship.referencingTable),
    ("Lookup", attributeBody lookup language)
  ]

/-- The body of a solution of a publisher.
-/
def solutionBody (solution : SolutionSettings) (publisher : String) : Json.Value :=
  .mapping [
    ("uniquename", .text solution.uniqueName),
    ("friendlyname", .text solution.displayName),
    ("description", .text solution.description),
    ("version", .text solution.version),
    ("publisherid@odata.bind", .text ("/publishers(" ++ publisher ++ ")"))
  ]

/-- The body that makes a table a component of a solution.
-/
def componentBody (solution id : String) : Json.Value :=
  .mapping [
    ("ComponentId", .text id),
    ("ComponentType", .integer 1),
    ("SolutionUniqueName", .text solution),
    ("AddRequiredComponents", .boolean false)
  ]

end Tablewright.Payload
