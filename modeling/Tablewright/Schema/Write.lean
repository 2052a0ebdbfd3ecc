import Tablewright.Json.Value
import Tablewright.Schema.Basic

/-! The JSON document of a schema. What is absent, and a list of options that is empty, is left
out.
-/

namespace Tablewright

/-- The member of a value that may be absent.
-/
def memberOf {α : Type} (name : String) (write : α → Json.Value)
    : Option α → List (String × Json.Value)
  | none => []
  | some value => [(name, write value)]

/-- An option: its label alone, or its value and label.
-/
def ChoiceOption.toJson : ChoiceOption → Json.Value
  | bare label => .text label
  | explicit value label =>
    .mapping [("value", .integer value.toInt), ("label", .text label)]

/-- A column.
-/
def Column.toJson (column : Column) : Json.Value :=
  .mapping <|
    [
      ("logicalName", .text column.logicalName),
      ("displayName", .text column.displayName),
      ("type", .text column.type.name),
      ("required", .boolean column.required)
    ]
      ++ memberOf "maxLength" (fun length => .integer length.toNat) column.maxLength
      ++ (if column.options.isEmpty then []
        else [("options", .sequence (column.options.map ChoiceOption.toJson))])
      ++ memberOf "target" .text column.target
      ++ memberOf "defaultValue" .boolean column.defaultValue

/-- A table.
-/
def Table.toJson (table : Table) : Json.Value :=
  .mapping <|
    [
      ("logicalName", .text table.logicalName),
      ("displayName", .text table.displayName),
      ("pluralName", .text table.pluralName)
    ]
      ++ memberOf "description" .text table.description
      ++ memberOf "primaryNameColumn" .text table.primaryNameColumn
      ++ [("columns", .sequence (table.columns.map Column.toJson))]

/-- A schema.
-/
def Schema.toJson (schema : Schema) : Json.Value :=
  .mapping [("tables", .sequence (schema.tables.map Table.toJson))]

end Tablewright
