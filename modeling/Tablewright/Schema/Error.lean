/-! What makes a schema unacceptable.
-/

namespace Tablewright

/-- A column of a table, by their names.
-/
structure ColumnName where
  table : String
  column : String
  deriving DecidableEq, Repr

/-- A column's name behind that of its table.
-/
def ColumnName.text (name : ColumnName) : String :=
  name.table ++ "." ++ name.column

/-- Why a schema does not compile.
-/
inductive SchemaError
  | unknownColumnType (table column typeName : String)
  | duplicateTable (table : String)
  | duplicateColumn (table column : String)
  | invalidName (table name : String)
  | zeroMaxLength (table column : String)
  | missingTarget (table column : String)
  | unknownTarget (table column target : String)
  | emptyChoice (table column : String)
  | duplicateOptionValue (table column : String) (value : Int32)
  | nonTextPrimary (table column found : String)
  | duplicateRelationship (name : String) (first second : ColumnName)
  | dependencyCycle (table : String)
  deriving DecidableEq

namespace SchemaError

/-- The wording of an error.
-/
def message : SchemaError → String
  | unknownColumnType table column typeName =>
    "Unknown column type '" ++ typeName ++ "' for column '" ++ column ++ "' in table '"
      ++ table ++ "'"
  | duplicateTable table => "Duplicate table name: '" ++ table ++ "'"
  | duplicateColumn table column =>
    "Duplicate column '" ++ column ++ "' in table '" ++ table ++ "'"
  | invalidName table name =>
    "Invalid logical name '" ++ name ++ "' in table '" ++ table
      ++ "': expected a letter followed by letters, digits or underscores"
  | zeroMaxLength table column =>
    "Column '" ++ column ++ "' in table '" ++ table ++ "' has a zero max length"
  | missingTarget table column =>
    "Lookup column '" ++ column ++ "' in table '" ++ table ++ "' has no target"
  | unknownTarget table column target =>
    "Lookup column '" ++ column ++ "' in table '" ++ table ++ "' targets unknown table '"
      ++ target ++ "'"
  | emptyChoice table column =>
    "Choice column '" ++ column ++ "' in table '" ++ table ++ "' has no options"
  | duplicateOptionValue table column value =>
    "Choice column '" ++ column ++ "' in table '" ++ table ++ "' repeats option value "
      ++ toString value.toInt
  | nonTextPrimary table column found =>
    "Primary name column '" ++ column ++ "' of table '" ++ table
      ++ "' must be a String column, found " ++ found
  | duplicateRelationship name first second =>
    "Relationship name '" ++ name ++ "' is produced by both " ++ first.text ++ " and "
      ++ second.text
  | dependencyCycle table => "Dependency ordering failed at table '" ++ table ++ "'"

/-- The table that an error belongs to, when there is exactly one.
-/
def table? : SchemaError → Option String
  | unknownColumnType table _ _ => some table
  | duplicateTable table => some table
  | duplicateColumn table _ => some table
  | invalidName table _ => some table
  | zeroMaxLength table _ => some table
  | missingTarget table _ => some table
  | unknownTarget table _ _ => some table
  | emptyChoice table _ => some table
  | duplicateOptionValue table _ _ => some table
  | nonTextPrimary table _ _ => some table
  | duplicateRelationship _ _ _ => none
  | dependencyCycle table => some table

end SchemaError

end Tablewright
