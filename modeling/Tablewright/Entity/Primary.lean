import Tablewright.Attribute.Basic
import Tablewright.Schema.Basic
import Tablewright.Schema.Error

/-! The primary name of a table: the column whose text names a record.
-/

namespace Tablewright

/-- How a primary name was chosen.
-/
inductive PrimaryChoice
  | override
  | convention
  | firstRequiredString
  | firstString
  | synthesized
  deriving DecidableEq, Repr

/-- The primary name of a table and how it was chosen.
-/
structure PrimaryName where
  choice : PrimaryChoice
  name : String
  deriving DecidableEq, Repr

/-- The column that bears a primary name by convention.
-/
def conventionalName (publisherPrefix : String) : String :=
  publisherPrefix ++ "_name"

/-- The column that is made up for a table without a candidate.
-/
def synthesizedName (table : Table) : String :=
  table.logicalName ++ "_name"

/-- The primary name of a table: the declared one, else the conventional column, else the first
required text, else the first text, else a new column.
-/
def PrimaryName.resolve (table : Table) (publisherPrefix : String) : PrimaryName :=
  match table.primaryNameColumn with
  | some name => ⟨.override, name⟩
  | none =>
    if (table.find? (conventionalName publisherPrefix)).isSome then
      ⟨.convention, conventionalName publisherPrefix⟩
    else
      match table.columns.find? fun column => column.isString && column.required with
      | some column => ⟨.firstRequiredString, column.logicalName⟩
      | none =>
        match table.columns.find? Column.isString with
        | some column => ⟨.firstString, column.logicalName⟩
        | none => ⟨.synthesized, synthesizedName table⟩

/-- The declared column that stands in the way of a primary name: one of another type that an
override names, or any column that already has the name of a new one.
-/
def PrimaryName.clash? (table : Table) (primary : PrimaryName) : Option Column :=
  match primary.choice with
  | .override => (table.find? primary.name).filter fun column => !column.isString
  | .synthesized => table.find? primary.name
  | _ => none

/-- The column that is made up for a primary name.
-/
def synthesizedColumn (table : Table) (name : String) : Column :=
  { Column.string name (table.displayName ++ " Name") with
    maxLength := some defaultStringLength
    required := true }

/-- The columns of a table, led by its primary name when that is a new column.
-/
def PrimaryName.columns (table : Table) (primary : PrimaryName)
    : Except SchemaError (List Column) :=
  match primary.clash? table with
  | some column =>
    .error (.nonTextPrimary table.logicalName column.logicalName column.type.name)
  | none =>
    if primary.choice = .synthesized then
      .ok (synthesizedColumn table primary.name :: table.columns)
    else
      .ok table.columns

end Tablewright
