import Tablewright.Attribute.Basic
import Tablewright.Schema.Basic
import Tablewright.Schema.Error

/-! The attribute of a declared column.
-/

namespace Tablewright

/-- The value of a choice's first option in a package; the others follow it one by one.
-/
def firstPackageValue : Int32 := 100000000

/-- The entry of the option at a position. Without a declared value an option counts from one in a
live store.
-/
def ChoiceOption.entry (option : ChoiceOption) (position : Nat) : OptionEntry where
  label := option.label
  packageValue := firstPackageValue + Int32.ofNat position
  provisionValue := option.value?.getD (Int32.ofNat position + 1)

/-- The first entry whose provisioning value is among those seen before it.
-/
def firstRepeat? (seen : List Int32) : List OptionEntry → Option OptionEntry
  | [] => none
  | entry :: rest =>
    if entry.provisionValue ∈ seen then
      some entry
    else
      firstRepeat? (entry.provisionValue :: seen) rest

/-- The entries of a choice's options.
-/
def Column.entries (column : Column) : List OptionEntry :=
  column.options.mapIdx fun position option => option.entry position

/-- The name of the option set that a column carries.
-/
def Column.optionSetName (table : String) (column : Column) : String :=
  table ++ "_" ++ column.logicalName

/-- The option set of a choice.
-/
def Column.choiceSet (table : String) (column : Column) : Except SchemaError OptionSet :=
  if column.options.isEmpty then
    .error (.emptyChoice table column.logicalName)
  else
    match firstRepeat? [] column.entries with
    | some entry =>
      .error (.duplicateOptionValue table column.logicalName entry.provisionValue)
    | none =>
      .ok ⟨column.optionSetName table, .picklist, column.displayName, column.entries⟩

/-- What the type of a column decides of its attribute.
-/
structure AttributeShape where
  kind : AttributeKind
  inputMode : InputMode := .auto
  optionSet? : Option OptionSet := none
  deriving DecidableEq

/-- The shape of the attribute of a column of a known type. The editors of dates take no input of
their own, and truth values and choices have option sets.
-/
def Column.shape (table : String) (column : Column)
    : ColumnType → Except SchemaError AttributeShape
  | .string => .ok { kind := .string (column.maxLength.getD defaultStringLength) }
  | .memo => .ok { kind := .memo column.maxLength }
  | .integer => .ok { kind := .integer }
  | .boolean => .ok {
      kind := .boolean (column.defaultValue.getD true)
      optionSet? := some (.yesNo (column.optionSetName table) column.displayName)
    }
  | .dateTime => .ok { kind := .dateTime .dateAndTime, inputMode := .inactive }
  | .dateOnly => .ok { kind := .dateTime .dateOnly, inputMode := .inactive }
  | .lookup =>
    match column.target with
    | some target => .ok { kind := .lookup target }
    | none => .error (.missingTarget table column.logicalName)
  | .choice => do
    let set ← column.choiceSet table
    return { kind := .choice, optionSet? := some set }

/-- The attribute of a column. The primary name is always required, searched and retrieved.
-/
def Attribute.ofColumn (table : String) (column : Column) (isPrimaryName : Bool)
    : Except SchemaError Attribute :=
  match column.type.known? with
  | none => .error (.unknownColumnType table column.logicalName column.type.name)
  | some type =>
    if column.maxLength = some 0 then
      .error (.zeroMaxLength table column.logicalName)
    else do
      let shape ← column.shape table type
      return {
        logicalName := column.logicalName
        displayName := column.displayName
        kind := shape.kind
        requiredLevel := if isPrimaryName || column.required then .application else .optional
        isPrimaryName
        flags := { searchable := isPrimaryName, retrievable := isPrimaryName }
        inputMode := shape.inputMode
        optionSet? := shape.optionSet?
      }

end Tablewright
