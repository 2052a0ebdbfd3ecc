import Tablewright.Document.Decode
import Tablewright.Schema.Basic

/-! Reading a schema out of a document. A schema, a table and a column are mappings or, field by
field in declaration order, sequences; unknown members are passed over.
-/

namespace Tablewright

/-- The members of an explicit option that have been met: each at most once and of its own type.
-/
structure OptionFields where
  value : Option Int32 := none
  label : Option String := none

/-- Takes note of one member of an explicit option; none when it is repeated or of another type.
-/
def OptionFields.set (fields : OptionFields) : String → Document → Option OptionFields
  | "value", .scalar (.ok (.integer value)) =>
    if fields.value.isNone ∧ Int32.minValue.toInt ≤ value ∧ value ≤ Int32.maxValue.toInt then
      some { fields with value := some (Int32.ofInt value) }
    else
      none
  | "label", .scalar (.ok (.text label)) =>
    if fields.label.isNone then some { fields with label := some label } else none
  | "value", _ => none
  | "label", _ => none
  | _, _ => some fields

/-- The members of an explicit option.
-/
def OptionFields.ofMembers (fields : OptionFields) : Members → Option OptionFields
  | .closed => some fields
  | .member (.ok key) value rest => do (← fields.set key value).ofMembers rest
  | _ => none

/-- The option that a sound document stands for.
-/
def ChoiceOption.ofSound? : Document → Option ChoiceOption
  | .scalar (.ok (.text label)) => some (.bare label)
  | .mapping members => do
    let fields ← OptionFields.ofMembers {} members
    return .explicit (← fields.value) (← fields.label)
  | _ => none

/-- An option. It is read to its end before its shape is looked at, so faults of its text come
first; options stand below six levels of the document.
-/
def ChoiceOption.ofDocument (conventions : Conventions) (document : Document)
    : Decoded ChoiceOption := do
  match document.check (conventions.depth.map (· - 6)) with
  | .error fault => throw (.fault fault)
  | .ok _ =>
    match ofSound? document with
    | some option => return option
    | none => throw (.misfit (.noVariant "ChoiceOption"))

/-- A declared type.
-/
def TypeName.ofDocument (document : Document) : Decoded TypeName :=
  TypeName.mk <$> document.text

/-- The members of a column that have been met.
-/
structure ColumnFields where
  logicalName : Option String := none
  displayName : Option String := none
  type : Option TypeName := none
  required : Option Bool := none
  maxLength : Option (Option UInt32) := none
  options : Option (List ChoiceOption) := none
  target : Option (Option String) := none
  defaultValue : Option (Option Bool) := none

/-- Takes note of one member of a column.
-/
def ColumnFields.set (conventions : Conventions) (fields : ColumnFields) (key : String)
    (value : Document)
    : Decoded ColumnFields := do
  match key with
  | "logicalName" =>
    return { fields with logicalName := ← value.fill key fields.logicalName Document.text }
  | "displayName" =>
    return { fields with displayName := ← value.fill key fields.displayName Document.text }
  | "type" => return { fields with type := ← value.fill key fields.type TypeName.ofDocument }
  | "required" =>
    return { fields with required := ← value.fill key fields.required Document.boolean }
  | "maxLength" =>
    return { fields with
      maxLength := ← value.fill key fields.maxLength (Document.optional Document.word) }
  | "options" =>
    return { fields with
      options := ← value.fill key fields.options
        (Document.list (ChoiceOption.ofDocument conventions)) }
  | "target" =>
    return { fields with
      target := ← value.fill key fields.target (Document.optional Document.text) }
  | "defaultValue" =>
    return { fields with
      defaultValue := ← value.fill key fields.defaultValue (Document.optional Document.boolean) }
  | _ =>
    value.ignore
    return fields

/-- The column of the members that have been met.
-/
def ColumnFields.column (fields : ColumnFields) : Decoded Column := do
  return {
    logicalName := ← present "logicalName" fields.logicalName
    displayName := ← present "displayName" fields.displayName
    type := ← present "type" fields.type
    required := fields.required.getD false
    maxLength := fields.maxLength.getD none
    options := fields.options.getD []
    target := fields.target.getD none
    defaultValue := fields.defaultValue.getD none
  }

/-- A column that is written as a sequence.
-/
def Column.ofItems (conventions : Conventions) (items : Items) : Decoded Column := do
  let (logicalName, items) ← items.demand "Column" 8 0 Document.text
  let (displayName, items) ← items.demand "Column" 8 1 Document.text
  let (type, items) ← items.demand "Column" 8 2 TypeName.ofDocument
  let (required, items) ← items.next Document.boolean
  let (maxLength, items) ← items.next (Document.optional Document.word)
  let (options, items) ← items.next (Document.list (ChoiceOption.ofDocument conventions))
  let (target, items) ← items.next (Document.optional Document.text)
  let (defaultValue, items) ← items.next (Document.optional Document.boolean)
  items.finish conventions
  return {
    logicalName, displayName, type
    required := required.getD false
    maxLength := maxLength.getD none
    options := options.getD []
    target := target.getD none
    defaultValue := defaultValue.getD none
  }

/-- A column.
-/
def Column.ofDocument (conventions : Conventions) : Document → Decoded Column
  | .mapping members => do (← members.collect (ColumnFields.set conventions) {}).column
  | .sequence items => Column.ofItems conventions items
  | other => .error (other.unexpected (.record "Column"))

/-- The members of a table that have been met.
-/
structure TableFields where
  logicalName : Option String := none
  displayName : Option String := none
  pluralName : Option String := none
  description : Option (Option String) := none
  primaryNameColumn : Option (Option String) := none
  columns : Option (List Column) := none

/-- Takes note of one member of a table.
-/
def TableFields.set (conventions : Conventions) (fields : TableFields) (key : String)
    (value : Document)
    : Decoded TableFields := do
  match key with
  | "logicalName" =>
    return { fields with logicalName := ← value.fill key fields.logicalName Document.text }
  | "displayName" =>
    return { fields with displayName := ← value.fill key fields.displayName Document.text }
  | "pluralName" =>
    return { fields with pluralName := ← value.fill key fields.pluralName Document.text }
  | "description" =>
    return { fields with
      description := ← value.fill key fields.description (Document.optional Document.text) }
  | "primaryNameColumn" =>
    return { fields with
      primaryNameColumn := ← value.fill key fields.primaryNameColumn
        (Document.optional Document.text) }
  | "columns" =>
    return { fields with
      columns := ← value.fill key fields.columns
        (Document.list (Column.ofDocument conventions)) }
  | _ =>
    value.ignore
    return fields

/-- The table of the members that have been met.
-/
def TableFields.table (fields : TableFields) : Decoded Table := do
  return {
    logicalName := ← present "logicalName" fields.logicalName
    displayName := ← present "displayName" fields.displayName
    pluralName := ← present "pluralName" fields.pluralName
    description := fields.description.getD none
    primaryNameColumn := fields.primaryNameColumn.getD none
    columns := fields.columns.getD []
  }

/-- A table that is written as a sequence.
-/
def Table.ofItems (conventions : Conventions) (items : Items) : Decoded Table := do
  let (logicalName, items) ← items.demand "Table" 6 0 Document.text
  let (displayName, items) ← items.demand "Table" 6 1 Document.text
  let (pluralName, items) ← items.demand "Table" 6 2 Document.text
  let (description, items) ← items.next (Document.optional Document.text)
  let (primaryNameColumn, items) ← items.next (Document.optional Document.text)
  let (columns, items) ← items.next (Document.list (Column.ofDocument conventions))
  items.finish conventions
  return {
    logicalName, displayName, pluralName
    description := description.getD none
    primaryNameColumn := primaryNameColumn.getD none
    columns := columns.getD []
  }

/-- A table.
-/
def Table.ofDocument (conventions : Conventions) : Document → Decoded Table
  | .mapping members => do (← members.collect (TableFields.set conventions) {}).table
  | .sequence items => Table.ofItems conventions items
  | other => .error (other.unexpected (.record "Table"))

/-- Takes note of one member of a schema, whose only field is its tables.
-/
def setTables (conventions : Conventions) (tables : Option (List Table)) (key : String)
    (value : Document)
    : Decoded (Option (List Table)) := do
  match key with
  | "tables" => value.fill key tables (Document.list (Table.ofDocument conventions))
  | _ =>
    value.ignore
    return tables

/-- A schema that is written as a sequence.
-/
def Schema.ofItems (conventions : Conventions) (items : Items) : Decoded Schema := do
  let (tables, items) ←
    items.demand "Schema" 1 0 (Document.list (Table.ofDocument conventions))
  items.finish conventions
  return { tables }

/-- A schema.
-/
def Schema.ofDocument (conventions : Conventions) : Document → Decoded Schema
  | .mapping members => do
    let tables ← present "tables" (← members.collect (setTables conventions) none)
    return { tables }
  | .sequence items => Schema.ofItems conventions items
  | other => .error (other.unexpected (.record "Schema"))

end Tablewright
