/-! Schemas: tables of typed columns, as their author declares them.
-/

namespace Tablewright

/-- The types that a column can have.
-/
inductive ColumnType
  | string
  | memo
  | integer
  | boolean
  | dateTime
  | dateOnly
  | lookup
  | choice
  deriving DecidableEq, Repr

namespace ColumnType

/-- Every column type.
-/
def all : List ColumnType :=
  [string, memo, integer, boolean, dateTime, dateOnly, lookup, choice]

/-- The name of a type in a schema document.
-/
def name : ColumnType → String
  | string => "String"
  | memo => "Memo"
  | integer => "Integer"
  | boolean => "Boolean"
  | dateTime => "DateTime"
  | dateOnly => "DateOnly"
  | lookup => "Lookup"
  | choice => "Choice"

/-- The type of a name.
-/
def ofName? (text : String) : Option ColumnType :=
  all.find? fun type => type.name == text

end ColumnType

/-- A column type as it is declared: by a name, which need not be the name of a type.
-/
structure TypeName where
  name : String
  deriving DecidableEq, Repr

/-- The type that a declared name stands for.
-/
def TypeName.known? (declared : TypeName) : Option ColumnType :=
  ColumnType.ofName? declared.name

/-- The declared name of a type.
-/
def ColumnType.declared (type : ColumnType) : TypeName :=
  ⟨type.name⟩

/-- One option of a choice: a label alone, or a label with the value it stands for.
-/
inductive ChoiceOption
  | bare (label : String)
  | explicit (value : Int32) (label : String)
  deriving DecidableEq

/-- The label of an option.
-/
def ChoiceOption.label : ChoiceOption → String
  | bare label => label
  | explicit _ label => label

/-- The value of an option, if it declares one.
-/
def ChoiceOption.value? : ChoiceOption → Option Int32
  | bare _ => none
  | explicit value _ => some value

/-- A declared column. `target` is the table that a lookup refers to; `defaultValue` is for truth
values.
-/
structure Column where
  logicalName : String
  displayName : String
  type : TypeName
  required : Bool := false
  maxLength : Option UInt32 := none
  options : List ChoiceOption := []
  target : Option String := none
  defaultValue : Option Bool := none
  deriving DecidableEq

namespace Column

/-- A column of a type, with nothing else declared.
-/
def ofType (logicalName displayName : String) (type : ColumnType) : Column :=
  { logicalName, displayName, type := type.declared }

/-- A column for short text.
-/
def string (logicalName displayName : String) : Column :=
  ofType logicalName displayName .string

/-- A column that refers to the records of a table.
-/
def lookup (logicalName displayName target : String) : Column :=
  { ofType logicalName displayName .lookup with target := some target }

/-- A column whose values are chosen among labels.
-/
def choice (logicalName displayName : String) (labels : List String) : Column :=
  { ofType logicalName displayName .choice with options := labels.map .bare }

/-- The column holds short text.
-/
def isString (column : Column) : Bool :=
  column.type.known? == some .string

end Column

/-- A declared table. `primaryNameColumn` overrides the choice of the column that names a record;
it may name a column that only the target store has.
-/
structure Table where
  logicalName : String
  displayName : String
  pluralName : String
  description : Option String := none
  primaryNameColumn : Option String := none
  columns : List Column := []
  deriving DecidableEq

/-- The first declared column of a name.
-/
def Table.find? (table : Table) (logicalName : String) : Option Column :=
  table.columns.find? fun column => column.logicalName == logicalName

/-- The tables of one model, in declaration order.
-/
structure Schema where
  tables : List Table
  deriving DecidableEq

/-- The first table of a name.
-/
def Schema.find? (schema : Schema) (logicalName : String) : Option Table :=
  schema.tables.find? fun table => table.logicalName == logicalName

end Tablewright
