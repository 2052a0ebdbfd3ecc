import Tablewright.Relationship.Plan
import Tablewright.Schema.Name

/-! Compiling a schema: the checks that concern it as a whole, its entities, their relationships
and the order in which they are created.
-/

namespace Tablewright

namespace Schema

/-- Checks that names are well formed and differ from those seen before.
-/
def checkTableNames (seen : List String) : List Table → Except SchemaError Unit
  | [] => .ok ()
  | table :: rest =>
    if !isLogicalName table.logicalName then
      .error (.invalidName table.logicalName table.logicalName)
    else if table.logicalName ∈ seen then
      .error (.duplicateTable table.logicalName)
    else
      checkTableNames (table.logicalName :: seen) rest

/-- Checks that a lookup refers to one of the tables.
-/
def checkTarget (tables : List String) (table : String) (column : Column)
    : Except SchemaError Unit :=
  if column.type.known? = some .lookup then
    match column.target with
    | none => .error (.missingTarget table column.logicalName)
    | some target =>
      if target ∈ tables then
        .ok ()
      else
        .error (.unknownTarget table column.logicalName target)
  else
    .ok ()

/-- Checks the columns of a table: names as for tables, and the targets of lookups.
-/
def checkColumns (tables : List String) (table : String) (seen : List String)
    : List Column → Except SchemaError Unit
  | [] => .ok ()
  | column :: rest =>
    if !isLogicalName column.logicalName then
      .error (.invalidName table column.logicalName)
    else if column.logicalName ∈ seen then
      .error (.duplicateColumn table column.logicalName)
    else do
      checkTarget tables table column
      checkColumns tables table (column.logicalName :: seen) rest

/-- Checks the columns of every table.
-/
def checkTables (tables : List String) : List Table → Except SchemaError Unit
  | [] => .ok ()
  | table :: rest => do
    checkColumns tables table.logicalName [] table.columns
    checkTables tables rest

/-- The names of the tables.
-/
def tableNames (schema : Schema) : List String :=
  schema.tables.map (·.logicalName)

/-- Checks a schema as a whole: first all tables' names, then their columns.
-/
def validate (schema : Schema) : Except SchemaError Unit := do
  checkTableNames [] schema.tables
  checkTables schema.tableNames schema.tables

/-- The entities of tables.
-/
def entities (publisherPrefix : String) : List Table → Except SchemaError (List Entity)
  | [] => .ok []
  | table :: rest => do
    let entity ← Entity.ofTable table publisherPrefix
    return entity :: (← entities publisherPrefix rest)

end Schema

/-- A schema that both outputs can be made from.
-/
structure CompiledSchema where
  entities : List Entity
  relationships : List Relationship
  plan : Plan
  deriving DecidableEq

namespace CompiledSchema

/-- The first entity of a name.
-/
def entity? (compiled : CompiledSchema) (logicalName : String) : Option Entity :=
  compiled.entities.find? fun entity => entity.logicalName == logicalName

/-- The first relationship of a name.
-/
def relationship? (compiled : CompiledSchema) (name : String) : Option Relationship :=
  compiled.relationships.find? fun relationship => relationship.name == name

/-- The lookup that a relationship comes from.
-/
def lookup? (compiled : CompiledSchema) (relationship : Relationship) : Option Attribute :=
  (compiled.entity? relationship.referencingTable).bind fun entity =>
    entity.find? relationship.referencingAttribute

end CompiledSchema

/-- Compiles a schema for a publisher. The first error ends the compilation.
-/
def Schema.compile (schema : Schema) (publisherPrefix : String)
    : Except SchemaError CompiledSchema := do
  schema.validate
  let entities ← entities publisherPrefix schema.tables
  let relationships ← Relationship.discover entities publisherPrefix
  let plan ← Dependencies.plan ⟨entities.map (·.logicalName), relationships⟩
  return ⟨entities, relationships, plan⟩

end Tablewright
