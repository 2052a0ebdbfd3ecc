import Tablewright.Attribute.Encode
import Tablewright.Entity.Primary

/-! Entities: tables with their attributes and their primary name.
-/

namespace Tablewright

/-- A table as the outputs see it.
-/
structure Entity where
  logicalName : String
  displayName : String
  pluralName : String
  description : String
  setName : String
  primary : PrimaryName
  attributes : List Attribute
  deriving DecidableEq

/-- The name of a table's set of records: the table's name in the plural.
-/
def entitySetName (logicalName : String) : String :=
  if logicalName.toList.getLast? = some 's' then logicalName ++ "es" else logicalName ++ "s"

namespace Entity

/-- The attributes of columns, of which the primary name is marked.
-/
def encodeColumns (table : String) (primary : String)
    : List Column → Except SchemaError (List Attribute)
  | [] => .ok []
  | column :: rest => do
    let attr ← Attribute.ofColumn table column (column.logicalName == primary)
    let attributes ← encodeColumns table primary rest
    return attr :: attributes

/-- The entity of a table.
-/
def ofTable (table : Table) (publisherPrefix : String) : Except SchemaError Entity := do
  let primary := PrimaryName.resolve table publisherPrefix
  let columns ← primary.columns table
  let attributes ← encodeColumns table.logicalName primary.name columns
  return {
    logicalName := table.logicalName
    displayName := table.displayName
    pluralName := table.pluralName
    description := table.description.getD (table.displayName ++ " table")
    setName := entitySetName table.logicalName
    primary
    attributes
  }

/-- The attribute that is marked as the primary name. An override may name a column that only the
target store has, and then there is none.
-/
def primaryAttribute? (entity : Entity) : Option Attribute :=
  entity.attributes.find? Attribute.isPrimaryName

/-- The primary name attribute that a new table is made with.
-/
def creationPrimary (entity : Entity) : Attribute :=
  entity.primaryAttribute?.getD (.naming entity.primary.name (entity.displayName ++ " Name"))

/-- The first attribute of a name.
-/
def find? (entity : Entity) (logicalName : String) : Option Attribute :=
  entity.attributes.find? fun attr => attr.logicalName == logicalName

/-- The attributes that are columns of their own; lookups come with their relationships.
-/
def plainAttributes (entity : Entity) : List Attribute :=
  entity.attributes.filter fun attr => !attr.kind.isLookup

end Entity

end Tablewright
