import Tablewright.Entity.Basic
import Tablewright.Index
import Tablewright.Schema.Name

/-! Relationships: every lookup refers from many records of its table to one of its target.
-/

namespace Tablewright

/-- A relationship from a table to the table it refers to.
-/
structure Relationship where
  name : String
  referencingTable : String
  referencedTable : String
  referencingAttribute : String
  displayName : String
  isRequired : Bool
  deriving DecidableEq

namespace Relationship

/-- The table refers to itself.
-/
def isSelfReference (relationship : Relationship) : Bool :=
  relationship.referencingTable == relationship.referencedTable

/-- The name of a relationship, from the short names of its parts.
-/
def nameFor (publisherPrefix referenced referencing attr : String) : String :=
  publisherPrefix ++ "_" ++ shortName publisherPrefix referenced ++ "_"
    ++ shortName publisherPrefix referencing ++ "_" ++ shortName publisherPrefix attr

/-- The column that a relationship comes from.
-/
def source (relationship : Relationship) : ColumnName :=
  ⟨relationship.referencingTable, relationship.referencingAttribute⟩

/-- The relationship of an attribute, if that is a lookup.
-/
def ofAttribute? (publisherPrefix : String) (entity : Entity) (attr : Attribute)
    : Option Relationship :=
  match attr.kind with
  | .lookup target => some {
      name := nameFor publisherPrefix target entity.logicalName attr.logicalName
      referencingTable := entity.logicalName
      referencedTable := target
      referencingAttribute := attr.logicalName
      displayName := attr.displayName
      isRequired := attr.requiredLevel != .optional
    }
  | _ => none

/-- The relationships of all lookups, in the order of entities and attributes.
-/
def ofEntities (publisherPrefix : String) (entities : List Entity) : List Relationship :=
  entities.flatMap fun entity =>
    entity.attributes.filterMap (ofAttribute? publisherPrefix entity)

/-- Checks relationships one by one: each refers to a known table and has a name that none of the
accepted ones has.
-/
def accept (known : List String) (accepted : List Relationship)
    : List Relationship → Except SchemaError (List Relationship)
  | [] => .ok accepted
  | relationship :: rest =>
    if relationship.referencedTable ∈ known then
      match accepted.find? fun other => other.name == relationship.name with
      | some first =>
        .error (.duplicateRelationship relationship.name first.source relationship.source)
      | none => accept known (accepted ++ [relationship]) rest
    else
      .error (.unknownTarget relationship.referencingTable relationship.referencingAttribute
        relationship.referencedTable)

/-- The relationships of all lookups, checked.
-/
def discover (entities : List Entity) (publisherPrefix : String)
    : Except SchemaError (List Relationship) :=
  accept (entities.map (·.logicalName)) [] (ofEntities publisherPrefix entities)

/-- Relationships in the order of their names.
-/
def sortByName (relationships : List Relationship) : List Relationship :=
  relationships.mergeSort fun a b => decide (a.name ≤ b.name)

/-- The tables that relationships refer to, each once and in the order of their names.
-/
def referencedTables (relationships : List Relationship) : List String :=
  (relationships.foldl (fun names relationship => NameSet.add relationship.referencedTable names)
    (Index.empty : NameSet)).names

/-- The relationships by the table they refer to, tables and relationships in the order of their
names.
-/
def groups (relationships : List Relationship) : List (String × List Relationship) :=
  (referencedTables relationships).map fun table =>
    (table, sortByName (relationships.filter fun relationship =>
      relationship.referencedTable == table))

/-- The names of relationships, in order.
-/
def sortedNames (relationships : List Relationship) : List String :=
  (relationships.map (·.name)).mergeSort fun a b => decide (a ≤ b)

end Relationship

end Tablewright
