import Tablewright.Proofs.Dependencies.Tiers
import Tablewright.Proofs.Schema.Lookups
import Tablewright.Proofs.Schema.PrimaryNames
import Tablewright.Proofs.Schema.Validation

/-! Which schemas compile. Everything that the phases of a compilation check is gathered in one
description of acceptable schemas, and exactly these compile.
-/

namespace Tablewright

-----------------------------------------------------------------------------------------
-- Acceptable schemas
-----------------------------------------------------------------------------------------

/-- The names of the relationships that the lookup columns of a schema give rise to.
-/
def Schema.lookupNames (schema : Schema) (publisherPrefix : String) : List String :=
  schema.tables.flatMap fun table =>
    table.columns.filterMap fun column =>
      column.lookupTarget?.map fun target =>
        Relationship.nameFor publisherPrefix target table.logicalName column.logicalName

/-- A column that a schema with some tables may declare.
-/
structure Column.Acceptable (tables : List String) (column : Column) : Prop where
  name : IsLogicalName column.logicalName
  type : ∃ type : ColumnType, column.type = type.declared
  length : column.maxLength ≠ some 0
  target
    : column.type = ColumnType.lookup.declared
      → ∃ target ∈ tables, column.target = some target
  options
    : column.type = ColumnType.choice.declared
      → column.options ≠ [] ∧ column.effectiveValues.Nodup

/-- A table that a schema with some tables may declare. A column that an override names is text, and
no column has the name of a primary name that has to be made up.
-/
structure Table.Acceptable (publisherPrefix : String) (tables : List String) (table : Table)
    : Prop where
  name : IsLogicalName table.logicalName
  columns : ∀ column ∈ table.columns, column.Acceptable tables
  distinct : (table.columns.map (·.logicalName)).Nodup
  override
    : ∀ name,
        table.primaryNameColumn = some name
        → ∀ column ∈ table.columns,
            column.logicalName = name → column.type = ColumnType.string.declared
  synthesized
    : table.primaryNameColumn = none
      → (∀ column ∈ table.columns,
          column.logicalName ≠ publisherPrefix ++ "_name"
          ∧ column.type ≠ ColumnType.string.declared)
      → ∀ column ∈ table.columns, column.logicalName ≠ table.logicalName ++ "_name"

/-- A schema that compiles for a publisher: its tables are acceptable, and their names and those of
all relationships are distinct.
-/
structure Schema.Acceptable (publisherPrefix : String) (schema : Schema) : Prop where
  tables : ∀ table ∈ schema.tables, table.Acceptable publisherPrefix schema.tableNames
  distinct : schema.tableNames.Nodup
  lookups : (schema.lookupNames publisherPrefix).Nodup

-----------------------------------------------------------------------------------------
-- What the phases of a compilation check
-----------------------------------------------------------------------------------------

/-- A column is acceptable when its name and its target are and it can be encoded.
-/
theorem Column.acceptable_iff {tables : List String} {column : Column}
    : column.Acceptable tables
      ↔ (IsLogicalName column.logicalName
          ∧ (column.type = ColumnType.lookup.declared
              → ∃ target ∈ tables, column.target = some target))
        ∧ column.Encodable := by
  constructor
  · intro acceptable
    obtain ⟨name, type, length, target, options⟩ := acceptable
    exact ⟨⟨name, target⟩, type, length,
      fun lookup => (target lookup).imp fun _ found => found.2, options⟩
  · intro checked
    obtain ⟨⟨name, target⟩, type, length, _, options⟩ := checked
    exact ⟨name, type, length, target, options⟩

/-- A table is acceptable when it passes the checks of names and targets and can be encoded.
-/
theorem Table.acceptable_iff {publisherPrefix : String} {tables : List String} {table : Table}
    : table.Acceptable publisherPrefix tables
      ↔ (IsLogicalName table.logicalName
          ∧ (table.columns.map (·.logicalName)).Nodup
          ∧ ∀ column ∈ table.columns,
              IsLogicalName column.logicalName
              ∧ (column.type = ColumnType.lookup.declared
                  → ∃ target ∈ tables, column.target = some target))
        ∧ ∃ entity, Entity.ofTable table publisherPrefix = .ok entity := by
  rw [Entity.exists_ofTable_iff]
  constructor
  · intro acceptable
    obtain ⟨name, columns, distinct, override, synthesized⟩ := acceptable
    simp only [Column.acceptable_iff] at columns
    exact ⟨⟨name, distinct, fun column member => (columns column member).1⟩,
      (PrimaryName.clash?_resolve_eq_none_iff distinct).mpr ⟨override, synthesized⟩,
      fun column member => (columns column member).2⟩
  · intro checked
    obtain ⟨⟨name, distinct, columns⟩, free, encodable⟩ := checked
    obtain ⟨override, synthesized⟩ := (PrimaryName.clash?_resolve_eq_none_iff distinct).mp free
    exact ⟨name, fun column member =>
      Column.acceptable_iff.mpr ⟨columns column member, encodable column member⟩,
      distinct, override, synthesized⟩

/-- The relationships of a schema have the names that its lookups give rise to.
-/
theorem Schema.relationships_map_name (schema : Schema) (publisherPrefix : String)
    : (schema.tables.flatMap (Table.relationships publisherPrefix)).map (·.name)
      = schema.lookupNames publisherPrefix := by
  simp only [lookupNames, Table.relationships, Column.relationship?, List.map_flatMap,
    List.map_filterMap, Option.map_map, Function.comp_def]

/-- The relationships of a valid schema refer to its tables.
-/
theorem Schema.referencedTable_mem_tableNames {schema : Schema} (valid : schema.validate = .ok ())
    {publisherPrefix : String} {relationship : Relationship}
    (member : relationship ∈ schema.tables.flatMap (Table.relationships publisherPrefix))
    : relationship.referencedTable ∈ schema.tableNames := by
  obtain ⟨table, declared, own⟩ := List.mem_flatMap.mp member
  obtain ⟨column, there, found⟩ := List.mem_filterMap.mp own
  obtain ⟨target, refers, rfl⟩ := Option.map_eq_some_iff.mp found
  obtain ⟨lookup, referred⟩ := Option.ite_none_right_eq_some.mp refers
  obtain ⟨known, inTables, same⟩ :=
    ((validate_eq_ok_iff.mp valid).2 table declared).2.2 column there |>.2 lookup
  rw [referred] at same
  exact Option.some.inj same ▸ inTables

/-- Exactly the acceptable schemas compile.
-/
theorem Schema.compiles_iff_acceptable (schema : Schema) (publisherPrefix : String)
    : (∃ compiled, schema.compile publisherPrefix = .ok compiled)
      ↔ schema.Acceptable publisherPrefix := by
  constructor
  · intro succeeds
    obtain ⟨compiled, compiles⟩ := succeeds
    obtain ⟨valid, encoded, accepted, _⟩ := compile_eq_ok_iff.mp compiles
    obtain ⟨distinct, checked⟩ := validate_eq_ok_iff.mp valid
    have entities := exists_forall₂_iff.mp ⟨_, entities_eq_ok_iff.mp encoded⟩
    refine ⟨fun table member => ?_, distinct, ?_⟩
    · exact Table.acceptable_iff.mpr ⟨checked table member, entities table member⟩
    · rw [← relationships_map_name, ← Relationship.ofEntities_eq encoded]
      exact (Relationship.discover_eq_ok_iff.mp accepted).2.1
  · intro acceptable
    obtain ⟨tables, distinct, lookups⟩ := acceptable
    simp only [Table.acceptable_iff] at tables
    have valid := validate_eq_ok_iff.mpr
      ⟨distinct, fun table member => (tables table member).1⟩
    obtain ⟨entities, encodes⟩ := exists_forall₂_iff.mpr
      fun table member => (tables table member).2
    have encoded := entities_eq_ok_iff.mpr encodes
    have accepted : Relationship.discover entities publisherPrefix
        = .ok (Relationship.ofEntities publisherPrefix entities) := by
      refine Relationship.discover_eq_ok_iff.mpr ⟨?_, ?_, rfl⟩
      · rw [Relationship.ofEntities_eq encoded, entities_map_logicalName encoded]
        exact fun relationship => referencedTable_mem_tableNames valid
      · rw [Relationship.ofEntities_eq encoded, relationships_map_name]
        exact lookups
    obtain ⟨plan, _, planned, _⟩ := Dependencies.exists_plan
      ⟨entities.map (·.logicalName), Relationship.ofEntities publisherPrefix entities⟩
    exact ⟨⟨entities, _, plan⟩, compile_eq_ok_iff.mpr ⟨valid, encoded, accepted, planned⟩⟩

end Tablewright
