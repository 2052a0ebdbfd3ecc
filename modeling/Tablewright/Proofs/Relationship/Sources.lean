import Tablewright.Proofs.Schema.Coherence

/-! Lookups and relationships of a compiled schema correspond one to one, in the order in which the
columns are declared, and each of them is found again by the names in the other.
-/

namespace Tablewright

/-- The column refers to the records of a table.
-/
def Column.isLookup (column : Column) : Bool :=
  column.type.known? == some .lookup

/-- The lookup columns of a schema, in the order of its tables and of their columns.
-/
def Schema.lookupColumns (schema : Schema) : List ColumnName :=
  schema.tables.flatMap fun table =>
    (table.columns.filter Column.isLookup).map fun column =>
      ⟨table.logicalName, column.logicalName⟩

/-- The lookups of an entity, in the order of its attributes.
-/
def Entity.lookups (entity : Entity) : List Attribute :=
  entity.attributes.filter fun attr => attr.kind.isLookup

namespace CompiledSchema

/-- The lookups of all entities, each with the entity that has it.
-/
def lookups (compiled : CompiledSchema) : List (Entity × Attribute) :=
  compiled.entities.flatMap fun entity => entity.lookups.map fun attr => (entity, attr)

/-- A relationship says what a lookup of an entity says, both of its tables are entities, and its
names lead back to the lookup and to itself.
-/
structure Corresponds (compiled : CompiledSchema) (place : Entity × Attribute)
    (link : Relationship)
    : Prop where
  table : link.referencingTable = place.1.logicalName
  column : link.referencingAttribute = place.2.logicalName
  target : place.2.kind = .lookup link.referencedTable
  displayName : link.displayName = place.2.displayName
  isRequired : link.isRequired = true ↔ place.2.requiredLevel ≠ .optional
  referencing : compiled.entity? link.referencingTable = some place.1
  referenced : ∃ entity, compiled.entity? link.referencedTable = some entity
  lookup : place.1.find? link.referencingAttribute = some place.2
  relationship : compiled.relationship? link.name = some link

end CompiledSchema

-----------------------------------------------------------------------------------------
-- Lookup columns and lookups
-----------------------------------------------------------------------------------------

/-- The attribute of a column is a lookup exactly when the column is declared as one.
-/
theorem Attribute.isLookup_of_ofColumn {table : String} {column : Column}
    {isPrimaryName : Bool} {attr : Attribute}
    (encoded : ofColumn table column isPrimaryName = .ok attr)
    : attr.kind.isLookup = column.isLookup := by
  obtain ⟨type, shape, declared, _, determined, rfl⟩ := ofColumn_eq_ok_iff.mp encoded
  rw [Column.isLookup, declared, TypeName.known?_declared]
  cases Column.shapes_of_shape determined with
  | _ => rfl

/-- Encoding keeps the names of lookup columns, in their order.
-/
theorem Entity.encodeColumns_lookups {table primary : String} {columns : List Column}
    {attributes : List Attribute}
    (encoded : encodeColumns table primary columns = .ok attributes)
    : (attributes.filter fun attr => attr.kind.isLookup).map (·.logicalName)
      = (columns.filter Column.isLookup).map (·.logicalName) := by
  rw [← List.filterMap_eq_map, ← List.filterMap_eq_map, List.filterMap_filter,
    List.filterMap_filter]
  refine filterMap_eq_of_forall₂ (encodeColumns_eq_ok_iff.mp encoded) fun column attr made => ?_
  rw [Attribute.isLookup_of_ofColumn made]
  obtain ⟨_, _, _, _, _, rfl⟩ := Attribute.ofColumn_eq_ok_iff.mp made
  rfl

/-- An encoded table has the lookups of its columns, under the name of the table and in their order.
-/
theorem Entity.lookups_of_ofTable {table : Table} {publisherPrefix : String} {entity : Entity}
    (encoded : ofTable table publisherPrefix = .ok entity)
    : (entity.lookups.map fun attr => ColumnName.mk entity.logicalName attr.logicalName)
      = (table.columns.filter Column.isLookup).map fun column =>
          ⟨table.logicalName, column.logicalName⟩ := by
  obtain ⟨attributes, _, columns, rfl⟩ := ofTable_eq_ok_iff.mp encoded
  have names := encodeColumns_lookups columns
  rw [table.filter_allColumns _ rfl] at names
  have named := congrArg (List.map (ColumnName.mk table.logicalName)) names
  rwa [List.map_map, List.map_map] at named

/-- Encoded tables have the lookups of their columns, in the order of tables and columns.
-/
theorem Schema.lookups_of_entities {publisherPrefix : String} {tables : List Table}
    {found : List Entity} (encoded : entities publisherPrefix tables = .ok found)
    : (found.flatMap fun entity =>
        entity.lookups.map fun attr => ColumnName.mk entity.logicalName attr.logicalName)
      = tables.flatMap fun table =>
          (table.columns.filter Column.isLookup).map fun column =>
            ⟨table.logicalName, column.logicalName⟩ :=
  flatMap_eq_of_forall₂ (entities_eq_ok_iff.mp encoded) fun _ _ => Entity.lookups_of_ofTable

-----------------------------------------------------------------------------------------
-- Lookups and relationships
-----------------------------------------------------------------------------------------

/-- Exactly lookups give rise to relationships.
-/
theorem Relationship.isSome_ofAttribute? (publisherPrefix : String) (entity : Entity)
    (attr : Attribute)
    : (ofAttribute? publisherPrefix entity attr).isSome = attr.kind.isLookup := by
  rw [ofAttribute?]
  cases attr.kind with
  | _ => rfl

/-- The lookups of an entity and the relationships of its attributes match one by one.
-/
theorem Relationship.forall₂_attributes {publisherPrefix : String} {entity : Entity}
    (attributes : List Attribute)
    : List.Forall₂
        (fun place link => ofAttribute? publisherPrefix place.1 place.2 = some link)
        ((attributes.filter fun attr => attr.kind.isLookup).map fun attr => (entity, attr))
        (attributes.filterMap (ofAttribute? publisherPrefix entity)) := by
  induction attributes with
  | nil => exact .nil
  | cons attr rest ih =>
      have lookup := isSome_ofAttribute? publisherPrefix entity attr
      cases made : ofAttribute? publisherPrefix entity attr with
      | none =>
          rw [made, Option.isSome_none] at lookup
          rw [List.filterMap_cons_none made, List.filter_cons_of_neg (by simp [← lookup])]
          exact ih
      | some link =>
          rw [made, Option.isSome_some] at lookup
          rw [List.filterMap_cons_some made, List.filter_cons_of_pos (by simp [← lookup])]
          exact .cons made ih

/-- The lookups of entities and their relationships match one by one.
-/
theorem Relationship.forall₂_entities (publisherPrefix : String) (entities : List Entity)
    : List.Forall₂
        (fun place link => ofAttribute? publisherPrefix place.1 place.2 = some link)
        (entities.flatMap fun entity => entity.lookups.map fun attr => (entity, attr))
        (ofEntities publisherPrefix entities) := by
  induction entities with
  | nil => exact .nil
  | cons entity rest ih =>
      rw [ofEntities, List.flatMap_cons, List.flatMap_cons]
      exact List.rel_append (forall₂_attributes entity.attributes) ih

-----------------------------------------------------------------------------------------
-- Compiled schemas
-----------------------------------------------------------------------------------------

namespace CompiledSchema

variable {schema : Schema} {publisherPrefix : String} {compiled : CompiledSchema}
  (compiles : schema.compile publisherPrefix = .ok compiled)
include compiles

/-- The lookups of a compiled schema are its lookup columns, in the order of their declaration.
-/
theorem lookups_map_name
    : (compiled.lookups.map fun place => ColumnName.mk place.1.logicalName place.2.logicalName)
      = schema.lookupColumns := by
  obtain ⟨_, encoded, _, _⟩ := Schema.compile_eq_ok_iff.mp compiles
  have same := Schema.lookups_of_entities encoded
  simpa only [lookups, Schema.lookupColumns, List.map_flatMap, List.map_map, Function.comp_def]
    using same

/-- A relationship that a lookup of an entity gives rise to corresponds to it.
-/
theorem corresponds_of_ofAttribute? {place : Entity × Attribute} (listed : place ∈ compiled.lookups)
    {link : Relationship}
    (made : Relationship.ofAttribute? publisherPrefix place.1 place.2 = some link)
    : compiled.Corresponds place link := by
  have coherent := coherent_of_compile compiles
  obtain ⟨_, _, accepted, _⟩ := Schema.compile_eq_ok_iff.mp compiles
  obtain ⟨_, _, found⟩ := Relationship.discover_eq_ok_iff.mp accepted
  obtain ⟨entity, there, own⟩ := List.mem_flatMap.mp listed
  obtain ⟨attr, lookup, rfl⟩ := List.mem_map.mp own
  have mine := List.mem_of_mem_filter lookup
  have member : link ∈ compiled.relationships := by
    rw [found]
    exact List.mem_flatMap.mpr ⟨entity, there, List.mem_filterMap.mpr ⟨attr, mine, made⟩⟩
  obtain ⟨target, listedTarget, referred⟩ := coherent.targets link member
  have itself : compiled.relationship? link.name = some link :=
    (find?_key_eq_some_iff coherent.relationships).mpr ⟨member, rfl⟩
  rw [Relationship.ofAttribute?] at made
  split at made
  · rename_i kind
    cases made
    exact {
      table := rfl
      column := rfl
      target := kind
      displayName := rfl
      isRequired := bne_iff_ne
      referencing := coherent.entity?_eq_some_iff.mpr ⟨there, rfl⟩
      referenced := ⟨target, coherent.entity?_eq_some_iff.mpr ⟨listedTarget, referred⟩⟩
      lookup := (find?_key_eq_some_iff (coherent.attributes entity there)).mpr ⟨mine, rfl⟩
      relationship := itself
    }
  · cases made

/-- Relationships and lookups correspond one to one. The lookups are those that the schema
declares, in their order; the relationships match them one by one and have distinct names.
Witness: relationships are made from the attributes in their order, and the names of entities,
attributes and relationships are distinct, so that looking them up finds what they belong to.
-/
theorem lookups_correspond
    : (compiled.lookups.map fun place =>
          ColumnName.mk place.1.logicalName place.2.logicalName)
        = schema.lookupColumns
      ∧ List.Forall₂ compiled.Corresponds compiled.lookups compiled.relationships
      ∧ (compiled.relationships.map (·.name)).Nodup := by
  refine ⟨lookups_map_name compiles, ?_, (wellFormed_of_compile compiles).relationships⟩
  obtain ⟨_, _, accepted, _⟩ := Schema.compile_eq_ok_iff.mp compiles
  obtain ⟨_, _, found⟩ := Relationship.discover_eq_ok_iff.mp accepted
  have matched := Relationship.forall₂_entities publisherPrefix compiled.entities
  rw [← found] at matched
  have placed := (List.forall₂_and_left _ _).mpr ⟨fun place listed => listed, matched⟩
  exact placed.imp fun place link made =>
    corresponds_of_ofAttribute? compiles made.1 made.2

end CompiledSchema

/-- The library has three lookups in two tables, one of which refers to its own table.
-/
theorem lookups_correspond_library
    : library.compile "x" = .ok libraryCompiled
      ∧ library.lookupColumns
        = [⟨"loan", "bookid"⟩, ⟨"loan", "readerid"⟩, ⟨"person", "adviserid"⟩]
      ∧ (libraryCompiled.lookups.map fun place =>
            ColumnName.mk place.1.logicalName place.2.logicalName)
          = library.lookupColumns
        ∧ List.Forall₂ libraryCompiled.Corresponds libraryCompiled.lookups
            libraryCompiled.relationships
        ∧ (libraryCompiled.relationships.map (·.name)).Nodup :=
  ⟨library_compiles, rfl, CompiledSchema.lookups_correspond library_compiles⟩

end Tablewright
