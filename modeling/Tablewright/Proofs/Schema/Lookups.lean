import Tablewright.Proofs.Schema.Encoding

/-! The relationships of a schema come from its lookup columns, one from each, and they are accepted
when they refer to known tables and have distinct names.
-/

namespace Tablewright

/-- The table that a lookup column refers to.
-/
def Column.lookupTarget? (column : Column) : Option String :=
  if column.type = ColumnType.lookup.declared then column.target else none

/-- The relationship that a column of a table gives rise to, if it is a lookup.
-/
def Column.relationship? (publisherPrefix table : String) (isPrimaryName : Bool)
    (column : Column)
    : Option Relationship :=
  column.lookupTarget?.map fun target => {
    name := Relationship.nameFor publisherPrefix target table column.logicalName
    referencingTable := table
    referencedTable := target
    referencingAttribute := column.logicalName
    displayName := column.displayName
    isRequired := isPrimaryName || column.required
  }

/-- The relationships that the columns of a table give rise to.
-/
def Table.relationships (publisherPrefix : String) (table : Table) : List Relationship :=
  table.columns.filterMap fun column =>
    column.relationship? publisherPrefix table.logicalName
      (column.logicalName == (PrimaryName.resolve table publisherPrefix).name)

-----------------------------------------------------------------------------------------
-- From columns to relationships
-----------------------------------------------------------------------------------------

/-- The attribute of a column refers to the table that the column refers to.
-/
theorem Attribute.lookupTarget?_of_ofColumn {table : String} {column : Column}
    {isPrimaryName : Bool} {attr : Attribute}
    (encoded : ofColumn table column isPrimaryName = .ok attr)
    : attr.lookupTarget? = column.lookupTarget? := by
  obtain ⟨type, shape, declared, _, determined, rfl⟩ := ofColumn_eq_ok_iff.mp encoded
  rw [Column.lookupTarget?, declared]
  cases Column.shapes_of_shape determined with
  | lookup refers =>
      rw [refers]
      rfl
  | _ => rfl

/-- The attribute of a column gives rise to the relationship of the column.
-/
theorem Relationship.ofAttribute?_of_ofColumn {publisherPrefix table : String}
    {entity : Entity} {column : Column} {isPrimaryName : Bool} {attr : Attribute}
    (encoded : Attribute.ofColumn table column isPrimaryName = .ok attr)
    : ofAttribute? publisherPrefix entity attr
      = column.relationship? publisherPrefix entity.logicalName isPrimaryName := by
  rw [Column.relationship?, ← Attribute.lookupTarget?_of_ofColumn encoded]
  obtain ⟨type, ⟨kind, _, _⟩, _, _, _, rfl⟩ := Attribute.ofColumn_eq_ok_iff.mp encoded
  rw [ofAttribute?, Column.requiredLevel_attribute_bne_optional]
  cases kind with
  | _ => rfl

/-- The attributes of columns give rise to the relationships of the columns.
-/
theorem Relationship.filterMap_ofAttribute? {publisherPrefix table primary : String}
    {entity : Entity} {columns : List Column} {attributes : List Attribute}
    (encoded : Entity.encodeColumns table primary columns = .ok attributes)
    : attributes.filterMap (ofAttribute? publisherPrefix entity)
      = columns.filterMap fun column =>
          column.relationship? publisherPrefix entity.logicalName
            (column.logicalName == primary) :=
  filterMap_eq_of_forall₂ (Entity.encodeColumns_eq_ok_iff.mp encoded)
    fun _ _ => ofAttribute?_of_ofColumn

/-- The columns that a table is encoded with have the relationships of the declared ones: a column
that is made up is no lookup.
-/
theorem Table.filterMap_allColumns (publisherPrefix : String) (table : Table)
    (primary : PrimaryName)
    : ((table.allColumns primary).filterMap fun column =>
        column.relationship? publisherPrefix table.logicalName
          (column.logicalName == primary.name))
      = table.columns.filterMap fun column =>
          column.relationship? publisherPrefix table.logicalName
            (column.logicalName == primary.name) := by
  rw [allColumns]
  split
  · rfl
  · rfl

/-- An encoded table has the relationships of its columns.
-/
theorem Relationship.filterMap_of_ofTable {publisherPrefix : String} {table : Table}
    {entity : Entity} (encoded : Entity.ofTable table publisherPrefix = .ok entity)
    : entity.attributes.filterMap (ofAttribute? publisherPrefix entity)
      = table.relationships publisherPrefix := by
  obtain ⟨attributes, _, columns, rfl⟩ := Entity.ofTable_eq_ok_iff.mp encoded
  exact (filterMap_ofAttribute? columns).trans
    (table.filterMap_allColumns publisherPrefix (PrimaryName.resolve table publisherPrefix))

/-- Encoded tables have the relationships of their columns, in the order of tables and columns.
-/
theorem Relationship.ofEntities_eq {publisherPrefix : String} {tables : List Table}
    {entities : List Entity} (encoded : Schema.entities publisherPrefix tables = .ok entities)
    : ofEntities publisherPrefix entities
      = tables.flatMap (Table.relationships publisherPrefix) :=
  flatMap_eq_of_forall₂ (Schema.entities_eq_ok_iff.mp encoded) fun _ _ => filterMap_of_ofTable

-----------------------------------------------------------------------------------------
-- Accepted relationships
-----------------------------------------------------------------------------------------

/-- Relationships are accepted when they refer to known tables and their names are fresh, and all of
them are kept in their order.
-/
theorem Relationship.accept_eq_ok_iff {known : List String}
    {accepted rest result : List Relationship}
    : accept known accepted rest = .ok result
      ↔ (∀ relationship ∈ rest, relationship.referencedTable ∈ known)
        ∧ Fresh (accepted.map (·.name)) (rest.map (·.name))
        ∧ result = accepted ++ rest := by
  induction rest generalizing accepted with
  | nil => simp [accept, eq_comm]
  | cons relationship rest ih =>
      simp only [accept, List.map_cons, fresh_cons_iff, List.forall_mem_cons]
      by_cases there : relationship.referencedTable ∈ known
      · cases found : accepted.find? fun other => other.name == relationship.name with
        | some first =>
            have repeated : relationship.name ∈ accepted.map (·.name) :=
              List.mem_map.mpr ⟨first, List.mem_of_find?_eq_some found,
                by simpa using List.find?_some found⟩
            simp [there, repeated]
        | none =>
            have new : relationship.name ∉ accepted.map (·.name) := by
              intro member
              obtain ⟨other, before, same⟩ := List.mem_map.mp member
              simpa [same] using List.find?_eq_none.mp found other before
            have order
                : Fresh (accepted.map (·.name) ++ [relationship.name]) (rest.map (·.name))
                  ↔ Fresh (relationship.name :: accepted.map (·.name)) (rest.map (·.name)) :=
              fresh_congr fun name => by simp [or_comm]
            simp [there, new, ih, order]
      · simp [there]

/-- The relationships of entities are accepted when they refer to these and have distinct names.
-/
theorem Relationship.discover_eq_ok_iff {entities : List Entity} {publisherPrefix : String}
    {result : List Relationship}
    : discover entities publisherPrefix = .ok result
      ↔ (∀ relationship ∈ ofEntities publisherPrefix entities,
          relationship.referencedTable ∈ entities.map (·.logicalName))
        ∧ ((ofEntities publisherPrefix entities).map (·.name)).Nodup
        ∧ result = ofEntities publisherPrefix entities := by
  rw [discover, accept_eq_ok_iff, List.map_nil, fresh_nil_left, List.nil_append]

end Tablewright
