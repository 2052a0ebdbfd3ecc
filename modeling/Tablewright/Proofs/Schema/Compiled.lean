import Tablewright.Proofs.Dependencies.Tiers
import Tablewright.Proofs.Schema.Lookups
import Tablewright.Proofs.Schema.PrimaryNames
import Tablewright.Proofs.Schema.Validation

/-! What every compiled schema is like: nothing in it has the name of anything else of its kind, and
its plan follows the dependencies of its tables.
-/

namespace Tablewright

/-- The tables of a compiled schema with the relationships between them.
-/
def CompiledSchema.dependencies (compiled : CompiledSchema) : Dependencies :=
  ⟨compiled.entities.map (·.logicalName), compiled.relationships⟩

/-- A compiled schema in which names tell entities, the attributes of each and relationships apart,
and whose plan follows some tiers.
-/
structure CompiledSchema.WellFormed (compiled : CompiledSchema) : Prop where
  entities : (compiled.entities.map (·.logicalName)).Nodup
  attributes
    : ∀ entity ∈ compiled.entities, (entity.attributes.map (·.logicalName)).Nodup
  relationships : (compiled.relationships.map (·.name)).Nodup
  plan : ∃ tier, compiled.dependencies.Follows compiled.plan tier

-----------------------------------------------------------------------------------------
-- Compiling keeps names apart
-----------------------------------------------------------------------------------------

/-- Encoding keeps the names of columns.
-/
theorem Entity.encodeColumns_map_logicalName {table primary : String} {columns : List Column}
    {attributes : List Attribute}
    (encoded : encodeColumns table primary columns = .ok attributes)
    : attributes.map (·.logicalName) = columns.map (·.logicalName) := by
  refine map_eq_of_forall₂ (encodeColumns_eq_ok_iff.mp encoded) fun column attr made => ?_
  obtain ⟨_, _, _, _, _, rfl⟩ := Attribute.ofColumn_eq_ok_iff.mp made
  rfl

/-- The columns that a table is encoded with have distinct names when the declared ones have, since
a column is made up only under a name that no declared one has.
-/
theorem Table.allColumns_nodup {table : Table} {primary : PrimaryName}
    (distinct : (table.columns.map (·.logicalName)).Nodup)
    (free : primary.clash? table = none)
    : ((table.allColumns primary).map (·.logicalName)).Nodup := by
  rw [allColumns]
  split
  · rename_i made
    simp only [PrimaryName.clash?, made, find?_eq_none_iff] at free
    refine List.nodup_cons.mpr ⟨?_, distinct⟩
    intro member
    obtain ⟨column, declared, same⟩ := List.mem_map.mp member
    exact free column declared same
  · exact distinct

/-- The attributes of an encoded table have distinct names when its columns have.
-/
theorem Entity.attributes_nodup {table : Table} {publisherPrefix : String} {entity : Entity}
    (distinct : (table.columns.map (·.logicalName)).Nodup)
    (encoded : ofTable table publisherPrefix = .ok entity)
    : (entity.attributes.map (·.logicalName)).Nodup := by
  obtain ⟨attributes, free, columns, rfl⟩ := ofTable_eq_ok_iff.mp encoded
  change (attributes.map (·.logicalName)).Nodup
  rw [encodeColumns_map_logicalName columns]
  exact Table.allColumns_nodup distinct free

/-- Every compiled schema is well formed.
Witness: validation keeps the names of tables and columns apart, discovery those of relationships,
and a plan is always one that follows tiers.
-/
theorem CompiledSchema.wellFormed_of_compile {schema : Schema} {publisherPrefix : String}
    {compiled : CompiledSchema} (compiles : schema.compile publisherPrefix = .ok compiled)
    : compiled.WellFormed := by
  obtain ⟨valid, encoded, accepted, planned⟩ := Schema.compile_eq_ok_iff.mp compiles
  obtain ⟨distinct, tables⟩ := Schema.validate_eq_ok_iff.mp valid
  obtain ⟨_, names, found⟩ := Relationship.discover_eq_ok_iff.mp accepted
  refine ⟨?_, ?_, found ▸ names, ?_⟩
  · rw [Schema.entities_map_logicalName encoded]
    exact distinct
  · intro entity member
    obtain ⟨table, declared, made⟩ :=
      exists_mem_of_forall₂ (Schema.entities_eq_ok_iff.mp encoded) member
    exact Entity.attributes_nodup (tables table declared).2.1 made
  · obtain ⟨plan, tier, same, follows⟩ := compiled.dependencies.exists_plan
    have equal : plan = compiled.plan := Except.ok.inj (same.symm.trans planned)
    exact ⟨tier, equal ▸ follows⟩

-----------------------------------------------------------------------------------------
-- Finding things by their names
-----------------------------------------------------------------------------------------

/-- The entity of a declared table is found under the name of the table.
-/
theorem CompiledSchema.exists_entity_of_declared {schema : Schema} {publisherPrefix : String}
    {compiled : CompiledSchema} (compiles : schema.compile publisherPrefix = .ok compiled)
    {table : Table} (declared : table ∈ schema.tables)
    : ∃ entity,
        compiled.entity? table.logicalName = some entity
        ∧ Entity.ofTable table publisherPrefix = .ok entity := by
  obtain ⟨_, encoded, _, _⟩ := Schema.compile_eq_ok_iff.mp compiles
  have matched := (Schema.entities_eq_ok_iff.mp encoded).flip
  obtain ⟨entity, member, made⟩ := exists_mem_of_forall₂ matched declared
  refine ⟨entity, ?_, made⟩
  obtain ⟨_, _, _, rfl⟩ := Entity.ofTable_eq_ok_iff.mp made
  exact (find?_key_eq_some_iff (wellFormed_of_compile compiles).entities).mpr ⟨member, rfl⟩

namespace CompiledSchema.WellFormed

variable {compiled : CompiledSchema} (wellFormed : compiled.WellFormed)
include wellFormed

/-- The entity found under a name is the one that has it.
-/
theorem entity?_eq_some_iff {name : String} {entity : Entity}
    : compiled.entity? name = some entity
      ↔ entity ∈ compiled.entities ∧ entity.logicalName = name :=
  find?_key_eq_some_iff wellFormed.entities

/-- Every table has one step at most.
-/
theorem steps_nodup : (compiled.plan.steps.map (·.table)).Nodup := by
  obtain ⟨tier, follows⟩ := wellFormed.plan
  exact follows.tables_perm.nodup_iff.mpr wellFormed.entities

/-- Every relationship is planned at most once.
-/
theorem planned_nodup
    : (compiled.plan.steps.flatMap (·.relationships) ++ compiled.plan.deferred).Nodup := by
  obtain ⟨tier, follows⟩ := wellFormed.plan
  exact follows.relationships_nodup wellFormed.entities wellFormed.relationships

end CompiledSchema.WellFormed

end Tablewright
