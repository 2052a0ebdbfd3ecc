import Mathlib.Data.List.Perm.Basic
import Tablewright.Proofs.Dependencies.Reordering
import Tablewright.Proofs.Relationship.Groups
import Tablewright.Proofs.Schema.Coherence

/-! Schemas with their tables in another order: they compile as well, to the same entities and
relationships and to a plan of the same steps.
-/

namespace Tablewright

/-- Compiled schemas that are the same but for the order of what is in them.
-/
structure CompiledSchema.Reordered (compiled other : CompiledSchema) : Prop where
  entities : compiled.entities.Perm other.entities
  relationships : compiled.relationships.Perm other.relationships
  steps : compiled.plan.steps.Perm other.plan.steps
  deferred : compiled.plan.deferred.Perm other.plan.deferred

-----------------------------------------------------------------------------------------
-- The phases of a compilation
-----------------------------------------------------------------------------------------

/-- A schema is as valid with its tables in another order.
-/
theorem Schema.validate_of_perm {schema other : Schema}
    (reordered : schema.tables.Perm other.tables)
    (valid : schema.validate = .ok ())
    : other.validate = .ok () := by
  have names : schema.tableNames.Perm other.tableNames := reordered.map _
  obtain ⟨distinct, tables⟩ := validate_eq_ok_iff.mp valid
  refine validate_eq_ok_iff.mpr ⟨names.nodup_iff.mp distinct, fun table declared => ?_⟩
  obtain ⟨named, apart, columns⟩ := tables table (reordered.mem_iff.mpr declared)
  refine ⟨named, apart, fun column there => ?_⟩
  obtain ⟨fine, target⟩ := columns column there
  exact ⟨fine, fun lookup => (target lookup).imp fun _ found => found.imp_left names.mem_iff.mp⟩

/-- Tables in another order have the same entities, in that order.
-/
theorem Schema.exists_entities_of_perm {publisherPrefix : String} {tables others : List Table}
    (reordered : tables.Perm others) {found : List Entity}
    (encoded : entities publisherPrefix tables = .ok found)
    : ∃ moved, entities publisherPrefix others = .ok moved ∧ found.Perm moved := by
  obtain ⟨moved, matched, same⟩ :=
    List.perm_comp_forall₂ reordered.symm (entities_eq_ok_iff.mp encoded)
  exact ⟨moved, entities_eq_ok_iff.mpr matched, same.symm⟩

/-- Entities in another order have the same relationships.
-/
theorem Relationship.ofEntities_perm (publisherPrefix : String) {entities others : List Entity}
    (same : entities.Perm others)
    : (ofEntities publisherPrefix entities).Perm (ofEntities publisherPrefix others) :=
  same.flatMap_right _

/-- The relationships of entities in another order are accepted as well.
-/
theorem Relationship.discover_of_perm {publisherPrefix : String} {entities others : List Entity}
    (same : entities.Perm others) {found : List Relationship}
    (accepted : discover entities publisherPrefix = .ok found)
    : ∃ moved, discover others publisherPrefix = .ok moved ∧ found.Perm moved := by
  obtain ⟨known, distinct, rfl⟩ := discover_eq_ok_iff.mp accepted
  have relationships := ofEntities_perm publisherPrefix same
  refine ⟨_, discover_eq_ok_iff.mpr ⟨fun relationship member => ?_, ?_, rfl⟩, relationships⟩
  · exact (same.map _).mem_iff.mp (known relationship (relationships.mem_iff.mpr member))
  · exact (relationships.map _).nodup_iff.mp distinct

/-- The relationships of a table stand in the order of its attributes, wherever the table stands.
Witness: entities of distinct names, of which only one can have relationships that come from the
table.
-/
theorem Relationship.filter_ofEntities_of_perm {publisherPrefix : String}
    {entities others : List Entity} (distinct : (entities.map (·.logicalName)).Nodup)
    (same : entities.Perm others) (table : String) {keeps : Relationship → Bool}
    (own : ∀ relationship, keeps relationship = true → relationship.referencingTable = table)
    : (ofEntities publisherPrefix entities).filter keeps
      = (ofEntities publisherPrefix others).filter keeps := by
  rw [ofEntities, ofEntities, List.filter_flatMap, List.filter_flatMap]
  refine flatMap_eq_of_perm same fun entity listed other too some more => ?_
  have named {entity : Entity}
      (kept : (entity.attributes.filterMap (ofAttribute? publisherPrefix entity)).filter keeps
        ≠ [])
      : entity.logicalName = table := by
    obtain ⟨relationship, member⟩ := List.exists_mem_of_ne_nil _ kept
    obtain ⟨made, passes⟩ := List.mem_filter.mp member
    obtain ⟨attr, _, found⟩ := List.mem_filterMap.mp made
    have source := (ColumnName.mk.inj (source_of_ofAttribute? found).2).1
    exact source.symm.trans (own relationship passes)
  exact List.inj_on_of_nodup_map distinct listed too ((named some).trans (named more).symm)

-----------------------------------------------------------------------------------------
-- Compilations
-----------------------------------------------------------------------------------------

/-- A schema with its tables in another order compiles to the same but for the order.
-/
theorem Schema.exists_compile_of_perm {schema other : Schema} {publisherPrefix : String}
    (reordered : schema.tables.Perm other.tables) {compiled : CompiledSchema}
    (compiles : schema.compile publisherPrefix = .ok compiled)
    : ∃ moved, other.compile publisherPrefix = .ok moved ∧ compiled.Reordered moved := by
  have wellFormed := CompiledSchema.wellFormed_of_compile compiles
  obtain ⟨valid, encoded, accepted, _⟩ := compile_eq_ok_iff.mp compiles
  obtain ⟨entities, encodes, sameEntities⟩ := exists_entities_of_perm reordered encoded
  obtain ⟨relationships, accepts, sameRelationships⟩ :=
    Relationship.discover_of_perm sameEntities accepted
  obtain ⟨tier, follows⟩ := wellFormed.plan
  obtain ⟨plan, otherTier, planned, too⟩ :=
    Dependencies.exists_plan ⟨entities.map (·.logicalName), relationships⟩
  have same : compiled.dependencies.Reordered ⟨entities.map (·.logicalName), relationships⟩ :=
    ⟨sameEntities.map _, sameRelationships⟩
  refine ⟨⟨entities, relationships, plan⟩,
    compile_eq_ok_iff.mpr ⟨validate_of_perm reordered valid, encodes, accepts, planned⟩,
    sameEntities, sameRelationships, same.steps_perm follows too wellFormed.entities ?_, ?_⟩
  · funext table
    have found := (Relationship.discover_eq_ok_iff.mp accepted).2.2
    have moved := (Relationship.discover_eq_ok_iff.mp accepts).2.2
    rw [Dependencies.ownRelationships, Dependencies.ownRelationships, same.isCyclic_eq]
    refine congrArg (List.map _) ?_
    change compiled.relationships.filter _ = relationships.filter _
    rw [found, moved]
    refine Relationship.filter_ofEntities_of_perm wellFormed.entities sameEntities table
      fun relationship keeps => ?_
    exact eq_of_beq (Bool.and_eq_true_iff.mp keeps).1
  · rw [follows.deferred, too.deferred]
    exact same.deferred_perm

end Tablewright
