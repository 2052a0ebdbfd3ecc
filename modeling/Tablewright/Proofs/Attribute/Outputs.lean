import Tablewright.Proofs.Attribute.Descriptions
import Tablewright.Proofs.Provision.Turns

/-! The two outputs of a compiled schema describe the same model: each attribute has one place in
the plan, and its record and its body agree.
-/

namespace Tablewright

namespace CompiledSchema

/-- The relationships of the plan: those of its steps, then those that are put off.
-/
def planned (compiled : CompiledSchema) : List Relationship :=
  (compiled.plan.steps.flatMap (·.relationships) ++ compiled.plan.deferred).filterMap
    compiled.relationship?

/-- The relationships of the plan that come from an attribute of an entity.
-/
def owners (compiled : CompiledSchema) (entity : Entity) (attr : Attribute) : List Relationship :=
  compiled.planned.filter fun link => link.source == ⟨entity.logicalName, attr.logicalName⟩

/-- How an attribute of an entity comes into a live store: a plain one by itself, and a lookup with
exactly one relationship of the plan, which refers to the table that the lookup refers to.
-/
inductive Owned (compiled : CompiledSchema) (entity : Entity) (attr : Attribute) : Prop
  | plain (listed : attr ∈ entity.plainAttributes) (free : compiled.owners entity attr = [])
  | lookup (target : String) (kind : attr.kind = .lookup target) (link : Relationship)
    (alone : compiled.owners entity attr = [link])
    (refers : link.referencedTable = target)
    (found : compiled.lookup? link = some attr)

end CompiledSchema

-----------------------------------------------------------------------------------------
-- The relationships of the plan
-----------------------------------------------------------------------------------------

namespace CompiledSchema.Coherent

variable {compiled : CompiledSchema} (coherent : compiled.Coherent)
include coherent

/-- The relationships of the plan are all relationships, each of them once.
-/
theorem planned_perm : compiled.planned.Perm compiled.relationships := by
  -- Each name is planned once and stands for one relationship, so comparing members is enough.
  have once : compiled.planned.Nodup :=
    coherent.planned_nodup.filterMap fun name other link one two => by
      obtain ⟨_, rfl⟩ := (Provision.relationship?_eq_some_iff coherent).mp one
      exact ((Provision.relationship?_eq_some_iff coherent).mp two).2
  refine (List.perm_ext_iff_of_nodup once (List.Nodup.of_map _ coherent.relationships)).mpr ?_
  intro link
  constructor
  · intro planned
    obtain ⟨name, _, found⟩ := List.mem_filterMap.mp planned
    exact ((Provision.relationship?_eq_some_iff coherent).mp found).1
  · intro member
    have turn
        : link.name
          ∈ compiled.plan.steps.flatMap (·.relationships) ++ compiled.plan.deferred := by
      rcases Provision.exists_place coherent member with ⟨step, taken, placed⟩ | deferred
      · exact List.mem_append_left _ (List.mem_flatMap.mpr ⟨step, taken, placed⟩)
      · exact List.mem_append_right _ deferred
    exact List.mem_filterMap.mpr ⟨link.name, turn,
      (Provision.relationship?_eq_some_iff coherent).mpr ⟨member, rfl⟩⟩

/-- A relationship that comes from an attribute is the only owner of it.
-/
theorem owners_eq_singleton {entity : Entity} {attr : Attribute} {link : Relationship}
    (member : link ∈ compiled.relationships)
    (source : link.source = ⟨entity.logicalName, attr.logicalName⟩)
    : compiled.owners entity attr = [link] := by
  have distinct : (compiled.planned.map (·.source)).Nodup :=
    (coherent.planned_perm.map _).nodup_iff.mpr coherent.sources
  rw [owners, ← source]
  exact filter_key_eq_singleton distinct (coherent.planned_perm.mem_iff.mpr member)

/-- A plain attribute has no owner.
-/
theorem owners_eq_nil {entity : Entity} (listed : entity ∈ compiled.entities) {attr : Attribute}
    (plain : attr ∈ entity.plainAttributes)
    : compiled.owners entity attr = [] := by
  refine List.filter_eq_nil_iff.mpr fun link planned => ?_
  have member := coherent.planned_perm.mem_iff.mp planned
  simpa using coherent.source_ne_of_plain listed plain member

end CompiledSchema.Coherent

-----------------------------------------------------------------------------------------
-- Attributes of compiled schemas
-----------------------------------------------------------------------------------------

namespace CompiledSchema

variable {schema : Schema} {publisherPrefix : String} {compiled : CompiledSchema}
  (compiles : schema.compile publisherPrefix = .ok compiled)
include compiles

/-- Every attribute of a compiled schema is made from a column.
-/
theorem exists_ofColumn_of_compile {entity : Entity} (listed : entity ∈ compiled.entities)
    {attr : Attribute} (own : attr ∈ entity.attributes)
    : ∃ table column isPrimaryName,
        Attribute.ofColumn table column isPrimaryName = .ok attr := by
  obtain ⟨_, encoded, _, _⟩ := Schema.compile_eq_ok_iff.mp compiles
  obtain ⟨table, _, made⟩ := exists_mem_of_forall₂ (Schema.entities_eq_ok_iff.mp encoded) listed
  obtain ⟨column, _, found⟩ := Entity.exists_ofColumn_of_mem made own
  exact ⟨_, column, _, found⟩

/-- Every lookup of a compiled schema has a relationship.
-/
theorem exists_relationship_of_compile {entity : Entity} (listed : entity ∈ compiled.entities)
    {attr : Attribute} (own : attr ∈ entity.attributes) {target : String}
    (kind : attr.kind = .lookup target)
    : ∃ link ∈ compiled.relationships,
        link.source = ⟨entity.logicalName, attr.logicalName⟩
        ∧ link.referencedTable = target := by
  obtain ⟨_, _, accepted, _⟩ := Schema.compile_eq_ok_iff.mp compiles
  obtain ⟨_, _, found⟩ := Relationship.discover_eq_ok_iff.mp accepted
  obtain ⟨link, made, refers⟩
      : ∃ link,
          Relationship.ofAttribute? publisherPrefix entity attr = some link
          ∧ link.referencedTable = target :=
    ⟨_, by rw [Relationship.ofAttribute?, kind], rfl⟩
  refine ⟨link, ?_, (Relationship.source_of_ofAttribute? made).2, refers⟩
  rw [found]
  exact List.mem_flatMap.mpr ⟨entity, listed, List.mem_filterMap.mpr ⟨attr, own, made⟩⟩

/-- Every attribute of a compiled schema is plain or has exactly one owner.
-/
theorem owned_of_compile {entity : Entity} (listed : entity ∈ compiled.entities)
    {attr : Attribute} (own : attr ∈ entity.attributes)
    : compiled.Owned entity attr := by
  have coherent := coherent_of_compile compiles
  cases isLookup : attr.kind.isLookup with
  | false =>
      have plain : attr ∈ entity.plainAttributes :=
        List.mem_filter.mpr ⟨own, by rw [isLookup]; rfl⟩
      exact .plain plain (coherent.owners_eq_nil listed plain)
  | true =>
      obtain ⟨target, kind⟩ : ∃ target, attr.kind = .lookup target := by
        cases kind : attr.kind with
        | lookup target => exact ⟨target, rfl⟩
        | _ => simp [kind, AttributeKind.isLookup] at isLookup
      obtain ⟨link, member, source, refers⟩ :=
        exists_relationship_of_compile compiles listed own kind
      exact .lookup target kind link (coherent.owners_eq_singleton member source) refers
        (coherent.lookup?_eq_some listed own source)

/-- A package and provisioning describe the same model. Every attribute is plain or has exactly one
owner in the plan. What its record says and what its body says can be read off them, and they agree
but for the length of long text, the bounds of whole numbers, the default of a truth value and the
values of a choice.
Witness: the lookups of entities are the sources of the planned relationships, one each, and every
kind is written out as it is to be described.
-/
theorem outputs_agree {entity : Entity} (listed : entity ∈ compiled.entities)
    {attr : Attribute} (own : attr ∈ entity.attributes) (language : Nat)
    : compiled.Owned entity attr
      ∧ (AttributeRecord.ofAttribute attr).description? = some (attr.description .package)
      ∧ (Payload.attributeBody attr language).description?
        = some (attr.description .provision)
      ∧ (attr.description .package).Agrees (attr.description .provision) := by
  obtain ⟨table, column, _, made⟩ := exists_ofColumn_of_compile compiles listed own
  have fits := Attribute.fits_of_ofColumn made
  exact ⟨owned_of_compile compiles listed own, AttributeRecord.description?_ofAttribute fits,
    Payload.description?_attributeBody attr language, Attribute.description_agrees fits⟩

end CompiledSchema

/-- A library has kinds of books, whose options have other values in a package than in a live store.
-/
theorem outputs_agree_library
    : library.compile "x" = .ok libraryCompiled
      ∧ ∃ book ∈ libraryCompiled.entities,
          ∃ kind ∈ book.attributes,
            libraryCompiled.Owned book kind
            ∧ (AttributeRecord.ofAttribute kind).description?
              = some ⟨"kind", "Kind", .optional,
                  .choice [(100000000, "Fact & fiction"), (100000001, "'Other'")]⟩
            ∧ (Payload.attributeBody kind 1033).description?
              = some ⟨"kind", "Kind", .optional,
                  .choice [(1, "Fact & fiction"), (2, "'Other'")]⟩
            ∧ (kind.description .package).Agrees (kind.description .provision) := by
  refine ⟨library_compiles, _, .tail _ (.head _), _, .tail _ (.head _), ?_⟩
  exact CompiledSchema.outputs_agree library_compiles (.tail _ (.head _)) (.tail _ (.head _)) 1033

end Tablewright
