import Tablewright.Proofs.Package.Documents
import Tablewright.Proofs.Schema.Reordering

/-! Schemas with their tables in another order describe the same model: only the manifest of a
package tells the order.
-/

namespace Tablewright

/-- The relationship that comes from a column.
-/
def CompiledSchema.relationshipOf? (compiled : CompiledSchema) (source : ColumnName)
    : Option Relationship :=
  compiled.relationships.find? fun relationship => relationship.source == source

/-- The manifest of a compiled schema. Its tables are components in their order.
-/
def CompiledSchema.manifest (compiled : CompiledSchema) (settings : Settings) : String :=
  (Solution.manifestNode settings.solution settings.publisher
    (toString settings.package.languageCode) (compiled.entities.map (·.logicalName))).document

/-- Compiled schemas that describe the same model. They have the same entity for each table, the
same relationship for each lookup, the same tier and the same turn for each table, put off the same
relationships and list all of them in the same order. Their packages have the same documents but for
the manifest, which has the same tables as components in another order.
-/
structure CompiledSchema.Agrees (compiled other : CompiledSchema) : Prop where
  entities : ∀ table, compiled.entity? table = other.entity? table
  relationships : ∀ source, compiled.relationshipOf? source = other.relationshipOf? source
  tiers : ∀ table, compiled.plan.tier? table = other.plan.tier? table
  turns : compiled.plan.steps.Perm other.plan.steps
  deferred : compiled.plan.deferred.Perm other.plan.deferred
  index
    : Relationship.sortedNames compiled.relationships
      = Relationship.sortedNames other.relationships
  documents
    : ∀ settings path,
        path ≠ Package.manifestPath
        → (compiled.package settings).get? path = (other.package settings).get? path
  manifest
    : ∀ settings,
        (compiled.package settings).get? Package.manifestPath = some (compiled.manifest settings)
        ∧ (other.package settings).get? Package.manifestPath = some (other.manifest settings)
  components
    : (compiled.entities.map (·.logicalName)).Perm (other.entities.map (·.logicalName))

/-- Tables in another order have the same documents, but for the manifest.
-/
theorem CompiledSchema.Reordered.mem_documents_iff {compiled other : CompiledSchema}
    (reordered : compiled.Reordered other)
    (distinct : (compiled.relationships.map (·.name)).Nodup) {settings : Settings}
    {path : String} {node : Xml.Node} (elsewhere : path ≠ Package.manifestPath)
    : (path, node) ∈ compiled.documents settings ↔ (path, node) ∈ other.documents settings := by
  have entities := reordered.entities.flatMap_right (entityDocuments settings)
  have fixed
      : (path, node) ∈ compiled.fixedDocuments settings
        ↔ (path, node) ∈ other.fixedDocuments settings := by
    simp only [fixedDocuments, List.mem_cons, Prod.mk.injEq, List.not_mem_nil, or_false,
      Relationship.sortedNames_eq_of_perm distinct reordered.relationships]
    have notHere : ¬ path = "Other/Solution.xml" := elsewhere
    simp only [notHere, false_and]
  rw [documents, documents, List.mem_append, List.mem_append, List.mem_append, List.mem_append,
    entities.mem_iff, fixed, Relationship.groups_eq_of_perm distinct reordered.relationships]

/-- A package has the manifest of its tables.
-/
theorem CompiledSchema.Coherent.get?_manifestPath {compiled : CompiledSchema}
    (coherent : compiled.Coherent) (settings : Settings)
    : (compiled.package settings).get? Package.manifestPath
      = some (compiled.manifest settings) :=
  (coherent.get?_eq_some_iff settings).mpr
    ⟨_, CompiledSchema.mem_documents_iff.mpr (.inr (.inr (.tail _ (.tail _ (.head _))))), rfl⟩

/-- Coherent schemas that differ in the order alone describe the same model.
-/
theorem CompiledSchema.Reordered.agrees {compiled other : CompiledSchema}
    (reordered : compiled.Reordered other) (coherent : compiled.Coherent)
    (too : other.Coherent)
    : compiled.Agrees other where
  entities table := find?_key_eq_of_perm coherent.entities reordered.entities table
  relationships source :=
    find?_key_eq_of_perm coherent.sources reordered.relationships source
  tiers table :=
    congrArg (Option.map _) (find?_key_eq_of_perm coherent.steps_nodup reordered.steps table)
  turns := reordered.steps
  deferred := reordered.deferred
  index := Relationship.sortedNames_eq_of_perm coherent.relationships reordered.relationships
  documents settings path elsewhere := by
    refine Option.ext fun text => ?_
    simp only [coherent.get?_eq_some_iff, too.get?_eq_some_iff,
      reordered.mem_documents_iff coherent.relationships elsewhere]
  manifest settings := ⟨coherent.get?_manifestPath settings, too.get?_manifestPath settings⟩
  components := reordered.entities.map _

/-- A schema compiles exactly when it does with its tables in another order, and both describe the
same model.
Witness: every phase of a compilation takes tables in any order, and what is listed by name or by
tier is determined by what is in it.
-/
theorem Schema.compile_reordered {schema other : Schema}
    (reordered : schema.tables.Perm other.tables) (publisherPrefix : String)
    : ((∃ compiled, schema.compile publisherPrefix = .ok compiled)
        ↔ ∃ compiled, other.compile publisherPrefix = .ok compiled)
      ∧ ∀ {compiled moved},
          schema.compile publisherPrefix = .ok compiled
          → other.compile publisherPrefix = .ok moved
          → compiled.Agrees moved := by
  refine ⟨⟨?_, ?_⟩, ?_⟩
  · rintro ⟨compiled, compiles⟩
    exact (exists_compile_of_perm reordered compiles).imp fun _ found => found.1
  · rintro ⟨compiled, compiles⟩
    exact (exists_compile_of_perm reordered.symm compiles).imp fun _ found => found.1
  · intro compiled moved compiles moves
    obtain ⟨_, again, same⟩ := exists_compile_of_perm reordered compiles
    obtain rfl := Except.ok.inj (again.symm.trans moves)
    exact same.agrees (CompiledSchema.coherent_of_compile compiles)
      (CompiledSchema.coherent_of_compile moves)

/-- A library compiles with its tables the other way round, to the same model.
-/
theorem compile_reordered_library
    : library.tables.Perm library.tables.reverse
      ∧ library.compile "x" = .ok libraryCompiled
      ∧ ∃ moved,
          Schema.compile ⟨library.tables.reverse⟩ "x" = .ok moved
          ∧ libraryCompiled.Agrees moved := by
  have backwards : library.tables.Perm library.tables.reverse := (List.reverse_perm _).symm
  obtain ⟨same, agree⟩ := Schema.compile_reordered backwards "x"
  obtain ⟨moved, moves⟩ := same.mp ⟨_, library_compiles⟩
  exact ⟨backwards, library_compiles, moved, moves, agree library_compiles moves⟩

end Tablewright
