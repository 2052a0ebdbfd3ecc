import Tablewright.Proofs.Package.Words
import Tablewright.Proofs.Relationship.Groups
import Tablewright.Proofs.Schema.Coherence

/-! The documents of a package. Every document has a path of its own, so that none takes the place
of another.
-/

namespace Tablewright

-----------------------------------------------------------------------------------------
-- Paths
-----------------------------------------------------------------------------------------

namespace Package

/-- The path of a table's main document.
-/
def entityPath (table : String) : String :=
  "Entities/" ++ table ++ "/Entity.xml"

/-- The path of a table's command bar.
-/
def ribbonPath (table : String) : String :=
  "Entities/" ++ table ++ "/RibbonDiff.xml"

/-- The path of the relationships that refer to a table.
-/
def groupPath (table : String) : String :=
  "Other/Relationships/" ++ table ++ ".xml"

/-- The path of the list of relationships.
-/
def indexPath : String := "Other/Relationships.xml"

/-- The path of the customizations.
-/
def customizationsPath : String := "Other/Customizations.xml"

/-- The path of the manifest.
-/
def manifestPath : String := "Other/Solution.xml"

/-- The path of the types of files.
-/
def contentTypesPath : String := "[Content_Types].xml"

/-- The paths that every package has.
-/
def fixedPaths : List String :=
  [indexPath, customizationsPath, manifestPath, contentTypesPath]

/-- The paths of a package with some tables, to some of which relationships refer.
-/
def pathsOf (tables referenced : List String) : List String :=
  tables.flatMap (fun table => [entityPath table, ribbonPath table])
    ++ referenced.map groupPath ++ fixedPaths

/-- Texts that begin differently are different.
-/
theorem ne_of_starts {start other path second : String} (starts : start.toList <+: path.toList)
    (begins : other.toList <+: second.toList)
    (apart : ¬ start.toList <+: other.toList ∧ ¬ other.toList <+: start.toList)
    : path ≠ second := by
  rintro rfl
  rcases List.prefix_or_prefix_of_prefix starts begins with first | last
  · exact apart.1 first
  · exact apart.2 last

/-- A text begins with its first part.
-/
theorem starts_append (start rest : String) : start.toList <+: (start ++ rest).toList := by
  rw [String.toList_append]
  exact List.prefix_append _ _

/-- The documents of a table have different paths.
-/
theorem entityPath_ne_ribbonPath (table other : String)
    : entityPath table ≠ ribbonPath other := by
  intro same
  have ends : "/Entity.xml".toList <:+ (entityPath table).toList := by
    rw [entityPath, String.toList_append]
    exact List.suffix_append _ _
  have too : "/RibbonDiff.xml".toList <:+ (entityPath table).toList := by
    rw [same, ribbonPath, String.toList_append]
    exact List.suffix_append _ _
  rcases List.suffix_or_suffix_of_suffix ends too with first | last
  · exact absurd first (by decide)
  · exact absurd last (by decide)

/-- Different names are different between a beginning and an ending.
-/
theorem between_injective (start ending : String)
    : Function.Injective fun name => start ++ name ++ ending := by
  intro name other same
  have inner := (String.append_left_inj ending).mp same
  exact (String.append_right_inj start).mp inner

/-- Different tables have different main documents.
-/
theorem entityPath_injective : Function.Injective entityPath :=
  between_injective "Entities/" "/Entity.xml"

/-- Different tables have different documents of command bars.
-/
theorem ribbonPath_injective : Function.Injective ribbonPath :=
  between_injective "Entities/" "/RibbonDiff.xml"

/-- Different tables have different documents of relationships.
-/
theorem groupPath_injective : Function.Injective groupPath :=
  between_injective "Other/Relationships/" ".xml"

/-- The path of relationships begins so.
-/
theorem groupPath_starts (table : String)
    : "Other/Relationships/".toList <+: (groupPath table).toList :=
  (starts_append "Other/Relationships/" table).trans (starts_append _ ".xml")

/-- The paths of a table's documents begin so.
-/
theorem starts_of_mem_tablePaths {tables : List String} {path : String}
    (member : path ∈ tables.flatMap fun table => [entityPath table, ribbonPath table])
    : "Entities/".toList <+: path.toList := by
  obtain ⟨table, _, own⟩ := List.mem_flatMap.mp member
  have starts (ending : String)
      : "Entities/".toList <+: ("Entities/" ++ table ++ ending).toList :=
    (starts_append "Entities/" table).trans (starts_append _ ending)
  rcases List.mem_cons.mp own with rfl | last
  · exact starts "/Entity.xml"
  · exact List.mem_singleton.mp last ▸ starts "/RibbonDiff.xml"

/-- No fixed path is that of relationships that refer to a table.
-/
theorem groupPath_notMem_fixedPaths (table : String) : groupPath table ∉ fixedPaths := by
  intro fixed
  have others : ∀ path ∈ fixedPaths, ¬ "Other/Relationships/".toList <+: path.toList := by
    decide
  exact others _ fixed (groupPath_starts table)

/-- No path of a table's documents is that of relationships that refer to a table.
-/
theorem groupPath_notMem_tablePaths (tables : List String) (table : String)
    : groupPath table ∉ tables.flatMap fun other => [entityPath other, ribbonPath other] :=
  fun member =>
    ne_of_starts (groupPath_starts table) (starts_of_mem_tablePaths member) (by decide) rfl

/-- No fixed path is that of a table's document.
-/
theorem notMem_fixedPaths_of_mem_tablePaths {tables : List String} {path : String}
    (member : path ∈ tables.flatMap fun table => [entityPath table, ribbonPath table])
    : path ∉ fixedPaths := by
  intro fixed
  have others : ∀ path ∈ fixedPaths, ¬ "Entities/".toList <+: path.toList := by decide
  exact others _ fixed (starts_of_mem_tablePaths member)

/-- Paths differ when the tables do.
-/
theorem pathsOf_nodup {tables referenced : List String} (distinct : tables.Nodup)
    (too : referenced.Nodup)
    : (pathsOf tables referenced).Nodup := by
  rw [pathsOf, List.nodup_append, List.nodup_append, List.nodup_flatMap]
  refine ⟨⟨⟨?_, ?_⟩, too.map groupPath_injective, ?_⟩, by decide, ?_⟩
  · intro table _
    simp [entityPath_ne_ribbonPath]
  · refine distinct.imp fun {table other} different => ?_
    simp [List.disjoint_left, Function.onFun, entityPath_ne_ribbonPath,
      (entityPath_ne_ribbonPath _ _).symm, entityPath_injective.eq_iff,
      ribbonPath_injective.eq_iff, different]
  · intro path own other group same
    obtain ⟨table, _, rfl⟩ := List.mem_map.mp group
    exact groupPath_notMem_tablePaths tables table (same ▸ own)
  · intro path one other fixed same
    rcases List.mem_append.mp one with own | group
    · exact notMem_fixedPaths_of_mem_tablePaths own (same ▸ fixed)
    · obtain ⟨table, _, rfl⟩ := List.mem_map.mp group
      exact groupPath_notMem_fixedPaths table (same ▸ fixed)

/-- There are two paths for each table, one for each table that is referred to, and four others.
-/
theorem pathsOf_length (tables referenced : List String)
    : (pathsOf tables referenced).length = 2 * tables.length + referenced.length + 4 := by
  have pairs : (tables.flatMap fun table => [entityPath table, ribbonPath table]).length
      = 2 * tables.length := by
    induction tables with
    | nil => rfl
    | cons table rest ih =>
        rw [List.flatMap_cons, List.length_append, ih, List.length_cons]
        simp only [List.length_cons, List.length_nil]
        omega
  rw [pathsOf, List.length_append, List.length_append, pairs, List.length_map]
  rfl

end Package

-----------------------------------------------------------------------------------------
-- Documents
-----------------------------------------------------------------------------------------

namespace CompiledSchema

/-- The documents of a package have the paths of its tables and of those that are referred to.
-/
theorem documents_map_fst (compiled : CompiledSchema) (settings : Settings)
    : (compiled.documents settings).map (·.1)
      = Package.pathsOf (compiled.entities.map (·.logicalName))
          (Relationship.referencedTables compiled.relationships) := by
  rw [documents, List.map_append, List.map_append, List.map_flatMap, Package.pathsOf,
    List.flatMap_map, Relationship.groups_eq_map, List.map_map, List.map_map]
  rfl

/-- What documents there are: two for each entity, one for each table that relationships refer to,
and the fixed ones.
-/
theorem mem_documents_iff {compiled : CompiledSchema} {settings : Settings} {path : String}
    {node : Xml.Node}
    : (path, node) ∈ compiled.documents settings
      ↔ (∃ entity ∈ compiled.entities,
          path = Package.entityPath entity.logicalName
            ∧ node = entity.node settings.publisher.namePrefix
                (toString settings.package.languageCode)
          ∨ path = Package.ribbonPath entity.logicalName ∧ node = Entity.ribbonNode)
        ∨ (∃ table ∈ Relationship.referencedTables compiled.relationships,
            path = Package.groupPath table
            ∧ node = Relationship.groupNode (Relationship.group compiled.relationships table))
        ∨ (path, node) ∈ compiled.fixedDocuments settings := by
  rw [documents, List.mem_append, List.mem_append, or_assoc]
  refine or_congr ?_ (or_congr ?_ Iff.rfl)
  · rw [List.mem_flatMap]
    refine exists_congr fun entity => and_congr_right fun _ => ?_
    simp only [entityDocuments, List.mem_cons, List.not_mem_nil, or_false, Prod.mk.injEq,
      Package.entityPath, Package.ribbonPath]
  · rw [Relationship.groups_eq_map, List.map_map, List.mem_map]
    refine exists_congr fun table => and_congr_right fun _ => ?_
    constructor
    · intro same
      exact ⟨(congrArg Prod.fst same).symm, (congrArg Prod.snd same).symm⟩
    · rintro ⟨rfl, rfl⟩
      rfl

/-- The words of all documents are names.
-/
theorem named_of_mem_documents {compiled : CompiledSchema} {settings : Settings} {path : String}
    {node : Xml.Node} (member : (path, node) ∈ compiled.documents settings)
    : node.Named := by
  rcases mem_documents_iff.mp member with
    ⟨entity, _, ⟨_, rfl⟩ | ⟨_, rfl⟩⟩ | ⟨table, _, _, rfl⟩ | fixed
  · exact (entity.ordinary_node _ _).named
  · exact Xml.Node.every_of_all (by decide)
  · exact Relationship.named_groupNode _
  · simp only [fixedDocuments, List.mem_cons, Prod.mk.injEq, List.not_mem_nil, or_false] at fixed
    rcases fixed with ⟨_, rfl⟩ | ⟨_, rfl⟩ | ⟨_, rfl⟩ | ⟨_, rfl⟩
    · exact Relationship.named_indexNode _
    · exact (Solution.ordinary_customizationsNode _).named
    · exact (Solution.ordinary_manifestNode _ _ _ _).named
    · exact Solution.ordinary_contentTypesNode.named

section Distinct

variable {compiled : CompiledSchema} {settings : Settings}
variable (distinct : ((compiled.documents settings).map (·.1)).Nodup)
include distinct

/-- Where no two documents have one path, no two texts of documents have.
-/
theorem texts_nodup
    : (((compiled.documents settings).map fun (path, node) =>
        (path, node.document)).map (·.1)).Nodup := by
  rwa [List.map_map]

/-- Where no two documents have one path, a package has the text of each document at its path, and
nothing else.
-/
theorem package_get?_eq_some_iff {path text : String}
    : (compiled.package settings).get? path = some text
      ↔ ∃ node, (path, node) ∈ compiled.documents settings ∧ node.document = text := by
  rw [package, Package.get?, Index.get?_ofList_eq_some_iff (texts_nodup distinct), List.mem_map]
  simp [Prod.ext_iff]

end Distinct

namespace Coherent

variable {compiled : CompiledSchema} (coherent : compiled.Coherent) (settings : Settings)
include coherent

/-- No two documents have one path.
-/
theorem documents_nodup : ((compiled.documents settings).map (·.1)).Nodup := by
  rw [documents_map_fst]
  exact Package.pathsOf_nodup coherent.entities
    (Relationship.referencedTables_nodup compiled.relationships)

/-- A package has the text of each document at its path, and nothing else.
-/
theorem get?_eq_some_iff {path text : String}
    : (compiled.package settings).get? path = some text
      ↔ ∃ node, (path, node) ∈ compiled.documents settings ∧ node.document = text :=
  package_get?_eq_some_iff (coherent.documents_nodup settings)

/-- A package has a document at the two paths of each table, at that of each table that some
relationship refers to, and at the fixed ones.
-/
theorem exists_get?_iff {path : String}
    : (∃ text, (compiled.package settings).get? path = some text)
      ↔ (∃ table ∈ compiled.entities.map (·.logicalName),
          path = Package.entityPath table ∨ path = Package.ribbonPath table)
        ∨ (∃ relationship ∈ compiled.relationships,
            path = Package.groupPath relationship.referencedTable)
        ∨ path ∈ Package.fixedPaths := by
  have listed
      : (∃ text, (compiled.package settings).get? path = some text)
        ↔ path ∈ (compiled.documents settings).map (·.1) := by
    simp only [coherent.get?_eq_some_iff settings, List.mem_map, Prod.exists]
    constructor
    · rintro ⟨_, node, member, rfl⟩
      exact ⟨path, node, member, rfl⟩
    · rintro ⟨_, node, member, rfl⟩
      exact ⟨_, node, member, rfl⟩
  rw [listed, documents_map_fst, Package.pathsOf, List.mem_append, List.mem_append, or_assoc,
    List.mem_flatMap, List.mem_map]
  simp only [List.mem_cons, List.not_mem_nil, or_false, Relationship.mem_referencedTables_iff]
  refine or_congr Iff.rfl (or_congr ?_ Iff.rfl)
  constructor
  · rintro ⟨_, ⟨relationship, member, rfl⟩, rfl⟩
    exact ⟨relationship, member, rfl⟩
  · rintro ⟨relationship, member, rfl⟩
    exact ⟨_, ⟨relationship, member, rfl⟩, rfl⟩

/-- The paths of a package are those of its documents.
-/
theorem paths_perm
    : (compiled.package settings).paths.Perm
        (Package.pathsOf (compiled.entities.map (·.logicalName))
          (Relationship.referencedTables compiled.relationships)) := by
  rw [← documents_map_fst compiled settings]
  have entries := (Index.entries_ofList_perm
    (texts_nodup (coherent.documents_nodup settings))).map Prod.fst
  rwa [List.map_map] at entries

/-- A package has two documents for each table, one for each table that relationships refer to, and
four others.
-/
theorem size_eq
    : (compiled.package settings).size
      = 2 * compiled.entities.length
        + (Relationship.referencedTables compiled.relationships).length + 4 := by
  have paths := (coherent.paths_perm settings).length_eq
  rwa [Package.pathsOf_length, Package.paths, Index.names, List.length_map, List.length_map]
    at paths

end Coherent

end CompiledSchema

end Tablewright
