import Tablewright.Entity.Document
import Tablewright.Proofs.Schema.Coherence

/-! The names of an entity's records: the system adds attributes of its own to every table, and
nothing is defined twice unless a declared column has the name of one of these.
-/

namespace Tablewright

/-- The names of the system attributes that all tables have.
-/
def sharedSystemNames : List String :=
  [
    "createdby", "createdon", "createdonbehalfby", "modifiedby", "modifiedon",
    "modifiedonbehalfby", "overriddencreatedon", "importsequencenumber",
    "timezoneruleversionnumber", "utcconversiontimezonecode", "statecode", "statuscode"
  ]

/-- The names of a table's system attributes: that of its key, and the shared ones.
-/
def systemNames (table : String) : List String :=
  Text.lower (table ++ "id") :: sharedSystemNames

-----------------------------------------------------------------------------------------
-- Names of the system
-----------------------------------------------------------------------------------------

/-- The records of the system have the system's names.
-/
theorem AttributeRecord.systemRecords_map_logicalName (table publisherPrefix : String)
    : (systemRecords table publisherPrefix).map (·.logicalName) = systemNames table := by
  have shared
      : ["CreatedBy", "CreatedOn", "CreatedOnBehalfBy", "ModifiedBy", "ModifiedOn",
          "ModifiedOnBehalfBy", "OverriddenCreatedOn", "ImportSequenceNumber",
          "TimeZoneRuleVersionNumber", "UTCConversionTimeZoneCode", "statecode",
          "statuscode"].map Text.lower
        = sharedSystemNames := by
    decide +kernel
  rw [systemNames, ← shared]
  rfl

/-- Lower-casing keeps a small letter at the end of a text.
-/
theorem Text.exists_lowerFrom_append (before text : List Char)
    : ∃ start, lowerFrom before (text ++ ['d']) = start ++ ['d'] := by
  have small : lowerChar 'd' = ['d'] := by decide +kernel
  induction text generalizing before with
  | nil => exact ⟨[], by simp [lowerFrom, small]⟩
  | cons c rest ih =>
      obtain ⟨start, lowered⟩ := ih (c :: before)
      rw [List.cons_append, lowerFrom, lowered, ← List.append_assoc]
      exact ⟨_, rfl⟩

/-- The name of a table's key ends in a letter that no other system name ends in.
-/
theorem getLast?_keyName (table : String)
    : (Text.lower (table ++ "id")).toList.getLast? = some 'd' := by
  obtain ⟨start, lowered⟩ := Text.exists_lowerFrom_append [] (table.toList ++ ['i'])
  have spelled : (table ++ "id").toList = table.toList ++ ['i'] ++ ['d'] := by
    rw [String.toList_append, List.append_assoc]
    rfl
  rw [Text.lower, String.toList_ofList, spelled, lowered, List.getLast?_concat]

/-- The system's names are distinct.
-/
theorem systemNames_nodup (table : String) : (systemNames table).Nodup := by
  refine List.nodup_cons.mpr ⟨fun member => ?_, by decide⟩
  have others : sharedSystemNames.all (fun name => name.toList.getLast? != some 'd') = true := by
    decide
  have different := List.all_eq_true.mp others _ member
  rw [getLast?_keyName] at different
  cases different

/-- A primary name that is made up is none of the system's names.
-/
theorem synthesizedName_notMem_systemNames (table : Table)
    : synthesizedName table ∉ systemNames table.logicalName := by
  have spelled : (synthesizedName table).toList = table.logicalName.toList ++ "_name".toList :=
    String.toList_append ..
  intro member
  rcases List.mem_cons.mp member with key | shared
  · have last := getLast?_keyName table.logicalName
    rw [← key, spelled, List.getLast?_append] at last
    cases last
  · have others : sharedSystemNames.all (fun name => !name.toList.contains '_') = true := by decide
    have free := List.all_eq_true.mp others _ shared
    rw [spelled] at free
    simp at free

-----------------------------------------------------------------------------------------
-- Records of entities
-----------------------------------------------------------------------------------------

/-- The records of an entity have the names of its attributes, and then those of the system.
-/
theorem Entity.records_map_logicalName (entity : Entity) (publisherPrefix : String)
    : (entity.records publisherPrefix).map (·.logicalName)
      = entity.attributes.map (·.logicalName) ++ systemNames entity.logicalName := by
  rw [records, List.map_append, AttributeRecord.systemRecords_map_logicalName, List.map_map]
  rfl

/-- The columns that a table is encoded with avoid the system's names when the declared ones do.
-/
theorem Table.allColumns_avoid_iff (table : Table) (publisherPrefix : String)
    : (∀ column ∈ table.allColumns (PrimaryName.resolve table publisherPrefix),
        column.logicalName ∉ systemNames table.logicalName)
      ↔ ∀ column ∈ table.columns, column.logicalName ∉ systemNames table.logicalName := by
  rw [allColumns]
  split
  · rename_i made
    refine List.forall_mem_cons.trans (and_iff_right ?_)
    change (PrimaryName.resolve table publisherPrefix).name ∉ _
    rw [PrimaryName.name_of_synthesized made]
    exact synthesizedName_notMem_systemNames table
  · rfl

/-- The records of an encoded table have distinct names exactly when no declared column has a name
of the system.
-/
theorem Entity.records_nodup_of_ofTable_iff {table : Table} {publisherPrefix : String}
    {entity : Entity} (distinct : (table.columns.map (·.logicalName)).Nodup)
    (encoded : ofTable table publisherPrefix = .ok entity) (renderPrefix : String)
    : ((entity.records renderPrefix).map (·.logicalName)).Nodup
      ↔ ∀ column ∈ table.columns, column.logicalName ∉ systemNames table.logicalName := by
  have own := attributes_nodup distinct encoded
  obtain ⟨attributes, _, columns, rfl⟩ := ofTable_eq_ok_iff.mp encoded
  change (attributes.map (·.logicalName)).Nodup at own
  rw [records_map_logicalName, ← Table.allColumns_avoid_iff table publisherPrefix]
  change (attributes.map (·.logicalName) ++ systemNames table.logicalName).Nodup ↔ _
  rw [List.nodup_append', List.disjoint_left, encodeColumns_map_logicalName columns,
    List.forall_mem_map]
  rw [encodeColumns_map_logicalName columns] at own
  exact ⟨fun apart => apart.2.2, fun apart => ⟨own, systemNames_nodup _, apart⟩⟩

/-- The records of a declared table have distinct names, in a package for any publisher, exactly
when no column of the table has a name of the system.
Witness: declared names are distinct, and neither the made-up primary name nor the table's key
has the name of another system attribute.
-/
theorem CompiledSchema.records_nodup_iff {schema : Schema} {publisherPrefix : String}
    {compiled : CompiledSchema} (compiles : schema.compile publisherPrefix = .ok compiled)
    {table : Table} (declared : table ∈ schema.tables)
    : ∃ entity,
        compiled.entity? table.logicalName = some entity
        ∧ ∀ renderPrefix,
            ((entity.records renderPrefix).map (·.logicalName)).Nodup
            ↔ ∀ column ∈ table.columns, column.logicalName ∉ systemNames table.logicalName := by
  obtain ⟨entity, found, encoded⟩ := exists_entity_of_declared compiles declared
  obtain ⟨valid, _, _, _⟩ := Schema.compile_eq_ok_iff.mp compiles
  have distinct := ((Schema.validate_eq_ok_iff.mp valid).2 table declared).2.1
  exact ⟨entity, found, Entity.records_nodup_of_ofTable_iff distinct encoded⟩

/-- Nodes of a tree refer to the nodes above them.
-/
def treeNode : Table where
  logicalName := "node"
  displayName := "Node"
  pluralName := "Nodes"
  columns := [.string "label" "Label", .lookup "nodeid" "Parent" "node"]

/-- Trees of nodes.
-/
def trees : Schema where
  tables := [treeNode]

/-- What trees compile to. The lookup of a node has the name of the table's key.
-/
def treesCompiled : CompiledSchema where
  entities := [
    { logicalName := "node"
      displayName := "Node"
      pluralName := "Nodes"
      description := "Node table"
      setName := "nodes"
      primary := ⟨.firstString, "label"⟩
      attributes := [
        .naming "label" "Label",
        { logicalName := "nodeid", displayName := "Parent", kind := .lookup "node" }
      ] }
  ]
  relationships := [⟨"x_node_node_nodeid", "node", "node", "nodeid", "Parent", false⟩]
  plan := ⟨[⟨"node", 0, []⟩], ["x_node_node_nodeid"]⟩

/-- Trees compile.
-/
theorem trees_compile : trees.compile "x" = .ok treesCompiled := by
  refine Schema.compile_eq_ok_iff.mpr ⟨rfl, rfl, rfl, ?_⟩
  change Dependencies.plan ⟨["node"], treesCompiled.relationships⟩ = .ok treesCompiled.plan
  cbv

/-- The records of a node have a name twice, since its lookup has the name of the key.
-/
theorem records_nodup_iff_treeNode
    : trees.compile "x" = .ok treesCompiled
      ∧ treeNode ∈ trees.tables
      ∧ "nodeid" ∈ systemNames treeNode.logicalName
      ∧ ∃ entity,
          treesCompiled.entity? treeNode.logicalName = some entity
          ∧ ∀ renderPrefix,
              ((entity.records renderPrefix).map (·.logicalName)).Nodup
              ↔ ∀ column ∈ treeNode.columns,
                  column.logicalName ∉ systemNames treeNode.logicalName :=
  have declared : treeNode ∈ trees.tables := List.mem_singleton_self _
  ⟨trees_compile, declared, by decide +kernel,
    CompiledSchema.records_nodup_iff trees_compile declared⟩

/-- Not every entity's records have distinct names: those of a node have not.
-/
theorem trees_records_not_nodup
    : ¬ ∀ (schema : Schema) (publisherPrefix : String) (compiled : CompiledSchema),
          schema.compile publisherPrefix = .ok compiled
          → ∀ entity ∈ compiled.entities,
              ((entity.records publisherPrefix).map (·.logicalName)).Nodup := by
  intro all
  have distinct := all trees "x" treesCompiled trees_compile _ List.mem_cons_self
  rw [Entity.records_map_logicalName] at distinct
  exact absurd distinct (by decide +kernel)

end Tablewright
