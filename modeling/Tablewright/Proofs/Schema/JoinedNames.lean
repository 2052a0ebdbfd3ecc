import Tablewright.Entity.Document
import Tablewright.Proofs.Schema.Coherence

/-! Names that are joined from others: those of tables' sets of records and of option sets. They
stay distinct unless the name of one table continues that of another, or a column has the name of a
system attribute.
-/

namespace Tablewright

-----------------------------------------------------------------------------------------
-- Names that tables share
-----------------------------------------------------------------------------------------

/-- A table's name ends in `s`, and an `e` behind it makes the name of another table: both have one
plural.
-/
def Table.SharesPlural (table other : Table) : Prop :=
  table.logicalName.toList.getLast? = some 's' ∧ other.logicalName = table.logicalName ++ "e"

/-- Whether a column carries an option set.
-/
def Column.carriesOptions (column : Column) : Bool :=
  column.type = ColumnType.boolean.declared ∨ column.type = ColumnType.choice.declared

/-- The names of a table's columns that carry option sets.
-/
def Table.optionColumns (table : Table) : List String :=
  (table.columns.filter Column.carriesOptions).map (·.logicalName)

/-- The system attributes that carry option sets.
-/
def systemOptionNames : List String :=
  ["statecode", "statuscode"]

/-- What the names of a table's option sets add to its own.
-/
def Table.optionEndings (table : Table) : List String :=
  table.optionColumns ++ systemOptionNames

/-- The names of a table's option sets.
-/
def Table.optionSetNames (table : Table) : List String :=
  table.optionEndings.map fun ending => table.logicalName ++ "_" ++ ending

/-- A table's name continues that of another, so that one of its option sets has the name of the set
that a column of the other carries.
-/
def Table.SharesOptions (table other : Table) : Prop :=
  ∃ middle ending,
    table.logicalName = other.logicalName ++ "_" ++ middle
    ∧ ending ∈ table.optionEndings
    ∧ middle ++ "_" ++ ending ∈ other.optionColumns

/-- The option set that a record tells of.
-/
def RecordDetail.optionSet? : RecordDetail → Option OptionSet
  | .optionSet options => some options
  | _ => .none

/-- The names of the option sets in an entity's records.
-/
def Entity.optionSetNames (publisherPrefix : String) (entity : Entity) : List String :=
  (entity.records publisherPrefix).filterMap fun record => record.detail.optionSet?.map (·.name)

/-- The names of the option sets in the records of all entities.
-/
def CompiledSchema.optionSetNames (publisherPrefix : String) (compiled : CompiledSchema)
    : List String :=
  compiled.entities.flatMap (Entity.optionSetNames publisherPrefix)

-----------------------------------------------------------------------------------------
-- Names of sets of records
-----------------------------------------------------------------------------------------

/-- What adds `es` adds `e` and then `s`.
-/
theorem append_es (text : String) : text ++ "es" = text ++ "e" ++ "s" := by
  rw [String.append_assoc]
  rfl

/-- Tables that share a plural have sets of records of one name.
-/
theorem Table.SharesPlural.entitySetName_eq {table other : Table}
    (shared : table.SharesPlural other)
    : entitySetName table.logicalName = entitySetName other.logicalName := by
  obtain ⟨ends, named⟩ := shared
  have unlike : (table.logicalName ++ "e").toList.getLast? ≠ some 's' := by
    simp [String.toList_append]
  rw [named, entitySetName, entitySetName, if_pos ends, if_neg unlike, append_es]

/-- Tables whose sets of records have one name have one name themselves, or they share a plural.
-/
theorem Table.sharesPlural_of_entitySetName_eq {table other : Table}
    (same : entitySetName table.logicalName = entitySetName other.logicalName)
    : table.logicalName = other.logicalName
      ∨ table.SharesPlural other
      ∨ other.SharesPlural table := by
  rw [entitySetName, entitySetName] at same
  split at same
  · rename_i ends
    split at same
    · exact .inl ((String.append_left_inj _).mp same)
    · rw [append_es] at same
      exact .inr (.inl ⟨ends, ((String.append_left_inj _).mp same).symm⟩)
  · split at same
    · rename_i ends
      rw [append_es] at same
      exact .inr (.inr ⟨ends, (String.append_left_inj _).mp same⟩)
    · exact .inl ((String.append_left_inj _).mp same)

/-- No table shares its plural with itself.
-/
theorem Table.not_sharesPlural_self (table : Table) : ¬ table.SharesPlural table := by
  intro shared
  simpa using congrArg String.length shared.2

-----------------------------------------------------------------------------------------
-- Names of option sets
-----------------------------------------------------------------------------------------

/-- Where lists around a separator make one list, they are the same, or the first part of one
continues that of the other, whose second part makes up for it.
-/
theorem parts_of_append_cons_eq {α : Type} {sep : α} {first second other last : List α}
    (same : first ++ sep :: second = other ++ sep :: last)
    : (first = other ∧ second = last)
      ∨ (∃ middle, first = other ++ sep :: middle ∧ last = middle ++ sep :: second)
      ∨ ∃ middle, other = first ++ sep :: middle ∧ second = middle ++ sep :: last := by
  -- What one first part has beyond the other starts with the separator, if there is any of it.
  rcases List.append_eq_append_iff.mp same with ⟨between, there, parts⟩ | ⟨between, there, parts⟩
  · cases between with
    | nil => exact .inl ⟨by simpa using there.symm, by simpa using parts⟩
    | cons head middle =>
        obtain ⟨rfl, rfl⟩ := List.cons.inj parts
        exact .inr (.inr ⟨middle, there, rfl⟩)
  · cases between with
    | nil => exact .inl ⟨by simpa using there, by simpa using parts.symm⟩
    | cons head middle =>
        obtain ⟨rfl, rfl⟩ := List.cons.inj parts
        exact .inr (.inl ⟨middle, there, rfl⟩)

/-- Where texts around an underscore make one text, they are the same, or the first part of one
continues that of the other, whose second part makes up for it.
-/
theorem join_eq_join_iff {first second other last : String}
    : first ++ "_" ++ second = other ++ "_" ++ last
      ↔ (first = other ∧ second = last)
        ∨ (∃ middle, first = other ++ "_" ++ middle ∧ last = middle ++ "_" ++ second)
        ∨ ∃ middle, other = first ++ "_" ++ middle ∧ second = middle ++ "_" ++ last := by
  have spell (text more : String)
      : (text ++ "_" ++ more).toList = text.toList ++ '_' :: more.toList := by
    rw [String.append_assoc, String.toList_append, String.toList_append]
    rfl
  constructor
  · intro same
    have spelled := congrArg String.toList same
    rw [spell, spell] at spelled
    rcases parts_of_append_cons_eq spelled with
      ⟨one, two⟩ | ⟨middle, one, two⟩ | ⟨middle, one, two⟩
    · exact .inl ⟨String.toList_inj.mp one, String.toList_inj.mp two⟩
    · refine .inr (.inl ⟨String.ofList middle, ?_, ?_⟩)
      · rw [← String.toList_inj, spell, String.toList_ofList, one]
      · rw [← String.toList_inj, spell, String.toList_ofList, two]
    · refine .inr (.inr ⟨String.ofList middle, ?_, ?_⟩)
      · rw [← String.toList_inj, spell, String.toList_ofList, one]
      · rw [← String.toList_inj, spell, String.toList_ofList, two]
  · intro parts
    rcases parts with ⟨rfl, rfl⟩ | ⟨middle, rfl, rfl⟩ | ⟨middle, rfl, rfl⟩
    · rfl
    · simp only [String.append_assoc]
    · simp only [String.append_assoc]

/-- A record of an attribute tells of the attribute's option set, if that fits.
-/
theorem AttributeRecord.optionSet?_ofAttribute {attr : Attribute}
    (fits : attr.kind.Fits attr.optionSet?)
    : (ofAttribute attr).detail.optionSet? = attr.optionSet? := by
  obtain ⟨_, _, kind, _, _, _, _, set?⟩ := attr
  cases fits with
  | boolean | choice => rfl
  | plain optionless =>
      cases kind with
      | boolean | choice => cases optionless
      | _ => rfl

/-- The records of the system have an option set for each system attribute that carries one.
-/
theorem AttributeRecord.filterMap_optionSet?_systemRecords (table publisherPrefix : String)
    : (systemRecords table publisherPrefix).filterMap
        (fun record => record.detail.optionSet?.map (·.name))
      = systemOptionNames.map fun ending => table ++ "_" ++ ending := by
  simp only [String.append_assoc]
  rfl

/-- The attribute of a column has an option set, named for table and column, when the column carries
one.
-/
theorem Attribute.optionSet?_of_ofColumn {table : String} {column : Column} {isPrimaryName : Bool}
    {attr : Attribute} (encoded : ofColumn table column isPrimaryName = .ok attr)
    : attr.optionSet?.map (·.name)
      = if column.carriesOptions then some (column.optionSetName table) else none := by
  obtain ⟨type, shape, declared, _, determined, rfl⟩ := ofColumn_eq_ok_iff.mp encoded
  rw [Column.carriesOptions, declared]
  cases Column.shapes_of_shape determined with
  | choice chosen =>
      obtain ⟨_, _, rfl⟩ := Column.choiceSet_eq_ok_iff.mp chosen
      rfl
  | _ => rfl

/-- The records of columns' attributes have an option set for each column that carries one.
-/
theorem Entity.filterMap_optionSet?_of_encodeColumns {table primary : String}
    {columns : List Column} {attributes : List Attribute}
    (encoded : encodeColumns table primary columns = .ok attributes)
    : attributes.filterMap
        (fun attr => (AttributeRecord.ofAttribute attr).detail.optionSet?.map (·.name))
      = (columns.filter Column.carriesOptions).map (·.optionSetName table) := by
  rw [← List.filterMap_eq_map, List.filterMap_filter]
  refine filterMap_eq_of_forall₂ (encodeColumns_eq_ok_iff.mp encoded) fun column attr made => ?_
  rw [AttributeRecord.optionSet?_ofAttribute (Attribute.fits_of_ofColumn made),
    Attribute.optionSet?_of_ofColumn made]
  rfl

/-- The records of an encoded table have an option set for each of the table's endings, in order.
-/
theorem Entity.optionSetNames_of_ofTable {table : Table} {publisherPrefix : String}
    {entity : Entity} (encoded : ofTable table publisherPrefix = .ok entity)
    (renderPrefix : String)
    : entity.optionSetNames renderPrefix = table.optionSetNames := by
  obtain ⟨attributes, _, columns, rfl⟩ := ofTable_eq_ok_iff.mp encoded
  have own : (attributes.map AttributeRecord.ofAttribute).filterMap
        (fun record => record.detail.optionSet?.map (·.name))
      = (table.columns.filter Column.carriesOptions).map (·.optionSetName table.logicalName) := by
    rw [List.filterMap_map, ← table.filter_allColumns _ rfl]
    exact filterMap_optionSet?_of_encodeColumns columns
  rw [optionSetNames, records, List.filterMap_append, Table.optionSetNames, Table.optionEndings,
    List.map_append, Table.optionColumns, List.map_map]
  exact congrArg₂ (· ++ ·) own (AttributeRecord.filterMap_optionSet?_systemRecords ..)

/-- The option sets of a compiled schema are those of its tables, one for each ending.
-/
theorem CompiledSchema.optionSetNames_of_compile {schema : Schema} {publisherPrefix : String}
    {compiled : CompiledSchema} (compiles : schema.compile publisherPrefix = .ok compiled)
    (renderPrefix : String)
    : compiled.optionSetNames renderPrefix = schema.tables.flatMap Table.optionSetNames :=
  flatMap_eq_of_forall₂
    (Schema.entities_eq_ok_iff.mp (Schema.compile_eq_ok_iff.mp compiles).2.1)
    fun _ _ encoded => Entity.optionSetNames_of_ofTable encoded renderPrefix

/-- The sets of records of a compiled schema have the names of its tables in the plural.
-/
theorem CompiledSchema.setNames_of_compile {schema : Schema} {publisherPrefix : String}
    {compiled : CompiledSchema} (compiles : schema.compile publisherPrefix = .ok compiled)
    : compiled.entities.map (·.setName)
      = schema.tables.map fun table => entitySetName table.logicalName := by
  refine map_eq_of_forall₂
    (Schema.entities_eq_ok_iff.mp (Schema.compile_eq_ok_iff.mp compiles).2.1)
    fun table entity encoded => ?_
  obtain ⟨_, _, _, rfl⟩ := Entity.ofTable_eq_ok_iff.mp encoded
  rfl

/-- The option sets of a table have distinct names exactly when no column that carries one has the
name of a system attribute that does.
-/
theorem Table.optionSetNames_nodup_iff {table : Table}
    (distinct : (table.columns.map (·.logicalName)).Nodup)
    : table.optionSetNames.Nodup ↔ ∀ name ∈ systemOptionNames, name ∉ table.optionColumns := by
  have own : table.optionColumns.Nodup := distinct.sublist (List.filter_sublist.map _)
  have system : systemOptionNames.Nodup := by decide
  rw [optionSetNames, List.nodup_map_iff fun _ _ => (String.append_right_inj _).mp, optionEndings,
    List.nodup_append', List.disjoint_right]
  exact ⟨fun parts => parts.2.2, fun apart => ⟨own, system, apart⟩⟩

/-- Tables that share an option set by their names have a name of option sets in common.
-/
theorem Table.SharesOptions.exists_common {table other : Table}
    (shared : table.SharesOptions other)
    : ∃ name ∈ table.optionSetNames, name ∈ other.optionSetNames := by
  obtain ⟨middle, ending, named, mine, yours⟩ := shared
  refine ⟨_, List.mem_map_of_mem mine, List.mem_map.mpr ⟨_, List.mem_append_left _ yours, ?_⟩⟩
  exact join_eq_join_iff.mpr (.inr (.inr ⟨middle, named, rfl⟩))

/-- Of a table's endings, those with an underscore are columns.
-/
theorem Table.mem_optionColumns_of_join {table : Table} {middle ending : String}
    (member : middle ++ "_" ++ ending ∈ table.optionEndings)
    : middle ++ "_" ++ ending ∈ table.optionColumns := by
  refine (List.mem_append.mp member).resolve_right fun system => ?_
  have others : systemOptionNames.all (fun name => !name.toList.contains '_') = true := by decide
  simpa using List.all_eq_true.mp others _ system

/-- Tables of different names that have a name of option sets in common share it by their names.
-/
theorem Table.sharesOptions_of_common {table other : Table}
    (different : table.logicalName ≠ other.logicalName) {name : String}
    (mine : name ∈ table.optionSetNames) (yours : name ∈ other.optionSetNames)
    : table.SharesOptions other ∨ other.SharesOptions table := by
  obtain ⟨ending, here, rfl⟩ := List.mem_map.mp mine
  obtain ⟨last, there, same⟩ := List.mem_map.mp yours
  rcases join_eq_join_iff.mp same with
    ⟨equal, _⟩ | ⟨middle, named, rfl⟩ | ⟨middle, named, rfl⟩
  · exact absurd equal.symm different
  · exact .inr ⟨middle, last, named, there, mem_optionColumns_of_join here⟩
  · exact .inl ⟨middle, ending, named, here, mem_optionColumns_of_join there⟩

/-- No table's name continues itself.
-/
theorem Table.not_sharesOptions_self (table : Table) : ¬ table.SharesOptions table := by
  intro shared
  obtain ⟨_, _, named, _, _⟩ := shared
  have longer := congrArg String.length named
  have underscore : "_".length = 1 := rfl
  simp only [String.length_append] at longer
  omega

-----------------------------------------------------------------------------------------
-- Distinct names
-----------------------------------------------------------------------------------------

/-- Tables of distinct names have distinct plurals exactly when no two share one.
-/
theorem setNames_nodup_iff {tables : List Table} (distinct : (tables.map (·.logicalName)).Nodup)
    : (tables.map fun table => entitySetName table.logicalName).Nodup
      ↔ ∀ table ∈ tables, ∀ other ∈ tables, ¬ table.SharesPlural other := by
  rw [List.nodup_map_iff_inj_on distinct.of_map]
  constructor
  · intro apart table here other there shared
    obtain rfl := apart table here other there shared.entitySetName_eq
    exact table.not_sharesPlural_self shared
  · intro apart table here other there same
    rcases Table.sharesPlural_of_entitySetName_eq same with same | shared | shared
    · exact List.inj_on_of_nodup_map distinct here there same
    · exact absurd shared (apart table here other there)
    · exact absurd shared (apart other there table here)

/-- Tables of distinct names, each with distinct columns, have distinct option sets exactly when no
column that carries one has the name of a system attribute that does, and no two tables share one.
-/
theorem optionSets_nodup_iff {tables : List Table}
    (distinct : (tables.map (·.logicalName)).Nodup)
    (columns : ∀ table ∈ tables, (table.columns.map (·.logicalName)).Nodup)
    : (tables.flatMap Table.optionSetNames).Nodup
      ↔ (∀ table ∈ tables, ∀ name ∈ systemOptionNames, name ∉ table.optionColumns)
        ∧ ∀ table ∈ tables, ∀ other ∈ tables, ¬ table.SharesOptions other := by
  rw [flatMap_nodup_iff distinct.of_map]
  refine and_congr (forall₂_congr fun table here => ?_) ?_
  · exact Table.optionSetNames_nodup_iff (columns table here)
  constructor
  · intro apart table here other there shared
    have different : table ≠ other := fun same => other.not_sharesOptions_self (same ▸ shared)
    obtain ⟨name, mine, yours⟩ := shared.exists_common
    exact apart table here other there different mine yours
  · intro apart table here other there different name mine yours
    have named := mt (List.inj_on_of_nodup_map distinct here there) different
    rcases Table.sharesOptions_of_common named mine yours with shared | shared
    · exact apart table here other there shared
    · exact apart other there table here shared

-----------------------------------------------------------------------------------------
-- Compiled schemas
-----------------------------------------------------------------------------------------

/-- In a compiled schema, the sets of records have distinct names exactly when no two tables share a
plural. The option sets in its package have distinct names exactly when no column that carries one
has the name of a system attribute that does, and no two tables share one.
Witness: the declared names are distinct, so that two joined names are one only where one table's
name continues the other's.
-/
theorem CompiledSchema.joinedNames_nodup_iff {schema : Schema} {publisherPrefix : String}
    {compiled : CompiledSchema} (compiles : schema.compile publisherPrefix = .ok compiled)
    : ((compiled.entities.map (·.setName)).Nodup
        ↔ ∀ table ∈ schema.tables, ∀ other ∈ schema.tables, ¬ table.SharesPlural other)
      ∧ ∀ renderPrefix,
          (compiled.optionSetNames renderPrefix).Nodup
          ↔ (∀ table ∈ schema.tables,
              ∀ name ∈ systemOptionNames, name ∉ table.optionColumns)
            ∧ ∀ table ∈ schema.tables, ∀ other ∈ schema.tables,
                ¬ table.SharesOptions other := by
  obtain ⟨valid, _, _, _⟩ := Schema.compile_eq_ok_iff.mp compiles
  obtain ⟨distinct, tables⟩ := Schema.validate_eq_ok_iff.mp valid
  constructor
  · rw [setNames_of_compile compiles]
    exact setNames_nodup_iff distinct
  · intro renderPrefix
    rw [optionSetNames_of_compile compiles]
    exact optionSets_nodup_iff distinct fun table declared => (tables table declared).2.1

/-- Races have laps, pits between laps, and lapses.
-/
def races : Schema where
  tables := [
    { logicalName := "laps"
      displayName := "Laps"
      pluralName := "Laps"
      columns := [.string "label" "Label", .ofType "pit_open" "Pit Open" .boolean] },
    { logicalName := "laps_pit"
      displayName := "Pit"
      pluralName := "Pits"
      columns := [.string "label" "Label", .ofType "open" "Open" .boolean] },
    { logicalName := "lapse"
      displayName := "Lapse"
      pluralName := "Lapses"
      columns := [.string "label" "Label", .ofType "statecode" "State" .boolean] }
  ]

/-- What races compile to.
-/
def racesCompiled : CompiledSchema where
  entities := [
    { logicalName := "laps"
      displayName := "Laps"
      pluralName := "Laps"
      description := "Laps table"
      setName := "lapses"
      primary := ⟨.firstString, "label"⟩
      attributes := [
        .naming "label" "Label",
        { logicalName := "pit_open"
          displayName := "Pit Open"
          kind := .boolean true
          optionSet? := some (.yesNo "laps_pit_open" "Pit Open") }
      ] },
    { logicalName := "laps_pit"
      displayName := "Pit"
      pluralName := "Pits"
      description := "Pit table"
      setName := "laps_pits"
      primary := ⟨.firstString, "label"⟩
      attributes := [
        .naming "label" "Label",
        { logicalName := "open"
          displayName := "Open"
          kind := .boolean true
          optionSet? := some (.yesNo "laps_pit_open" "Open") }
      ] },
    { logicalName := "lapse"
      displayName := "Lapse"
      pluralName := "Lapses"
      description := "Lapse table"
      setName := "lapses"
      primary := ⟨.firstString, "label"⟩
      attributes := [
        .naming "label" "Label",
        { logicalName := "statecode"
          displayName := "State"
          kind := .boolean true
          optionSet? := some (.yesNo "lapse_statecode" "State") }
      ] }
  ]
  relationships := []
  plan := ⟨[⟨"laps", 0, []⟩, ⟨"laps_pit", 0, []⟩, ⟨"lapse", 0, []⟩], []⟩

/-- Races compile.
-/
theorem races_compile : races.compile "x" = .ok racesCompiled := by
  refine Schema.compile_eq_ok_iff.mpr ⟨rfl, rfl, rfl, ?_⟩
  change Dependencies.plan ⟨["laps", "laps_pit", "lapse"], []⟩ = .ok racesCompiled.plan
  cbv

/-- The names of races' tables tell which of the joined names there are twice.
-/
theorem joinedNames_nodup_iff_races
    : races.compile "x" = .ok racesCompiled
      ∧ ((racesCompiled.entities.map (·.setName)).Nodup
          ↔ ∀ table ∈ races.tables, ∀ other ∈ races.tables, ¬ table.SharesPlural other)
      ∧ ∀ renderPrefix,
          (racesCompiled.optionSetNames renderPrefix).Nodup
          ↔ (∀ table ∈ races.tables, ∀ name ∈ systemOptionNames, name ∉ table.optionColumns)
            ∧ ∀ table ∈ races.tables, ∀ other ∈ races.tables,
                ¬ table.SharesOptions other :=
  ⟨races_compile, CompiledSchema.joinedNames_nodup_iff races_compile⟩

/-- Not every compiled schema has distinct names for its sets of records, nor for its option sets:
races have neither.
-/
theorem races_joinedNames_not_nodup
    : (¬ ∀ (schema : Schema) (publisherPrefix : String) (compiled : CompiledSchema),
          schema.compile publisherPrefix = .ok compiled
          → (compiled.entities.map (·.setName)).Nodup)
      ∧ ¬ ∀ (schema : Schema) (publisherPrefix : String) (compiled : CompiledSchema),
          schema.compile publisherPrefix = .ok compiled
          → (compiled.optionSetNames publisherPrefix).Nodup := by
  constructor
  · intro all
    exact absurd (all races "x" racesCompiled races_compile) (by decide)
  · intro all
    have distinct := all races "x" racesCompiled races_compile
    rw [CompiledSchema.optionSetNames_of_compile races_compile] at distinct
    exact absurd distinct (by decide +kernel)

end Tablewright
