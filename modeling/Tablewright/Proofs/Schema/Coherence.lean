import Tablewright.Proofs.Schema.Compiled

/-! How the parts of a compiled schema belong together: which attribute of an entity is its primary
name, which lookup a relationship comes from, and which names there are at all.
-/

namespace Tablewright

/-- A compiled schema whose names are well formed, in which exactly the attribute with the
primary name is marked as such, and in which every relationship comes from a lookup of its own
and refers to an entity.
-/
structure CompiledSchema.Coherent (compiled : CompiledSchema) : Prop
    extends CompiledSchema.WellFormed compiled where
  tableNames : ∀ entity ∈ compiled.entities, IsLogicalName entity.logicalName
  columnNames
    : ∀ entity ∈ compiled.entities, ∀ attr ∈ entity.attributes, IsLogicalName attr.logicalName
  primary
    : ∀ entity ∈ compiled.entities,
        ∀ attr ∈ entity.attributes,
          attr.isPrimaryName = true ↔ attr.logicalName = entity.primary.name
  lookups
    : ∀ relationship ∈ compiled.relationships,
        ∃ entity ∈ compiled.entities,
          ∃ attr ∈ entity.attributes,
            attr.kind.isLookup = true
            ∧ relationship.source = ⟨entity.logicalName, attr.logicalName⟩
  targets
    : ∀ relationship ∈ compiled.relationships,
        ∃ entity ∈ compiled.entities, entity.logicalName = relationship.referencedTable
  sources : (compiled.relationships.map (·.source)).Nodup

-----------------------------------------------------------------------------------------
-- Attributes of encoded tables
-----------------------------------------------------------------------------------------

/-- An attribute of an encoded table is made from one of its columns.
-/
theorem Entity.exists_ofColumn_of_mem {table : Table} {publisherPrefix : String}
    {entity : Entity} (encoded : ofTable table publisherPrefix = .ok entity) {attr : Attribute}
    (member : attr ∈ entity.attributes)
    : ∃ column ∈ table.allColumns entity.primary,
        Attribute.ofColumn table.logicalName column (column.logicalName == entity.primary.name)
        = .ok attr := by
  obtain ⟨attributes, _, columns, rfl⟩ := ofTable_eq_ok_iff.mp encoded
  exact exists_mem_of_forall₂ (encodeColumns_eq_ok_iff.mp columns) member

/-- An attribute of an encoded table has the name of one of its columns, and it is marked as the
primary name when that column has it.
-/
theorem Entity.exists_column_of_mem {table : Table} {publisherPrefix : String}
    {entity : Entity} (encoded : ofTable table publisherPrefix = .ok entity) {attr : Attribute}
    (member : attr ∈ entity.attributes)
    : ∃ column ∈ table.allColumns entity.primary,
        attr.logicalName = column.logicalName
        ∧ attr.isPrimaryName = (column.logicalName == entity.primary.name) := by
  obtain ⟨column, listed, made⟩ := exists_ofColumn_of_mem encoded member
  obtain ⟨_, _, _, _, _, rfl⟩ := Attribute.ofColumn_eq_ok_iff.mp made
  exact ⟨column, listed, rfl, rfl⟩

/-- A well-formed name stays so with an underscore and letters behind it.
-/
theorem IsLogicalName.append_name {name : String} (named : IsLogicalName name)
    : IsLogicalName (name ++ "_name") := by
  obtain ⟨first, rest, spelled, letter, others⟩ := named
  refine ⟨first, rest ++ "_name".toList, ?_, letter, ?_⟩
  · rw [String.toList_append, spelled, List.cons_append]
  · have added : ("_name".toList.all fun c => c.isAlphanum || c == '_') = true := by decide
    intro c member
    rcases List.mem_append.mp member with old | new
    · exact others c old
    · simpa using List.all_eq_true.mp added c new

/-- A well-formed name has no full stop.
-/
theorem IsLogicalName.no_stop {name : String} (named : IsLogicalName name)
    : '.' ∉ name.toList := by
  obtain ⟨first, rest, spelled, letter, others⟩ := named
  rw [spelled]
  intro member
  rcases List.mem_cons.mp member with rfl | later
  · exact absurd letter (by decide)
  · rcases others _ later with letter | score
    · exact absurd letter (by decide)
    · exact absurd score (by decide)

/-- Well-formed names with a full stop between them can be read off from the whole.
-/
theorem IsLogicalName.label_inj {table other column attr : String}
    (tableNamed : IsLogicalName table) (columnNamed : IsLogicalName column)
    (same : table ++ "." ++ column = other ++ "." ++ attr)
    : table = other ∧ column = attr := by
  have spelled := congrArg String.toList same
  simp only [String.toList_append, List.append_assoc] at spelled
  have parts := (List.append_cons_inj_of_notMem tableNamed.no_stop columnNamed.no_stop).mp spelled
  exact ⟨String.toList_inj.mp parts.1, String.toList_inj.mp parts.2.2⟩

/-- A primary name that is made up is the one for the table.
-/
theorem PrimaryName.name_of_synthesized {table : Table} {publisherPrefix : String}
    (made : (resolve table publisherPrefix).choice = .synthesized)
    : (resolve table publisherPrefix).name = synthesizedName table := by
  have resolved := resolves table publisherPrefix
  generalize resolve table publisherPrefix = primary at made resolved ⊢
  cases resolved with
  | synthesized => rfl
  | _ => cases made

/-- The attributes of an encoded table have well-formed names when the table and its columns have.
-/
theorem Entity.isLogicalName_of_mem {table : Table} {publisherPrefix : String}
    {entity : Entity} (encoded : ofTable table publisherPrefix = .ok entity)
    (named : IsLogicalName table.logicalName)
    (columns : ∀ column ∈ table.columns, IsLogicalName column.logicalName)
    {attr : Attribute} (member : attr ∈ entity.attributes)
    : IsLogicalName attr.logicalName := by
  obtain ⟨column, listed, same, _⟩ := exists_column_of_mem encoded member
  obtain ⟨_, _, _, rfl⟩ := ofTable_eq_ok_iff.mp encoded
  rw [same]
  change column ∈ table.allColumns (PrimaryName.resolve table publisherPrefix) at listed
  rw [Table.allColumns] at listed
  split at listed
  · rename_i made
    rcases List.mem_cons.mp listed with rfl | declared
    · have name : (synthesizedColumn table
          (PrimaryName.resolve table publisherPrefix).name).logicalName
            = table.logicalName ++ "_name" :=
        PrimaryName.name_of_synthesized made
      rw [name]
      exact named.append_name
    · exact columns column declared
  · exact columns column listed

-----------------------------------------------------------------------------------------
-- Relationships of encoded tables
-----------------------------------------------------------------------------------------

/-- The relationship of an attribute has that attribute as its source, and the attribute is a
lookup.
-/
theorem Relationship.source_of_ofAttribute? {publisherPrefix : String} {entity : Entity}
    {attr : Attribute} {relationship : Relationship}
    (made : ofAttribute? publisherPrefix entity attr = some relationship)
    : attr.kind.isLookup = true
      ∧ relationship.source = ⟨entity.logicalName, attr.logicalName⟩ := by
  rw [ofAttribute?] at made
  split at made
  · rename_i target kind
    cases made
    exact ⟨by rw [kind]; rfl, rfl⟩
  · cases made

/-- The relationships of entities come from lookups of these.
-/
theorem Relationship.exists_lookup_of_mem_ofEntities {publisherPrefix : String}
    {entities : List Entity} {relationship : Relationship}
    (member : relationship ∈ ofEntities publisherPrefix entities)
    : ∃ entity ∈ entities,
        ∃ attr ∈ entity.attributes,
          attr.kind.isLookup = true
          ∧ relationship.source = ⟨entity.logicalName, attr.logicalName⟩ := by
  obtain ⟨entity, listed, own⟩ := List.mem_flatMap.mp member
  obtain ⟨attr, there, made⟩ := List.mem_filterMap.mp own
  exact ⟨entity, listed, attr, there, source_of_ofAttribute? made⟩

/-- The sources of an entity's relationships are among its attributes, in their order.
-/
theorem Relationship.map_source_filterMap_sublist {publisherPrefix : String} {entity : Entity}
    (attributes : List Attribute)
    : ((attributes.filterMap (ofAttribute? publisherPrefix entity)).map (·.source)).Sublist
        (attributes.map fun attr => ⟨entity.logicalName, attr.logicalName⟩) := by
  induction attributes with
  | nil => exact .slnil
  | cons attr rest ih =>
      cases made : ofAttribute? publisherPrefix entity attr with
      | none =>
          rw [List.filterMap_cons_none made]
          exact ih.cons _
      | some relationship =>
          rw [List.filterMap_cons_some made, List.map_cons, (source_of_ofAttribute? made).2]
          exact ih.cons_cons _

/-- Entities that names tell apart, as well as their attributes, have relationships of distinct
sources.
-/
theorem Relationship.sources_nodup {publisherPrefix : String} {entities : List Entity}
    (distinct : (entities.map (·.logicalName)).Nodup)
    (attributes : ∀ entity ∈ entities, (entity.attributes.map (·.logicalName)).Nodup)
    : ((ofEntities publisherPrefix entities).map (·.source)).Nodup := by
  rw [ofEntities, List.map_flatMap, List.nodup_flatMap]
  constructor
  · intro entity member
    refine List.Nodup.sublist (map_source_filterMap_sublist entity.attributes) ?_
    have names :=
      (attributes entity member).map (f := fun name => ColumnName.mk entity.logicalName name)
      fun _ _ same => (ColumnName.mk.inj same).2
    rwa [List.map_map] at names
  · refine (List.pairwise_map.mp distinct).imp fun {entity other} different => ?_
    intro source mine yours
    have own := (map_source_filterMap_sublist entity.attributes).subset mine
    have others := (map_source_filterMap_sublist other.attributes).subset yours
    obtain ⟨_, _, rfl⟩ := List.mem_map.mp own
    obtain ⟨_, _, same⟩ := List.mem_map.mp others
    exact different (ColumnName.mk.inj same).1.symm

-----------------------------------------------------------------------------------------
-- Compiled schemas
-----------------------------------------------------------------------------------------

/-- Every compiled schema is coherent.
-/
theorem CompiledSchema.coherent_of_compile {schema : Schema} {publisherPrefix : String}
    {compiled : CompiledSchema} (compiles : schema.compile publisherPrefix = .ok compiled)
    : compiled.Coherent := by
  have wellFormed := wellFormed_of_compile compiles
  obtain ⟨valid, encoded, accepted, _⟩ := Schema.compile_eq_ok_iff.mp compiles
  obtain ⟨_, tables⟩ := Schema.validate_eq_ok_iff.mp valid
  obtain ⟨known, _, found⟩ := Relationship.discover_eq_ok_iff.mp accepted
  have origin {entity : Entity} (member : entity ∈ compiled.entities)
      : ∃ table ∈ schema.tables, Entity.ofTable table publisherPrefix = .ok entity :=
    exists_mem_of_forall₂ (Schema.entities_eq_ok_iff.mp encoded) member
  refine ⟨wellFormed, ?_, ?_, ?_, ?_, ?_, ?_⟩
  · intro entity member
    obtain ⟨table, declared, made⟩ := origin member
    obtain ⟨_, _, _, rfl⟩ := Entity.ofTable_eq_ok_iff.mp made
    exact (tables table declared).1
  · intro entity member attr listed
    obtain ⟨table, declared, made⟩ := origin member
    exact Entity.isLogicalName_of_mem made (tables table declared).1
      (fun column there => ((tables table declared).2.2 column there).1) listed
  · intro entity member attr listed
    obtain ⟨table, _, made⟩ := origin member
    obtain ⟨column, _, same, marked⟩ := Entity.exists_column_of_mem made listed
    rw [marked, same, beq_iff_eq]
  · intro relationship member
    rw [found] at member
    exact Relationship.exists_lookup_of_mem_ofEntities member
  · intro relationship member
    rw [found] at member
    exact List.mem_map.mp (known relationship member)
  · rw [found]
    exact Relationship.sources_nodup wellFormed.entities wellFormed.attributes

-----------------------------------------------------------------------------------------
-- Lookups and primary names of coherent schemas
-----------------------------------------------------------------------------------------

namespace CompiledSchema.Coherent

variable {compiled : CompiledSchema} (coherent : compiled.Coherent)
include coherent

/-- The lookup of a relationship is the attribute that it comes from.
-/
theorem lookup?_eq_some {entity : Entity} (listed : entity ∈ compiled.entities)
    {attr : Attribute} (own : attr ∈ entity.attributes) {link : Relationship}
    (source : link.source = ⟨entity.logicalName, attr.logicalName⟩)
    : compiled.lookup? link = some attr := by
  obtain ⟨table, column⟩ := ColumnName.mk.inj source
  have found : compiled.entity? link.referencingTable = some entity :=
    coherent.entity?_eq_some_iff.mpr ⟨listed, table.symm⟩
  rw [lookup?, found]
  exact (find?_key_eq_some_iff (coherent.attributes entity listed)).mpr ⟨own, column.symm⟩

/-- Every relationship has the lookup that it comes from.
-/
theorem exists_lookup {link : Relationship} (member : link ∈ compiled.relationships)
    : ∃ lookup,
        compiled.lookup? link = some lookup
        ∧ lookup.logicalName = link.referencingAttribute := by
  obtain ⟨entity, listed, attr, own, _, source⟩ := coherent.lookups link member
  exact ⟨attr, coherent.lookup?_eq_some listed own source, (ColumnName.mk.inj source).2.symm⟩

/-- Relationships with one source are one.
-/
theorem eq_of_source_eq {link other : Relationship} (member : link ∈ compiled.relationships)
    (too : other ∈ compiled.relationships) (same : link.source = other.source)
    : link = other :=
  List.inj_on_of_nodup_map coherent.sources member too same

/-- No plain attribute is the source of a relationship.
-/
theorem source_ne_of_plain {entity : Entity} (listed : entity ∈ compiled.entities)
    {attr : Attribute} (plain : attr ∈ entity.plainAttributes) {link : Relationship}
    (member : link ∈ compiled.relationships)
    : link.source ≠ ⟨entity.logicalName, attr.logicalName⟩ := by
  intro same
  obtain ⟨other, too, lookup, there, isLookup, source⟩ := coherent.lookups link member
  obtain ⟨tables, columns⟩ := ColumnName.mk.inj (same.symm.trans source)
  obtain rfl := List.inj_on_of_nodup_map coherent.entities listed too tables
  obtain ⟨here, notLookup⟩ := List.mem_filter.mp plain
  obtain rfl := List.inj_on_of_nodup_map (coherent.attributes entity listed) here there columns
  simp [isLookup] at notLookup

/-- A new table is made with an attribute of its primary name.
-/
theorem creationPrimary_logicalName {entity : Entity} (listed : entity ∈ compiled.entities)
    : entity.creationPrimary.logicalName = entity.primary.name := by
  rw [Entity.creationPrimary, Entity.primaryAttribute?]
  cases found : entity.attributes.find? Attribute.isPrimaryName with
  | none => rfl
  | some attr =>
      exact (coherent.primary entity listed attr (List.mem_of_find?_eq_some found)).mp
        (List.find?_some found)

end CompiledSchema.Coherent

-----------------------------------------------------------------------------------------
-- A library
-----------------------------------------------------------------------------------------

/-- A library lends books to persons, who advise each other. Labels use the signs of markup.
-/
def library : Schema where
  tables := [
    { logicalName := "loan"
      displayName := "Loan"
      pluralName := "Loans"
      columns := [
        .string "label" "Label",
        .ofType "due" "Due" .dateOnly,
        .lookup "bookid" "Book" "book",
        .lookup "readerid" "Reader" "person"
      ] },
    { logicalName := "book"
      displayName := "Book"
      pluralName := "Books"
      description := some "</EntityInfo>"
      columns := [
        .string "title" "<Title> \"&amp;\"",
        .choice "kind" "Kind" ["Fact & fiction", "'Other'"],
        .ofType "lost" "Lost" .boolean
      ] },
    { logicalName := "person"
      displayName := "Person"
      pluralName := "Persons"
      columns := [.string "label" "Label", .lookup "adviserid" "Adviser" "person"] }
  ]

/-- What the library compiles to. Advice goes round, and loans come behind books and persons.
-/
def libraryCompiled : CompiledSchema where
  entities := [
    { logicalName := "loan"
      displayName := "Loan"
      pluralName := "Loans"
      description := "Loan table"
      setName := "loans"
      primary := ⟨.firstString, "label"⟩
      attributes := [
        .naming "label" "Label",
        { logicalName := "due"
          displayName := "Due"
          kind := .dateTime .dateOnly
          inputMode := .inactive },
        { logicalName := "bookid", displayName := "Book", kind := .lookup "book" },
        { logicalName := "readerid", displayName := "Reader", kind := .lookup "person" }
      ] },
    { logicalName := "book"
      displayName := "Book"
      pluralName := "Books"
      description := "</EntityInfo>"
      setName := "books"
      primary := ⟨.firstString, "title"⟩
      attributes := [
        .naming "title" "<Title> \"&amp;\"",
        { logicalName := "kind"
          displayName := "Kind"
          kind := .choice
          optionSet? := some ⟨"book_kind", .picklist, "Kind",
            [⟨"Fact & fiction", 100000000, 1, none⟩, ⟨"'Other'", 100000001, 2, none⟩]⟩ },
        { logicalName := "lost"
          displayName := "Lost"
          kind := .boolean true
          optionSet? := some (.yesNo "book_lost" "Lost") }
      ] },
    { logicalName := "person"
      displayName := "Person"
      pluralName := "Persons"
      description := "Person table"
      setName := "persons"
      primary := ⟨.firstString, "label"⟩
      attributes := [
        .naming "label" "Label",
        { logicalName := "adviserid", displayName := "Adviser", kind := .lookup "person" }
      ] }
  ]
  relationships := [
    ⟨"x_book_loan_bookid", "loan", "book", "bookid", "Book", false⟩,
    ⟨"x_person_loan_readerid", "loan", "person", "readerid", "Reader", false⟩,
    ⟨"x_person_person_adviserid", "person", "person", "adviserid", "Adviser", false⟩
  ]
  plan :=
    ⟨[⟨"book", 0, []⟩, ⟨"person", 0, []⟩,
        ⟨"loan", 1, ["x_book_loan_bookid", "x_person_loan_readerid"]⟩],
      ["x_person_person_adviserid"]⟩

/-- The library compiles.
-/
theorem library_compiles : library.compile "x" = .ok libraryCompiled := by
  refine Schema.compile_eq_ok_iff.mpr ⟨rfl, rfl, rfl, ?_⟩
  change Dependencies.plan ⟨["loan", "book", "person"], libraryCompiled.relationships⟩
    = .ok libraryCompiled.plan
  cbv

end Tablewright
