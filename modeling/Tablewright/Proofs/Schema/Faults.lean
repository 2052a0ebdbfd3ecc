import Tablewright.Proofs.Schema.Acceptance
import Tablewright.Proofs.Schema.Coherence

/-! What an error says of a schema is true: the table and the column that it names are declared, and
they break the rule that it states.
-/

namespace Tablewright

-----------------------------------------------------------------------------------------
-- Rules that definitions break
-----------------------------------------------------------------------------------------

/-- A column of a table that breaks a rule for columns, among some tables, with the error that says
so.
-/
inductive Column.Breaks (tables : List String) (table : String) (column : Column)
    : SchemaError → Prop
  | name (malformed : ¬ IsLogicalName column.logicalName)
    : Breaks tables table column (.invalidName table column.logicalName)
  | type (unknown : ∀ type : ColumnType, type.name ≠ column.type.name)
    : Breaks tables table column
        (.unknownColumnType table column.logicalName column.type.name)
  | length (zero : column.maxLength = some 0)
    : Breaks tables table column (.zeroMaxLength table column.logicalName)
  | missingTarget (lookup : column.type = ColumnType.lookup.declared)
    (missing : column.target = none)
    : Breaks tables table column (.missingTarget table column.logicalName)
  | unknownTarget {target : String} (lookup : column.type = ColumnType.lookup.declared)
    (refers : column.target = some target) (unknown : target ∉ tables)
    : Breaks tables table column (.unknownTarget table column.logicalName target)
  | emptyChoice (choice : column.type = ColumnType.choice.declared)
    (empty : column.options = [])
    : Breaks tables table column (.emptyChoice table column.logicalName)
  | repeatedValue {value : Int32} (choice : column.type = ColumnType.choice.declared)
    (twice : 2 ≤ column.effectiveValues.count value)
    : Breaks tables table column (.duplicateOptionValue table column.logicalName value)

/-- A table of a schema that breaks a rule, by itself or by one of its columns, with the error that
says so.
-/
inductive Table.Breaks (schema : Schema) (publisherPrefix : String) (table : Table)
    : SchemaError → Prop
  | name (malformed : ¬ IsLogicalName table.logicalName)
    : Breaks schema publisherPrefix table (.invalidName table.logicalName table.logicalName)
  | repeatedTable (twice : 2 ≤ schema.tableNames.count table.logicalName)
    : Breaks schema publisherPrefix table (.duplicateTable table.logicalName)
  | repeatedColumn {column : Column} (own : column ∈ table.columns)
    (twice : 2 ≤ (table.columns.map (·.logicalName)).count column.logicalName)
    : Breaks schema publisherPrefix table
        (.duplicateColumn table.logicalName column.logicalName)
  | primary {column : Column} (own : column ∈ table.columns)
    (named : column.logicalName = (PrimaryName.resolve table publisherPrefix).name)
    (other : column.type ≠ ColumnType.string.declared)
    : Breaks schema publisherPrefix table
        (.nonTextPrimary table.logicalName column.logicalName column.type.name)
  | column {column : Column} {error : SchemaError} (own : column ∈ table.columns)
    (breaks : column.Breaks schema.tableNames table.logicalName error)
    : Breaks schema publisherPrefix table error

/-- The declared columns of a schema, each with its table, in the order of tables and columns.
-/
def Schema.places (schema : Schema) : List (Table × Column) :=
  schema.tables.flatMap fun table => table.columns.map fun column => (table, column)

/-- The name of a declared column behind that of its table.
-/
def ColumnName.ofPlace (place : Table × Column) : ColumnName :=
  ⟨place.1.logicalName, place.2.logicalName⟩

/-- A name stands for a declared column, and its text for no other one.
-/
structure Schema.Denotes (schema : Schema) (name : ColumnName) (place : Table × Column)
    : Prop where
  declared : place ∈ schema.places
  named : name = .ofPlace place
  only
    : ∀ other ∈ schema.places, (ColumnName.ofPlace other).text = name.text → other = place

/-- A declared column is a lookup whose relationship has a name.
-/
def Column.Produces (publisherPrefix name : String) (place : Table × Column) : Prop :=
  place.2.type = ColumnType.lookup.declared
  ∧ ∃ target,
      place.2.target = some target
      ∧ Relationship.nameFor publisherPrefix target place.1.logicalName place.2.logicalName
        = name

/-- What an error says of a schema is so. Either one of its tables breaks a rule and is blamed for
it, or two of its lookups, named in the order of their declaration, have relationships of one name.
-/
inductive Schema.Explains (schema : Schema) (publisherPrefix : String) : SchemaError → Prop
  | fault {table : Table} {error : SchemaError} (declared : table ∈ schema.tables)
    (breaks : table.Breaks schema publisherPrefix error)
    (blamed : error.table? = some table.logicalName)
    : Explains schema publisherPrefix error
  | collision {name : String} {first second : ColumnName} {earlier later : Table × Column}
    (order : [earlier, later].Sublist schema.places)
    (different : earlier ≠ later)
    (denotesFirst : schema.Denotes first earlier)
    (denotesSecond : schema.Denotes second later)
    (one : Column.Produces publisherPrefix name earlier)
    (other : Column.Produces publisherPrefix name later)
    : Explains schema publisherPrefix (.duplicateRelationship name first second)

-----------------------------------------------------------------------------------------
-- Errors of columns
-----------------------------------------------------------------------------------------

section Columns

variable {tables : List String} {table : String} {column : Column} {error : SchemaError}

/-- A target that is refused breaks a rule.
-/
theorem Column.breaks_of_checkTarget (fails : Schema.checkTarget tables table column = .error error)
    : column.Breaks tables table error := by
  rw [Schema.checkTarget] at fails
  split at fails
  · rename_i lookup
    have declared := TypeName.known?_eq_some_iff.mp lookup
    cases refers : column.target with
    | none =>
        rw [refers] at fails
        cases fails
        exact .missingTarget declared refers
    | some target =>
        simp only [refers] at fails
        split at fails
        · cases fails
        · rename_i unknown
          cases fails
          exact .unknownTarget declared refers unknown
  · cases fails

/-- The value of a repeated entry is there twice.
-/
theorem two_le_count_of_firstRepeat? {seen : List Int32} {entries : List OptionEntry}
    {entry : OptionEntry} (found : firstRepeat? seen entries = some entry)
    : 2 ≤ (seen ++ entries.map (·.provisionValue)).count entry.provisionValue := by
  obtain ⟨before, behind, rfl, _, among⟩ := exists_split_of_firstRepeat? found
  rw [List.map_append, List.map_cons, ← List.append_assoc]
  exact two_le_count_of_mem among

/-- A choice whose options are refused breaks a rule.
-/
theorem Column.breaks_of_choiceSet (choice : column.type = ColumnType.choice.declared)
    (fails : column.choiceSet table = .error error)
    : column.Breaks tables table error := by
  rw [choiceSet] at fails
  split at fails
  · rename_i empty
    cases fails
    exact .emptyChoice choice (List.isEmpty_iff.mp empty)
  · cases repeated : firstRepeat? [] column.entries with
    | none =>
        rw [repeated] at fails
        cases fails
    | some entry =>
        rw [repeated] at fails
        cases fails
        have twice := two_le_count_of_firstRepeat? repeated
        rw [List.nil_append, entries_map_provisionValue] at twice
        exact .repeatedValue choice twice

/-- A column of a known type whose shape is not determined breaks a rule.
-/
theorem Column.breaks_of_shape {type : ColumnType} (declared : column.type = type.declared)
    (fails : column.shape table type = .error error)
    : column.Breaks tables table error := by
  cases type with
  | lookup =>
      cases refers : column.target with
      | none =>
          simp only [shape, refers] at fails
          cases fails
          exact .missingTarget declared refers
      | some target => simp [shape, refers] at fails
  | choice =>
      cases chosen : column.choiceSet table with
      | error cause =>
          simp only [shape, chosen] at fails
          cases fails
          exact breaks_of_choiceSet declared chosen
      | ok set => simp [shape, chosen] at fails
  | _ => cases fails

/-- A column that cannot be encoded breaks a rule.
-/
theorem Column.breaks_of_ofColumn {isPrimaryName : Bool}
    (fails : Attribute.ofColumn table column isPrimaryName = .error error)
    : column.Breaks tables table error := by
  rw [Attribute.ofColumn] at fails
  cases known : column.type.known? with
  | none =>
      simp only [known] at fails
      cases fails
      refine .type fun type same => ?_
      have declared : column.type.known? = some type :=
        TypeName.known?_eq_some_iff.mpr (congrArg TypeName.mk same.symm)
      rw [known] at declared
      cases declared
  | some type =>
      simp only [known] at fails
      split at fails
      · rename_i zero
        cases fails
        exact .length zero
      · rcases bind_eq_error_iff.mp fails with undetermined | ⟨_, _, impossible⟩
        · exact breaks_of_shape (TypeName.known?_eq_some_iff.mp known) undetermined
        · cases impossible

/-- The error of a column blames its table.
-/
theorem Column.Breaks.table?_eq (breaks : column.Breaks tables table error)
    : error.table? = some table := by
  cases breaks with
  | _ => rfl

end Columns

-----------------------------------------------------------------------------------------
-- Errors of tables
-----------------------------------------------------------------------------------------

/-- A name that a check finds malformed is.
-/
theorem malformed_of_check {name : String} (malformed : (!isLogicalName name) = true)
    : ¬ IsLogicalName name := by
  rw [← isLogicalName_iff]
  simpa using malformed

/-- Of columns that are refused, one breaks a rule or has a name that is there twice.
-/
theorem Schema.exists_of_checkColumns {tables seen : List String} {table : String}
    {columns : List Column} {error : SchemaError}
    (fails : checkColumns tables table seen columns = .error error)
    : ∃ column ∈ columns,
        column.Breaks tables table error
        ∨ 2 ≤ (seen ++ columns.map (·.logicalName)).count column.logicalName
          ∧ error = .duplicateColumn table column.logicalName := by
  induction columns generalizing seen with
  | nil => cases fails
  | cons column rest ih =>
      rw [checkColumns] at fails
      split at fails
      · rename_i malformed
        cases fails
        exact ⟨column, List.mem_cons_self, .inl (.name (malformed_of_check malformed))⟩
      · split at fails
        · rename_i repeated
          cases fails
          exact ⟨column, List.mem_cons_self, .inr ⟨two_le_count_of_mem repeated, rfl⟩⟩
        · rcases bind_eq_error_iff.mp fails with refused | ⟨_, _, later⟩
          · exact ⟨column, List.mem_cons_self, .inl (Column.breaks_of_checkTarget refused)⟩
          · obtain ⟨other, member, breaks | ⟨twice, same⟩⟩ := ih later
            · exact ⟨other, List.mem_cons_of_mem _ member, .inl breaks⟩
            · exact ⟨other, List.mem_cons_of_mem _ member,
                .inr ⟨two_le_count_of_seen twice, same⟩⟩

/-- Of tables that are refused by their names, one has a malformed name or one that is there twice.
-/
theorem Schema.exists_of_checkTableNames {seen : List String} {tables : List Table}
    {error : SchemaError} (fails : checkTableNames seen tables = .error error)
    : ∃ table ∈ tables,
        ¬ IsLogicalName table.logicalName
          ∧ error = .invalidName table.logicalName table.logicalName
        ∨ 2 ≤ (seen ++ tables.map (·.logicalName)).count table.logicalName
          ∧ error = .duplicateTable table.logicalName := by
  induction tables generalizing seen with
  | nil => cases fails
  | cons table rest ih =>
      rw [checkTableNames] at fails
      split at fails
      · rename_i malformed
        cases fails
        exact ⟨table, List.mem_cons_self, .inl ⟨malformed_of_check malformed, rfl⟩⟩
      · split at fails
        · rename_i repeated
          cases fails
          exact ⟨table, List.mem_cons_self, .inr ⟨two_le_count_of_mem repeated, rfl⟩⟩
        · obtain ⟨other, member, malformed | ⟨twice, same⟩⟩ := ih fails
          · exact ⟨other, List.mem_cons_of_mem _ member, .inl malformed⟩
          · exact ⟨other, List.mem_cons_of_mem _ member,
              .inr ⟨two_le_count_of_seen twice, same⟩⟩

/-- Of tables that are refused by their columns, the columns of one are refused.
-/
theorem Schema.exists_of_checkTables {names : List String} {tables : List Table}
    {error : SchemaError} (fails : checkTables names tables = .error error)
    : ∃ table ∈ tables, checkColumns names table.logicalName [] table.columns = .error error := by
  induction tables with
  | nil => cases fails
  | cons table rest ih =>
      rw [checkTables] at fails
      rcases bind_eq_error_iff.mp fails with refused | ⟨_, _, later⟩
      · exact ⟨table, List.mem_cons_self, refused⟩
      · obtain ⟨other, member, refused⟩ := ih later
        exact ⟨other, List.mem_cons_of_mem _ member, refused⟩

section Tables

variable {schema : Schema} {publisherPrefix : String} {error : SchemaError}

/-- In a schema that is refused as a whole, a table breaks a rule.
-/
theorem Schema.exists_breaks_of_validate (fails : schema.validate = .error error)
    : ∃ table ∈ schema.tables, table.Breaks schema publisherPrefix error := by
  rw [validate] at fails
  rcases bind_eq_error_iff.mp fails with names | ⟨_, _, columns⟩
  · obtain ⟨table, declared, ⟨malformed, rfl⟩ | ⟨twice, rfl⟩⟩ := exists_of_checkTableNames names
    · exact ⟨table, declared, .name malformed⟩
    · exact ⟨table, declared, .repeatedTable twice⟩
  · obtain ⟨table, declared, refused⟩ := exists_of_checkTables columns
    obtain ⟨column, own, breaks | ⟨twice, rfl⟩⟩ := exists_of_checkColumns refused
    · exact ⟨table, declared, .column own breaks⟩
    · exact ⟨table, declared, .repeatedColumn own twice⟩

/-- A column that stands in the way of a table's primary name has that name and is no text.
-/
theorem PrimaryName.clash?_resolve_eq_some {table : Table} {column : Column}
    (found : (resolve table publisherPrefix).clash? table = some column)
    : column ∈ table.columns
      ∧ column.logicalName = (resolve table publisherPrefix).name
      ∧ column.type ≠ ColumnType.string.declared := by
  have resolved := resolves table publisherPrefix
  generalize resolve table publisherPrefix = primary at found resolved ⊢
  cases resolved with
  | override =>
      obtain ⟨there, other⟩ := Option.filter_eq_some_iff.mp found
      obtain ⟨own, named⟩ := Table.mem_of_find?_eq_some there
      exact ⟨own, named, fun text => by simp [Column.isString_iff.mpr text] at other⟩
  | synthesized _ _ textless =>
      obtain ⟨own, named⟩ := Table.mem_of_find?_eq_some found
      exact ⟨own, named, mt Column.isString_iff.mpr (textless column own)⟩
  | convention | firstRequiredString | firstString => cases found

/-- Of columns that cannot all be encoded, one cannot.
-/
theorem Entity.exists_of_encodeColumns {table primary : String} {columns : List Column}
    (fails : encodeColumns table primary columns = .error error)
    : ∃ column ∈ columns,
        Attribute.ofColumn table column (column.logicalName == primary) = .error error := by
  induction columns with
  | nil => cases fails
  | cons column rest ih =>
      rw [encodeColumns] at fails
      rcases bind_eq_error_iff.mp fails with refused | ⟨_, _, others⟩
      · exact ⟨column, List.mem_cons_self, refused⟩
      · rcases bind_eq_error_iff.mp others with later | ⟨_, _, impossible⟩
        · obtain ⟨other, member, refused⟩ := ih later
          exact ⟨other, List.mem_cons_of_mem _ member, refused⟩
        · cases impossible

/-- A table that cannot be encoded breaks a rule.
Witness: a column that is made up can be encoded, so that the one that cannot is declared.
-/
theorem Table.breaks_of_ofTable {table : Table}
    (fails : Entity.ofTable table publisherPrefix = .error error)
    : table.Breaks schema publisherPrefix error := by
  rw [Entity.ofTable] at fails
  rcases bind_eq_error_iff.mp fails with clash | ⟨columns, fit, encoding⟩
  · rw [PrimaryName.columns] at clash
    cases found : (PrimaryName.resolve table publisherPrefix).clash? table with
    | some column =>
        rw [found] at clash
        cases clash
        obtain ⟨own, named, other⟩ := PrimaryName.clash?_resolve_eq_some found
        exact .primary own named other
    | none =>
        simp only [found] at clash
        split at clash
        · cases clash
        · cases clash
  · obtain ⟨_, rfl⟩ := PrimaryName.columns_eq_ok_iff.mp fit
    rcases bind_eq_error_iff.mp encoding with refused | ⟨_, _, impossible⟩
    · obtain ⟨column, listed, unencoded⟩ := Entity.exists_of_encodeColumns refused
      have declared : column ∈ table.columns := by
        rw [allColumns] at listed
        split at listed
        · rcases List.mem_cons.mp listed with rfl | own
          · obtain ⟨attr, made⟩ := Attribute.exists_ofColumn_iff.mpr
              (synthesizedColumn_encodable table (PrimaryName.resolve table publisherPrefix).name)
            rw [made] at unencoded
            cases unencoded
          · exact own
        · exact listed
      exact .column declared (Column.breaks_of_ofColumn unencoded)
    · cases impossible

/-- In a schema whose tables cannot all be encoded, a table breaks a rule.
-/
theorem Schema.exists_breaks_of_entities {tables : List Table}
    (fails : entities publisherPrefix tables = .error error)
    : ∃ table ∈ tables, table.Breaks schema publisherPrefix error := by
  induction tables with
  | nil => cases fails
  | cons table rest ih =>
      rw [entities] at fails
      rcases bind_eq_error_iff.mp fails with refused | ⟨_, _, others⟩
      · exact ⟨table, List.mem_cons_self, Table.breaks_of_ofTable refused⟩
      · rcases bind_eq_error_iff.mp others with later | ⟨_, _, impossible⟩
        · obtain ⟨other, member, breaks⟩ := ih later
          exact ⟨other, List.mem_cons_of_mem _ member, breaks⟩
        · cases impossible

/-- The error of a table blames the table.
-/
theorem Table.Breaks.table?_eq {table : Table} (breaks : table.Breaks schema publisherPrefix error)
    : error.table? = some table.logicalName := by
  cases breaks with
  | column _ breaks => exact breaks.table?_eq
  | _ => rfl

end Tables

-----------------------------------------------------------------------------------------
-- Errors of relationships
-----------------------------------------------------------------------------------------

/-- Relationships to known tables are refused for one that has the name of an earlier one.
-/
theorem Relationship.exists_of_accept {known : List String} {accepted rest : List Relationship}
    {error : SchemaError} (targets : ∀ link ∈ rest, link.referencedTable ∈ known)
    (fails : accept known accepted rest = .error error)
    : ∃ before second after,
        accepted ++ rest = before ++ second :: after
        ∧ ∃ first ∈ before,
            first.name = second.name
            ∧ error = .duplicateRelationship second.name first.source second.source := by
  induction rest generalizing accepted with
  | nil => cases fails
  | cons link rest ih =>
      obtain ⟨there, others⟩ := List.forall_mem_cons.mp targets
      rw [accept, if_pos there] at fails
      cases found : accepted.find? fun other => other.name == link.name with
      | some first =>
          rw [found] at fails
          cases fails
          exact ⟨accepted, link, rest, rfl, first, List.mem_of_find?_eq_some found,
            by simpa using List.find?_some found, rfl⟩
      | none =>
          rw [found] at fails
          obtain ⟨before, second, after, split, named⟩ := ih others fails
          rw [List.append_assoc, List.singleton_append] at split
          exact ⟨before, second, after, split, named⟩

/-- The relationship that a declared column gives rise to, if it is a lookup.
-/
def Relationship.ofPlace? (publisherPrefix : String) (place : Table × Column)
    : Option Relationship :=
  place.2.relationship? publisherPrefix place.1.logicalName
    (place.2.logicalName == (PrimaryName.resolve place.1 publisherPrefix).name)

/-- A column that gives rise to a relationship produces its name and is its source.
-/
theorem Relationship.produces_of_ofPlace? {publisherPrefix : String} {place : Table × Column}
    {link : Relationship} (made : ofPlace? publisherPrefix place = some link)
    : Column.Produces publisherPrefix link.name place ∧ link.source = .ofPlace place := by
  obtain ⟨target, refers, rfl⟩ := Option.map_eq_some_iff.mp made
  obtain ⟨lookup, referred⟩ := Option.ite_none_right_eq_some.mp refers
  exact ⟨⟨lookup, target, referred, rfl⟩, rfl⟩

/-- Results of a list of which one is before another come from elements in that order.
-/
theorem exists_pair_sublist_of_filterMap {α β : Type} {f : α → Option β} {list : List α}
    {before after : List β} {first second : β}
    (split : list.filterMap f = before ++ second :: after) (member : first ∈ before)
    : ∃ earlier later,
        [earlier, later].Sublist list ∧ f earlier = some first ∧ f later = some second := by
  obtain ⟨front, back, rfl, rfl, behind⟩ := List.filterMap_eq_append_iff.mp split
  obtain ⟨earlier, inFront, madeFirst⟩ := List.mem_filterMap.mp member
  obtain ⟨later, inBack, madeSecond⟩ := List.mem_filterMap.mp (behind ▸ List.mem_cons_self)
  exact ⟨earlier, later,
    (List.singleton_sublist.mpr inFront).append (List.singleton_sublist.mpr inBack),
    madeFirst, madeSecond⟩

section Relationships

variable {schema : Schema} {publisherPrefix : String}

/-- The declared columns are those of the tables.
-/
theorem Schema.mem_places_iff {place : Table × Column}
    : place ∈ schema.places ↔ place.1 ∈ schema.tables ∧ place.2 ∈ place.1.columns := by
  obtain ⟨table, column⟩ := place
  simp only [places, List.mem_flatMap, List.mem_map, Prod.mk.injEq]
  constructor
  · intro listed
    obtain ⟨_, declared, _, own, rfl, rfl⟩ := listed
    exact ⟨declared, own⟩
  · intro parts
    exact ⟨table, parts.1, column, parts.2, rfl, rfl⟩

/-- The relationships of a schema come from its declared columns, in their order.
-/
theorem Schema.relationships_eq_filterMap
    : schema.tables.flatMap (Table.relationships publisherPrefix)
      = schema.places.filterMap (Relationship.ofPlace? publisherPrefix) := by
  simp only [places, List.filterMap_flatMap, List.filterMap_map, Function.comp_def,
    Relationship.ofPlace?]
  rfl

/-- In a valid schema the name of a declared column stands for it.
Witness: names have no full stop, and those of tables and of a table's columns are distinct.
-/
theorem Schema.denotes_ofPlace (valid : schema.validate = .ok ()) {place : Table × Column}
    (declared : place ∈ schema.places)
    : schema.Denotes (.ofPlace place) place := by
  obtain ⟨distinct, tables⟩ := validate_eq_ok_iff.mp valid
  refine ⟨declared, rfl, fun other listed same => ?_⟩
  obtain ⟨table, column⟩ := place
  obtain ⟨otherTable, otherColumn⟩ := other
  obtain ⟨here, own⟩ := mem_places_iff.mp declared
  obtain ⟨there, others⟩ := mem_places_iff.mp listed
  obtain ⟨tableNamed, columnsDistinct, columns⟩ := tables table here
  obtain ⟨tableSame, columnSame⟩ := tableNamed.label_inj (columns column own).1 same.symm
  obtain rfl := List.inj_on_of_nodup_map distinct here there tableSame
  obtain rfl := List.inj_on_of_nodup_map columnsDistinct own others columnSame
  rfl

/-- The entities of a valid schema have relationships of distinct sources.
-/
theorem Schema.sources_nodup_of_validate (valid : schema.validate = .ok ())
    {entities : List Entity}
    (encoded : Schema.entities publisherPrefix schema.tables = .ok entities)
    : ((Relationship.ofEntities publisherPrefix entities).map (·.source)).Nodup := by
  obtain ⟨distinct, tables⟩ := validate_eq_ok_iff.mp valid
  refine Relationship.sources_nodup ?_ fun entity listed => ?_
  · rw [entities_map_logicalName encoded]
    exact distinct
  · obtain ⟨table, declared, made⟩ :=
      exists_mem_of_forall₂ (entities_eq_ok_iff.mp encoded) listed
    exact Entity.attributes_nodup (tables table declared).2.1 made

/-- When the relationships of a valid schema are refused, two of its lookups have relationships of
one name.
-/
theorem Schema.explains_of_discover (valid : schema.validate = .ok ()) {entities : List Entity}
    (encoded : Schema.entities publisherPrefix schema.tables = .ok entities) {error : SchemaError}
    (fails : Relationship.discover entities publisherPrefix = .error error)
    : schema.Explains publisherPrefix error := by
  have relationships := Relationship.ofEntities_eq encoded
  have targets : ∀ link ∈ Relationship.ofEntities publisherPrefix entities,
      link.referencedTable ∈ entities.map (·.logicalName) := by
    rw [relationships, entities_map_logicalName encoded]
    exact fun link => referencedTable_mem_tableNames valid
  obtain ⟨before, second, after, split, first, member, same, rfl⟩ :=
    Relationship.exists_of_accept targets fails
  rw [List.nil_append] at split
  have different : first.source ≠ second.source := by
    have sources := sources_nodup_of_validate valid encoded
    rw [split, List.map_append, List.nodup_append] at sources
    exact sources.2.2 _ (List.mem_map_of_mem member) _ (List.mem_cons_self ..)
  -- The two relationships lead back to places in that order, which their sources name.
  rw [relationships, relationships_eq_filterMap] at split
  obtain ⟨earlier, later, order, madeFirst, madeSecond⟩ :=
    exists_pair_sublist_of_filterMap split member
  obtain ⟨one, firstSource⟩ := Relationship.produces_of_ofPlace? madeFirst
  obtain ⟨other, secondSource⟩ := Relationship.produces_of_ofPlace? madeSecond
  rw [firstSource, secondSource] at different ⊢
  exact .collision order (fun equal => different (congrArg ColumnName.ofPlace equal))
    (denotes_ofPlace valid (order.subset (by simp)))
    (denotes_ofPlace valid (order.subset (by simp)))
    (same ▸ one) other

/-- What the error of a schema that does not compile says of the schema is so.
Witness: the plan is never refused, so that the error is one of the checks before it.
-/
theorem Schema.explains_of_compile {error : SchemaError}
    (fails : schema.compile publisherPrefix = .error error)
    : schema.Explains publisherPrefix error := by
  have explained (table : Table) (declared : table ∈ schema.tables)
      (breaks : table.Breaks schema publisherPrefix error)
      : schema.Explains publisherPrefix error :=
    .fault declared breaks breaks.table?_eq
  rw [compile] at fails
  rcases bind_eq_error_iff.mp fails with refused | ⟨_, valid, later⟩
  · obtain ⟨table, declared, breaks⟩ := exists_breaks_of_validate refused
    exact explained table declared breaks
  rcases bind_eq_error_iff.mp later with refused | ⟨entities, encoded, later⟩
  · obtain ⟨table, declared, breaks⟩ := exists_breaks_of_entities refused
    exact explained table declared breaks
  rcases bind_eq_error_iff.mp later with refused | ⟨relationships, accepted, later⟩
  · exact explains_of_discover valid encoded refused
  obtain ⟨plan, _, planned, _⟩ :=
    Dependencies.exists_plan ⟨entities.map (·.logicalName), relationships⟩
  rw [planned] at later
  cases later

end Relationships

/-- Letters have two senders, whose columns differ by the prefix of the publisher alone.
-/
def correspondence : Schema where
  tables := [
    ⟨"person", "Person", "People", none, none, []⟩,
    ⟨"letter", "Letter", "Letters", none, none,
      [.lookup "sender" "Sender" "person", .lookup "x_sender" "Second Sender" "person"]⟩
  ]

/-- The senders of letters have relationships of one name, which is what the error says.
-/
theorem explains_of_compile_correspondence
    : correspondence.compile "x"
        = .error (.duplicateRelationship "x_person_letter_sender"
            ⟨"letter", "sender"⟩ ⟨"letter", "x_sender"⟩)
      ∧ correspondence.Explains "x"
        (.duplicateRelationship "x_person_letter_sender"
          ⟨"letter", "sender"⟩ ⟨"letter", "x_sender"⟩) :=
  ⟨rfl, Schema.explains_of_compile rfl⟩

end Tablewright
