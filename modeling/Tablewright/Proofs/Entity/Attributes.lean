import Tablewright.Proofs.Schema.Coherence

/-! The attributes of an entity are those of its table's columns, led by one that is made up when
nothing else can name a record, and at most one of them is marked as the primary name.
-/

namespace Tablewright

-----------------------------------------------------------------------------------------
-- What an entity says of its table
-----------------------------------------------------------------------------------------

/-- Nothing in a table can name a record: there is no override, no column of the conventional name
and no text.
-/
structure Table.Nameless (table : Table) (publisherPrefix : String) : Prop where
  undeclared : table.primaryNameColumn = none
  unconventional : ∀ column ∈ table.columns, column.logicalName ≠ publisherPrefix ++ "_name"
  textless : ∀ column ∈ table.columns, column.type ≠ ColumnType.string.declared

/-- An override names a column that the table does not declare.
-/
def Table.NamedElsewhere (table : Table) : Prop :=
  ∃ name,
    table.primaryNameColumn = some name
    ∧ ∀ column ∈ table.columns, column.logicalName ≠ name

/-- The attribute that is made up for a nameless table.
-/
def Table.madeUpAttribute (table : Table) : Attribute where
  logicalName := table.logicalName ++ "_name"
  displayName := table.displayName ++ " Name"
  kind := .string 200
  requiredLevel := .application
  isPrimaryName := true
  flags := { searchable := true, retrievable := true }

/-- An attribute is that of a declared column, marked when the column has the primary name and
otherwise required when the column is.
-/
structure Column.Represented (table primary : String) (column : Column) (attr : Attribute)
    : Prop where
  encoded : Attribute.ofColumn table column (column.logicalName == primary) = .ok attr
  name : attr.logicalName = column.logicalName
  marked : attr.isPrimaryName = true ↔ column.logicalName = primary
  required
    : attr.isPrimaryName = false
      → (attr.requiredLevel = .application ↔ column.required = true)

/-- The attributes of an entity are those of its table's columns in the order of declaration, behind
one that is made up exactly for a nameless table. Their names are distinct. One of them is marked,
that with the primary name, unless an override names a column elsewhere. A marked attribute is
required, searched and retrieved, any other neither searched nor retrieved. The attribute that a new
table is made with is a marked one of the primary name in any case.
-/
structure Entity.Represents (entity : Entity) (table : Table) (publisherPrefix : String)
    : Prop where
  attributes
    : ∃ declared,
        List.Forall₂ (Column.Represented table.logicalName entity.primary.name) table.columns
          declared
        ∧ (table.Nameless publisherPrefix
            → entity.attributes = table.madeUpAttribute :: declared)
        ∧ (¬ table.Nameless publisherPrefix → entity.attributes = declared)
  distinct : (entity.attributes.map (·.logicalName)).Nodup
  single
    : ¬ table.NamedElsewhere
      → ∃ attr,
          entity.attributes.filter (·.isPrimaryName) = [attr]
          ∧ attr.logicalName = entity.primary.name
  absent : table.NamedElsewhere → entity.attributes.filter (·.isPrimaryName) = []
  marked
    : ∀ attr ∈ entity.attributes,
        attr.isPrimaryName = true
        → attr.requiredLevel = .application
          ∧ attr.flags.searchable = true
          ∧ attr.flags.retrievable = true
  plain
    : ∀ attr ∈ entity.attributes,
        attr.isPrimaryName = false
        → attr.flags.searchable = false ∧ attr.flags.retrievable = false
  creation
    : entity.creationPrimary.isPrimaryName = true
      ∧ entity.creationPrimary.requiredLevel = .application
      ∧ entity.creationPrimary.logicalName = entity.primary.name

-----------------------------------------------------------------------------------------
-- Columns and their attributes
-----------------------------------------------------------------------------------------

/-- A primary name is made up exactly for a nameless table.
-/
theorem PrimaryName.choice_resolve_eq_synthesized_iff {table : Table} {publisherPrefix : String}
    : (resolve table publisherPrefix).choice = .synthesized
      ↔ table.Nameless publisherPrefix := by
  have resolved := resolves table publisherPrefix
  generalize resolve table publisherPrefix = primary at resolved ⊢
  cases resolved with
  | override declared =>
      refine iff_of_false (by simp) fun nameless => ?_
      rw [nameless.undeclared] at declared
      cases declared
  | convention _ conventional =>
      refine iff_of_false (by simp) fun nameless => ?_
      obtain ⟨member, named⟩ := Table.mem_of_find?_eq_some conventional
      exact nameless.unconventional _ member named
  | firstRequiredString _ _ member text | firstString _ _ member text =>
      refine iff_of_false (by simp) fun nameless => ?_
      exact nameless.textless _ member (Column.isString_iff.mp text)
  | synthesized undeclared unconventional textless =>
      refine iff_of_true rfl ⟨undeclared, Table.find?_eq_none_iff.mp unconventional, ?_⟩
      exact fun column member => mt Column.isString_iff.mpr (textless column member)

/-- The column that is made up for a table has the made-up attribute.
-/
theorem Attribute.ofColumn_synthesizedColumn (table : Table)
    : ofColumn table.logicalName (synthesizedColumn table (synthesizedName table)) true
      = .ok table.madeUpAttribute :=
  rfl

section OfColumn

variable {table : String} {column : Column} {isPrimaryName : Bool} {attr : Attribute}
  (encoded : Attribute.ofColumn table column isPrimaryName = .ok attr)
include encoded

/-- The attribute of a column is required when it is marked, and otherwise when the column is.
-/
theorem Attribute.requiredLevel_of_ofColumn
    : attr.requiredLevel = .application ↔ attr.isPrimaryName = true ∨ column.required = true := by
  obtain ⟨_, shape, _, _, _, rfl⟩ := ofColumn_eq_ok_iff.mp encoded
  rw [← Bool.or_eq_true]
  change (if isPrimaryName || column.required then RequiredLevel.application else _) = _
    ↔ (isPrimaryName || column.required) = true
  cases isPrimaryName || column.required with
  | true => simp
  | false => simp

/-- The attribute of a column is searched and retrieved exactly when it is marked.
-/
theorem Attribute.flags_of_ofColumn
    : attr.flags = { searchable := attr.isPrimaryName, retrievable := attr.isPrimaryName } := by
  obtain ⟨_, shape, _, _, _, rfl⟩ := ofColumn_eq_ok_iff.mp encoded
  rfl

end OfColumn

/-- The attribute of a column represents it.
-/
theorem Column.represented_of_ofColumn {table primary : String} {column : Column}
    {attr : Attribute}
    (encoded : Attribute.ofColumn table column (column.logicalName == primary) = .ok attr)
    : column.Represented table primary attr := by
  have level := Attribute.requiredLevel_of_ofColumn encoded
  obtain ⟨_, shape, _, _, _, rfl⟩ := Attribute.ofColumn_eq_ok_iff.mp encoded
  refine ⟨encoded, rfl, beq_iff_eq, fun unmarked => ?_⟩
  rw [level, unmarked]
  simp

-----------------------------------------------------------------------------------------
-- Attributes of encoded tables
-----------------------------------------------------------------------------------------

section Encoded

variable {table : Table} {publisherPrefix : String} {entity : Entity}

/-- Unless an override names a column elsewhere, one of the columns that a table is encoded with has
the primary name.
-/
theorem Table.exists_primary_of_not_namedElsewhere (here : ¬ table.NamedElsewhere)
    : ∃ column ∈ table.allColumns (PrimaryName.resolve table publisherPrefix),
        column.logicalName = (PrimaryName.resolve table publisherPrefix).name := by
  have resolved := PrimaryName.resolves table publisherPrefix
  generalize PrimaryName.resolve table publisherPrefix = primary at resolved ⊢
  cases resolved with
  | override declared =>
      by_contra none
      exact here ⟨_, declared, fun column member same => none ⟨column, member, same⟩⟩
  | convention _ conventional => exact ⟨_, Table.mem_of_find?_eq_some conventional⟩
  | firstRequiredString _ _ member _ | firstString _ _ member _ => exact ⟨_, member, rfl⟩
  | synthesized => exact ⟨_, List.mem_cons_self, rfl⟩

/-- Where an override names a column elsewhere, none of the columns that the table is encoded with
has the primary name.
-/
theorem Table.ne_primary_of_namedElsewhere (elsewhere : table.NamedElsewhere)
    : ∀ column ∈ table.allColumns (PrimaryName.resolve table publisherPrefix),
        column.logicalName ≠ (PrimaryName.resolve table publisherPrefix).name := by
  obtain ⟨name, declared, undeclared⟩ := elsewhere
  have override : PrimaryName.resolve table publisherPrefix = ⟨.override, name⟩ := by
    rw [PrimaryName.resolve, declared]
  rw [override]
  exact undeclared

/-- The attributes of an encoded table represent its columns, behind the made-up attribute of a
nameless table.
-/
theorem Entity.exists_declared_of_ofTable (encoded : ofTable table publisherPrefix = .ok entity)
    : ∃ declared,
        List.Forall₂ (Column.Represented table.logicalName entity.primary.name) table.columns
          declared
        ∧ (table.Nameless publisherPrefix
            → entity.attributes = table.madeUpAttribute :: declared)
        ∧ (¬ table.Nameless publisherPrefix → entity.attributes = declared) := by
  obtain ⟨attributes, _, columns, rfl⟩ := ofTable_eq_ok_iff.mp encoded
  have matched := encodeColumns_eq_ok_iff.mp columns
  rw [Table.allColumns] at matched
  change ∃ declared, List.Forall₂ (Column.Represented _ (PrimaryName.resolve _ _).name) _ _
    ∧ (_ → attributes = _) ∧ (_ → attributes = _)
  by_cases nameless : table.Nameless publisherPrefix
  · have made := PrimaryName.choice_resolve_eq_synthesized_iff.mpr nameless
    rw [if_pos made] at matched
    obtain ⟨attr, declared, first, others, rfl⟩ := List.forall₂_cons_left_iff.mp matched
    refine ⟨declared, others.imp fun _ _ => Column.represented_of_ofColumn, fun _ => ?_,
      absurd nameless⟩
    rw [PrimaryName.name_of_synthesized made] at first
    have marked : (synthesizedColumn table (synthesizedName table)).logicalName
        == synthesizedName table :=
      beq_self_eq_true _
    rw [marked, Attribute.ofColumn_synthesizedColumn] at first
    rw [Except.ok.inj first]
  · have declared := mt PrimaryName.choice_resolve_eq_synthesized_iff.mp nameless
    rw [if_neg declared] at matched
    exact ⟨attributes, matched.imp fun _ _ => Column.represented_of_ofColumn,
      fun now => absurd now nameless, fun _ => rfl⟩

/-- An attribute of an encoded table is marked when it has the primary name.
-/
theorem Entity.isPrimaryName_of_mem (encoded : ofTable table publisherPrefix = .ok entity)
    {attr : Attribute} (member : attr ∈ entity.attributes)
    : attr.isPrimaryName = (attr.logicalName == entity.primary.name) := by
  obtain ⟨column, _, same, marked⟩ := exists_column_of_mem encoded member
  rw [marked, same]

/-- Of an encoded table's attributes exactly one is marked, that with the primary name, unless an
override names a column elsewhere.
-/
theorem Entity.exists_filter_eq_singleton (distinct : (table.columns.map (·.logicalName)).Nodup)
    (encoded : ofTable table publisherPrefix = .ok entity) (here : ¬ table.NamedElsewhere)
    : ∃ attr,
        entity.attributes.filter (·.isPrimaryName) = [attr]
        ∧ attr.logicalName = entity.primary.name := by
  have names := attributes_nodup distinct encoded
  have marks : ∀ attr ∈ entity.attributes,
      attr.isPrimaryName = (attr.logicalName == entity.primary.name) :=
    fun attr => isPrimaryName_of_mem encoded
  obtain ⟨attributes, _, columns, rfl⟩ := ofTable_eq_ok_iff.mp encoded
  obtain ⟨column, listed, primary⟩ := Table.exists_primary_of_not_namedElsewhere here
  obtain ⟨attr, member, made⟩ :=
    exists_mem_of_forall₂ (encodeColumns_eq_ok_iff.mp columns).flip listed
  have named : attr.logicalName = (PrimaryName.resolve table publisherPrefix).name :=
    (Column.represented_of_ofColumn made).name.trans primary
  refine ⟨attr, ?_, named⟩
  rw [← filter_key_eq_singleton names member, named]
  exact List.filter_congr marks

/-- Where an override names a column elsewhere, no attribute is marked.
-/
theorem Entity.filter_eq_nil_of_namedElsewhere
    (encoded : ofTable table publisherPrefix = .ok entity) (elsewhere : table.NamedElsewhere)
    : entity.attributes.filter (·.isPrimaryName) = [] := by
  refine List.filter_eq_nil_iff.mpr fun attr member => ?_
  obtain ⟨column, listed, _, marked⟩ := exists_column_of_mem encoded member
  obtain ⟨_, _, _, rfl⟩ := ofTable_eq_ok_iff.mp encoded
  rw [marked, beq_iff_eq]
  exact Table.ne_primary_of_namedElsewhere elsewhere column listed

/-- A marked attribute of an encoded table is required, searched and retrieved.
-/
theorem Entity.demands_of_marked (encoded : ofTable table publisherPrefix = .ok entity)
    {attr : Attribute} (member : attr ∈ entity.attributes) (marked : attr.isPrimaryName = true)
    : attr.requiredLevel = .application
      ∧ attr.flags.searchable = true
      ∧ attr.flags.retrievable = true := by
  obtain ⟨_, _, made⟩ := exists_ofColumn_of_mem encoded member
  rw [Attribute.flags_of_ofColumn made]
  exact ⟨(Attribute.requiredLevel_of_ofColumn made).mpr (.inl marked), marked, marked⟩

/-- An attribute of an encoded table that is not marked is neither searched nor retrieved.
-/
theorem Entity.flags_of_unmarked (encoded : ofTable table publisherPrefix = .ok entity)
    {attr : Attribute} (member : attr ∈ entity.attributes)
    (unmarked : attr.isPrimaryName = false)
    : attr.flags.searchable = false ∧ attr.flags.retrievable = false := by
  obtain ⟨_, _, made⟩ := exists_ofColumn_of_mem encoded member
  rw [Attribute.flags_of_ofColumn made]
  exact ⟨unmarked, unmarked⟩

/-- The attribute that a new table is made with is marked, required and of the primary name.
Witness: it is the marked one, or it is made up so.
-/
theorem Entity.creationPrimary_marked (encoded : ofTable table publisherPrefix = .ok entity)
    : entity.creationPrimary.isPrimaryName = true
      ∧ entity.creationPrimary.requiredLevel = .application
      ∧ entity.creationPrimary.logicalName = entity.primary.name := by
  rw [creationPrimary, primaryAttribute?]
  cases found : entity.attributes.find? Attribute.isPrimaryName with
  | none => exact ⟨rfl, rfl, rfl⟩
  | some attr =>
      have member := List.mem_of_find?_eq_some found
      have marked := List.find?_some found
      refine ⟨marked, (demands_of_marked encoded member marked).1, ?_⟩
      exact beq_iff_eq.mp ((isPrimaryName_of_mem encoded member).symm.trans marked)

/-- An encoded table of distinct columns is represented by its entity.
-/
theorem Entity.represents_of_ofTable (distinct : (table.columns.map (·.logicalName)).Nodup)
    (encoded : ofTable table publisherPrefix = .ok entity)
    : entity.Represents table publisherPrefix where
  attributes := exists_declared_of_ofTable encoded
  distinct := attributes_nodup distinct encoded
  single := exists_filter_eq_singleton distinct encoded
  absent := filter_eq_nil_of_namedElsewhere encoded
  marked _ := demands_of_marked encoded
  plain _ := flags_of_unmarked encoded
  creation := creationPrimary_marked encoded

end Encoded

/-- Visits have nothing to be known by: a day that is required, and a site.
-/
def visit : Table where
  logicalName := "visit"
  displayName := "Visit"
  pluralName := "Visits"
  columns := [
    { Column.ofType "day" "Day" .dateOnly with required := true },
    .lookup "siteid" "Site" "site"
  ]

/-- What visits become. Their primary name is made up.
-/
def visitEntity : Entity where
  logicalName := "visit"
  displayName := "Visit"
  pluralName := "Visits"
  description := "Visit table"
  setName := "visits"
  primary := ⟨.synthesized, "visit_name"⟩
  attributes := [
    .naming "visit_name" "Visit Name",
    { logicalName := "day"
      displayName := "Day"
      kind := .dateTime .dateOnly
      requiredLevel := .application
      inputMode := .inactive },
    { logicalName := "siteid", displayName := "Site", kind := .lookup "site" }
  ]

/-- Visits are represented by their entity.
-/
theorem represents_of_ofTable_visit
    : (visit.columns.map (·.logicalName)).Nodup
      ∧ Entity.ofTable visit "x" = .ok visitEntity
      ∧ visitEntity.Represents visit "x" :=
  ⟨by decide, rfl, Entity.represents_of_ofTable (by decide) rfl⟩

end Tablewright
