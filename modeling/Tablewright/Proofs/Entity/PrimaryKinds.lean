import Tablewright.Entity.Document
import Tablewright.Proofs.Provision.Calls
import Tablewright.Proofs.Schema.Coherence

/-! Kinds of primary names: a table is created with text as its primary name, unless the column that
bears the primary name by convention is of another type.
-/

namespace Tablewright

/-- The kind is short text.
-/
def AttributeKind.isString : AttributeKind → Bool
  | .string _ => true
  | _ => false

/-- The declared column that bears a table's primary name by convention. An override leaves none.
-/
def Table.conventional? (table : Table) (publisherPrefix : String) : Option Column :=
  if table.primaryNameColumn.isSome then
    none
  else
    table.find? (conventionalName publisherPrefix)

/-- The first of a table's columns that has its primary name.
-/
def Table.primaryColumn? (table : Table) (primary : PrimaryName) : Option Column :=
  (table.allColumns primary).find? fun column => column.logicalName == primary.name

/-- The display mask that marks a primary name in a package.
-/
def primaryMask : String :=
  "PrimaryName|ValidForAdvancedFind|ValidForForm|ValidForGrid|RequiredForForm"

-----------------------------------------------------------------------------------------
-- Attributes and their columns
-----------------------------------------------------------------------------------------

/-- The attribute of a column is text exactly when the column is declared as text.
-/
theorem Attribute.isString_of_ofColumn {table : String} {column : Column} {isPrimaryName : Bool}
    {attr : Attribute} (encoded : ofColumn table column isPrimaryName = .ok attr)
    : attr.kind.isString = column.isString := by
  obtain ⟨type, shape, declared, _, determined, rfl⟩ := ofColumn_eq_ok_iff.mp encoded
  rw [Column.isString, declared, TypeName.known?_declared]
  cases Column.shapes_of_shape determined with
  | _ => rfl

/-- The first attribute that is marked as the primary name is that of the first column that has it.
-/
theorem Entity.rel_find?_of_encodeColumns {table primary : String} {columns : List Column}
    {attributes : List Attribute} (encoded : encodeColumns table primary columns = .ok attributes)
    : Option.Rel (fun column attr => Attribute.ofColumn table column true = .ok attr)
        (columns.find? fun column => column.logicalName == primary)
        (attributes.find? Attribute.isPrimaryName) := by
  have matched := encodeColumns_eq_ok_iff.mp encoded
  clear encoded
  induction matched with
  | nil => exact .none
  | @cons column attr _ _ first _ ih =>
      have marked : attr.isPrimaryName = (column.logicalName == primary) := by
        obtain ⟨_, _, _, _, _, rfl⟩ := Attribute.ofColumn_eq_ok_iff.mp first
        rfl
      rw [List.find?_cons, List.find?_cons, marked]
      cases same : column.logicalName == primary with
      | true => exact .some (same ▸ first)
      | false => exact ih

/-- A table is created with text as its primary name exactly when no column of another type has
that: where there is none at all, text is made up.
-/
theorem Entity.creationPrimary_isString_iff {table : Table} {publisherPrefix : String}
    {entity : Entity} (encoded : ofTable table publisherPrefix = .ok entity)
    : entity.creationPrimary.kind.isString = true
      ↔ ∀ column,
          table.primaryColumn? (PrimaryName.resolve table publisherPrefix) = some column
          → column.isString = true := by
  obtain ⟨attributes, _, columns, rfl⟩ := ofTable_eq_ok_iff.mp encoded
  have related := rel_find?_of_encodeColumns columns
  change (Option.getD (attributes.find? Attribute.isPrimaryName) _).kind.isString = true ↔ _
  rw [Table.primaryColumn?]
  generalize attributes.find? Attribute.isPrimaryName = marked at related
  generalize List.find? _ _ = named at related
  cases related with
  | none => exact iff_of_true rfl fun column impossible => nomatch impossible
  | some made => simp [Attribute.isString_of_ofColumn made]

-----------------------------------------------------------------------------------------
-- Columns of primary names
-----------------------------------------------------------------------------------------

section Columns

variable {table : Table} {publisherPrefix : String} {column : Column}

/-- A conventional column has the primary name.
-/
theorem Table.primaryColumn?_of_conventional
    (conventional : table.conventional? publisherPrefix = some column)
    : table.primaryColumn? (PrimaryName.resolve table publisherPrefix) = some column := by
  rw [conventional?] at conventional
  split at conventional
  · cases conventional
  · rename_i undeclared
    have resolved : PrimaryName.resolve table publisherPrefix
        = ⟨.convention, conventionalName publisherPrefix⟩ := by
      rw [Option.not_isSome_iff_eq_none] at undeclared
      simp [PrimaryName.resolve, undeclared, conventional]
    rw [resolved]
    exact conventional

/-- A column that has the primary name is text unless it is the conventional one.
Witness: an override is checked, a candidate is chosen among texts, and what is made up is text.
-/
theorem Table.isString_of_primaryColumn?
    (distinct : (table.columns.map (·.logicalName)).Nodup)
    (free : (PrimaryName.resolve table publisherPrefix).clash? table = none)
    (named : table.primaryColumn? (PrimaryName.resolve table publisherPrefix) = some column)
    : column.isString = true ∨ table.conventional? publisherPrefix = some column := by
  -- among distinct names, the column of a candidate's name is the candidate
  have only {candidate : Column} (member : candidate ∈ table.columns)
      (text : candidate.isString = true)
      (found : table.find? candidate.logicalName = some column) : column.isString = true := by
    rw [(find?_eq_some_iff distinct).mpr ⟨member, rfl⟩] at found
    exact Option.some.inj found ▸ text
  have resolved := PrimaryName.resolves table publisherPrefix
  generalize PrimaryName.resolve table publisherPrefix = primary at free named resolved
  cases resolved with
  | override =>
      have checked := Option.filter_eq_none_iff.mp free column named
      exact .inl (by simpa using checked)
  | convention undeclared =>
      rw [conventional?, undeclared]
      exact .inr named
  | firstRequiredString _ _ member text | firstString _ _ member text =>
      exact .inl (only member text named)
  | synthesized =>
      have made : table.primaryColumn? ⟨.synthesized, synthesizedName table⟩ = some _ :=
        List.find?_cons_of_pos (beq_self_eq_true _)
      obtain rfl := Option.some.inj (made.symm.trans named)
      exact .inl (Column.isString_iff.mpr rfl)

end Columns

-----------------------------------------------------------------------------------------
-- Records of the system
-----------------------------------------------------------------------------------------

/-- No record of the system is marked as a primary name.
-/
theorem AttributeRecord.displayMask_ne_of_system {table publisherPrefix : String}
    {record : AttributeRecord} (system : record ∈ systemRecords table publisherPrefix)
    : record.displayMask ≠ some primaryMask := by
  have masks
      : (systemRecords table publisherPrefix).all (·.displayMask != some primaryMask) = true := by
    rfl
  simpa using List.all_eq_true.mp masks record system

-----------------------------------------------------------------------------------------
-- Compiled schemas
-----------------------------------------------------------------------------------------

namespace CompiledSchema

variable {schema : Schema} {publisherPrefix : String} {compiled : CompiledSchema}
  (compiles : schema.compile publisherPrefix = .ok compiled)
include compiles

/-- A new table is made with text as its primary name exactly when its conventional column, if it
has one, is text.
-/
theorem creationPrimary_isString_iff {table : Table} (declared : table ∈ schema.tables)
    {entity : Entity} (encoded : Entity.ofTable table publisherPrefix = .ok entity)
    : entity.creationPrimary.kind.isString = true
      ↔ ∀ column, table.conventional? publisherPrefix = some column → column.isString = true := by
  obtain ⟨valid, _, _, _⟩ := Schema.compile_eq_ok_iff.mp compiles
  have distinct := ((Schema.validate_eq_ok_iff.mp valid).2 table declared).2.1
  obtain ⟨_, free, _, _⟩ := Entity.ofTable_eq_ok_iff.mp encoded
  rw [Entity.creationPrimary_isString_iff encoded]
  constructor
  · intro texts column conventional
    exact texts column (Table.primaryColumn?_of_conventional conventional)
  · intro texts column named
    rcases Table.isString_of_primaryColumn? distinct free named with text | conventional
    · exact text
    · exact texts column conventional

omit compiles in
/-- The attribute that is marked as a primary name is the one that a table is created with.
-/
theorem Coherent.eq_creationPrimary (coherent : compiled.Coherent) {entity : Entity}
    (listed : entity ∈ compiled.entities) {attr : Attribute} (own : attr ∈ entity.attributes)
    (marked : attr.isPrimaryName = true)
    : attr = entity.creationPrimary := by
  rw [Entity.creationPrimary, Entity.primaryAttribute?]
  cases found : entity.attributes.find? Attribute.isPrimaryName with
  | none => exact absurd marked (List.find?_eq_none.mp found attr own)
  | some other =>
      have there := List.mem_of_find?_eq_some found
      have name := (coherent.primary entity listed attr own).mp marked
      rw [← (coherent.primary entity listed other there).mp (List.find?_some found)] at name
      exact List.inj_on_of_nodup_map (coherent.attributes entity listed) own there name

/-- In a package no record but that of the attribute that a table is created with is marked as a
primary name.
-/
theorem record_eq_of_primaryMask {entity : Entity} (listed : entity ∈ compiled.entities)
    {renderPrefix : String} {record : AttributeRecord}
    (written : record ∈ entity.records renderPrefix)
    (marked : record.displayMask = some primaryMask)
    : record = .ofAttribute entity.creationPrimary := by
  have coherent := coherent_of_compile compiles
  rcases List.mem_append.mp written with own | system
  · obtain ⟨attr, member, rfl⟩ := List.mem_map.mp own
    have primary : attr.isPrimaryName = true := by
      by_contra plain
      simp only [AttributeRecord.ofAttribute, Attribute.displayMask, plain] at marked
      exact absurd marked (by decide)
    rw [coherent.eq_creationPrimary listed member primary]
  · exact absurd marked (AttributeRecord.displayMask_ne_of_system system)

end CompiledSchema

/-- An attribute is the primary name of an entity in both outputs: it alone is marked as such in a
package, and a run makes the table with nothing else.
-/
structure CompiledSchema.BearsName (compiled : CompiledSchema) (entity : Entity)
    (attr : Attribute)
    : Prop where
  marked
    : ∀ publisherPrefix, ∀ record ∈ entity.records publisherPrefix,
        record.displayMask = some primaryMask → record = .ofAttribute attr
  sent
    : ∀ {settings history result}, Dialogue.Course (Provision.run compiled settings) history result
        → ∀ exchange ∈ history,
            ∀ primary, exchange.question = .createTable entity primary → primary = attr

/-- The primary name of a declared table, in both outputs, is text exactly when the table has no
conventional column of another type.
Witness: every other choice is made among texts or checked, and the names of columns are distinct.
-/
theorem CompiledSchema.primary_isString_iff {schema : Schema} {publisherPrefix : String}
    {compiled : CompiledSchema} (compiles : schema.compile publisherPrefix = .ok compiled)
    {table : Table} (declared : table ∈ schema.tables)
    : ∃ entity,
        compiled.entity? table.logicalName = some entity
        ∧ compiled.BearsName entity entity.creationPrimary
        ∧ (entity.creationPrimary.kind.isString = true
          ↔ ∀ column,
              table.conventional? publisherPrefix = some column → column.isString = true) := by
  obtain ⟨entity, found, encoded⟩ := exists_entity_of_declared compiles declared
  have wellFormed := wellFormed_of_compile compiles
  have listed := (wellFormed.entity?_eq_some_iff.mp found).1
  refine ⟨entity, found, ⟨?_, ?_⟩, creationPrimary_isString_iff compiles declared encoded⟩
  · intro renderPrefix record written marked
    exact record_eq_of_primaryMask compiles listed written marked
  · intro settings history result course exchange member primary sent
    have allowed := (Provision.asks_run wellFormed settings).of_course course exchange member
    rw [sent] at allowed
    rcases allowed with opens | ⟨task, _, serves⟩
    · cases opens
    · cases serves
      rfl

/-- Teams are known by those who lead them.
-/
def crew : Table where
  logicalName := "team"
  displayName := "Team"
  pluralName := "Teams"
  columns := [.string "motto" "Motto", .lookup "x_name" "Lead" "person"]

/-- Persons and the teams that they lead.
-/
def crews : Schema where
  tables := [
    { logicalName := "person"
      displayName := "Person"
      pluralName := "Persons"
      columns := [.string "label" "Label"] },
    crew
  ]

/-- What crews compile to. Teams have the conventional column, which is no text.
-/
def crewsCompiled : CompiledSchema where
  entities := [
    { logicalName := "person"
      displayName := "Person"
      pluralName := "Persons"
      description := "Person table"
      setName := "persons"
      primary := ⟨.firstString, "label"⟩
      attributes := [.naming "label" "Label"] },
    { logicalName := "team"
      displayName := "Team"
      pluralName := "Teams"
      description := "Team table"
      setName := "teams"
      primary := ⟨.convention, "x_name"⟩
      attributes := [
        { logicalName := "motto", displayName := "Motto", kind := .string 200 },
        { logicalName := "x_name"
          displayName := "Lead"
          kind := .lookup "person"
          requiredLevel := .application
          isPrimaryName := true
          flags := { searchable := true, retrievable := true } }
      ] }
  ]
  relationships := [⟨"x_person_team_name", "team", "person", "x_name", "Lead", true⟩]
  plan := ⟨[⟨"person", 0, []⟩, ⟨"team", 1, ["x_person_team_name"]⟩], []⟩

/-- Crews compile.
-/
theorem crews_compile : crews.compile "x" = .ok crewsCompiled := by
  refine Schema.compile_eq_ok_iff.mpr ⟨rfl, rfl, rfl, ?_⟩
  change Dependencies.plan ⟨["person", "team"], crewsCompiled.relationships⟩
    = .ok crewsCompiled.plan
  cbv

/-- The primary name of a crew is no text, since its conventional column is a lookup.
-/
theorem primary_isString_iff_crew
    : crews.compile "x" = .ok crewsCompiled
      ∧ crew ∈ crews.tables
      ∧ crew.conventional? "x" = some (.lookup "x_name" "Lead" "person")
      ∧ ∃ entity,
          crewsCompiled.entity? crew.logicalName = some entity
          ∧ crewsCompiled.BearsName entity entity.creationPrimary
          ∧ (entity.creationPrimary.kind.isString = true
            ↔ ∀ column, crew.conventional? "x" = some column → column.isString = true) :=
  have declared : crew ∈ crews.tables := .tail _ (.head _)
  ⟨crews_compile, declared, by decide,
    CompiledSchema.primary_isString_iff crews_compile declared⟩

/-- Not every primary name is text: crews are created with a lookup.
-/
theorem crews_primary_not_isString
    : ¬ ∀ (schema : Schema) (publisherPrefix : String) (compiled : CompiledSchema),
          schema.compile publisherPrefix = .ok compiled
          → ∀ entity ∈ compiled.entities, entity.creationPrimary.kind.isString = true := by
  intro all
  have texts
      : crewsCompiled.entities.all (fun entity => entity.creationPrimary.kind.isString) = true :=
    List.all_eq_true.mpr (all crews "x" crewsCompiled crews_compile)
  exact absurd texts (by decide)

end Tablewright
