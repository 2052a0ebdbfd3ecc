import Tablewright.Proofs.Checks
import Tablewright.Schema.Compile

/-! What encoding a schema gives when it succeeds: an attribute for every column, an entity for
every table.
-/

namespace Tablewright

-----------------------------------------------------------------------------------------
-- Attributes
-----------------------------------------------------------------------------------------

/-- The values of a choice's options in a live store: the declared ones, and for the other options
their positions counted from one.
-/
def Column.effectiveValues (column : Column) : List Int32 :=
  column.options.mapIdx fun position option =>
    option.value?.getD (Int32.ofNat (position + 1))

/-- The attribute that a column becomes once its shape is known.
-/
def Column.attribute (column : Column) (shape : AttributeShape) (isPrimaryName : Bool)
    : Attribute where
  logicalName := column.logicalName
  displayName := column.displayName
  kind := shape.kind
  requiredLevel := if isPrimaryName || column.required then .application else .optional
  isPrimaryName
  flags := { searchable := isPrimaryName, retrievable := isPrimaryName }
  inputMode := shape.inputMode
  optionSet? := shape.optionSet?

/-- The attribute of a column is required as a primary name, and otherwise when the column is.
-/
theorem Column.requiredLevel_attribute_bne_optional (column : Column) (shape : AttributeShape)
    (isPrimaryName : Bool)
    : ((column.attribute shape isPrimaryName).requiredLevel != .optional)
      = (isPrimaryName || column.required) := by
  rw [Column.attribute]
  cases isPrimaryName || column.required with
  | _ => rfl

/-- A declared name stands for a type exactly when it is the declared name of that type.
-/
theorem TypeName.known?_eq_some_iff {declared : TypeName} {type : ColumnType}
    : declared.known? = some type ↔ declared = type.declared := by
  obtain ⟨name⟩ := declared
  simp only [known?, ColumnType.ofName?, ColumnType.declared, TypeName.mk.injEq]
  constructor
  · intro found
    have same := List.find?_some found
    exact (beq_iff_eq.mp same).symm
  · intro same
    obtain rfl := same
    cases type <;> decide

/-- The declared name of a type stands for that.
-/
@[simp]
theorem TypeName.known?_declared (type : ColumnType) : type.declared.known? = some type :=
  known?_eq_some_iff.mpr rfl

/-- Different types have different names.
-/
theorem ColumnType.declared_injective : Function.Injective ColumnType.declared := by
  intro type other same
  have known : type.declared.known? = some other :=
    TypeName.known?_eq_some_iff.mpr same
  rw [TypeName.known?_declared] at known
  exact Option.some.inj known

/-- Values are fresh exactly when no entry repeats one.
-/
theorem firstRepeat?_eq_none_iff {seen : List Int32} {entries : List OptionEntry}
    : firstRepeat? seen entries = none ↔ Fresh seen (entries.map (·.provisionValue)) := by
  induction entries generalizing seen with
  | nil => simp [firstRepeat?]
  | cons entry rest ih =>
      simp only [firstRepeat?, List.map_cons, fresh_cons_iff]
      by_cases repeated : entry.provisionValue ∈ seen
      · simp [repeated]
      · simp [repeated, ih]

/-- The first entry that repeats a value stands behind entries with fresh values, and its own value
is among those or has been seen.
-/
theorem exists_split_of_firstRepeat? {seen : List Int32} {entries : List OptionEntry}
    {entry : OptionEntry} (found : firstRepeat? seen entries = some entry)
    : ∃ before behind,
        entries = before ++ entry :: behind
        ∧ Fresh seen (before.map (·.provisionValue))
        ∧ entry.provisionValue ∈ seen ++ before.map (·.provisionValue) := by
  induction entries generalizing seen with
  | nil => cases found
  | cons head rest ih =>
      rw [firstRepeat?] at found
      split at found
      · rename_i repeated
        cases found
        exact ⟨[], rest, rfl, fresh_nil, List.mem_append_left _ repeated⟩
      · rename_i new
        obtain ⟨before, behind, rfl, fresh, among⟩ := ih found
        refine ⟨head :: before, behind, rfl, fresh_cons_iff.mpr ⟨new, fresh⟩, ?_⟩
        exact List.perm_middle.mem_iff.mpr among

/-- The entries of a choice carry the values of its options.
-/
theorem Column.entries_map_provisionValue (column : Column)
    : column.entries.map (·.provisionValue) = column.effectiveValues := by
  refine List.ext_getElem (by simp [entries, effectiveValues]) fun position _ _ => ?_
  simp [entries, effectiveValues, ChoiceOption.entry, Int32.ofNat_add]

/-- A choice has an option set when it has options and no two of them have one value.
-/
theorem Column.choiceSet_eq_ok_iff {table : String} {column : Column} {set : OptionSet}
    : column.choiceSet table = .ok set
      ↔ column.options ≠ []
        ∧ column.effectiveValues.Nodup
        ∧ set = ⟨column.optionSetName table, .picklist, column.displayName, column.entries⟩ := by
  rw [← entries_map_provisionValue, ← fresh_nil_left, ← firstRepeat?_eq_none_iff]
  simp only [choiceSet, List.isEmpty_iff]
  by_cases empty : column.options = []
  · simp [empty]
  · cases firstRepeat? [] column.entries with
    | none => simp [empty, eq_comm]
    | some entry => simp [empty]

/-- The shape of a column of a known type is determined, but for a lookup without a target and a
choice without options or with repeated values.
-/
theorem Column.exists_shape_iff {table : String} {column : Column} {type : ColumnType}
    : (∃ shape, column.shape table type = .ok shape)
      ↔ (type = .lookup → ∃ target, column.target = some target)
        ∧ (type = .choice → column.options ≠ [] ∧ column.effectiveValues.Nodup) := by
  cases type with
  | lookup => cases target : column.target <;> simp [shape, target]
  | choice =>
      simp only [shape, true_implies, reduceCtorEq, false_implies, true_and]
      constructor
      · intro determined
        obtain ⟨_, found⟩ := determined
        cases chosen : column.choiceSet table with
        | error cause => simp [chosen] at found
        | ok set =>
            obtain ⟨options, distinct, _⟩ := choiceSet_eq_ok_iff.mp chosen
            exact ⟨options, distinct⟩
      · intro chosen
        obtain ⟨options, distinct⟩ := chosen
        have chosen : column.choiceSet table = .ok _ :=
          choiceSet_eq_ok_iff.mpr ⟨options, distinct, rfl⟩
        exact ⟨_, by rw [chosen]; rfl⟩
  | _ => simp [shape]

/-- The shape of a column of each type.
-/
inductive Column.Shapes (table : String) (column : Column) : ColumnType → AttributeShape → Prop
  | string
    : column.Shapes table .string
        { kind := .string (column.maxLength.getD defaultStringLength) }
  | memo : column.Shapes table .memo { kind := .memo column.maxLength }
  | integer : column.Shapes table .integer { kind := .integer }
  | boolean
    : column.Shapes table .boolean {
        kind := .boolean (column.defaultValue.getD true)
        optionSet? := some (.yesNo (column.optionSetName table) column.displayName)
      }
  | dateTime
    : column.Shapes table .dateTime { kind := .dateTime .dateAndTime, inputMode := .inactive }
  | dateOnly
    : column.Shapes table .dateOnly { kind := .dateTime .dateOnly, inputMode := .inactive }
  | lookup {target : String} (refers : column.target = some target)
    : column.Shapes table .lookup { kind := .lookup target }
  | choice {set : OptionSet} (chosen : column.choiceSet table = .ok set)
    : column.Shapes table .choice { kind := .choice, optionSet? := some set }

/-- A column has the shape that is determined for it.
-/
theorem Column.shapes_of_shape {table : String} {column : Column} {type : ColumnType}
    {found : AttributeShape} (determined : column.shape table type = .ok found)
    : column.Shapes table type found := by
  cases type with
  | lookup =>
      cases refers : column.target with
      | none => simp [shape, refers] at determined
      | some target =>
          simp only [shape, refers, Except.ok.injEq] at determined
          exact determined ▸ .lookup refers
  | choice =>
      cases chosen : column.choiceSet table with
      | error cause => simp [shape, chosen] at determined
      | ok set =>
          simp only [shape, chosen] at determined
          cases determined
          exact .choice chosen
  | _ =>
      cases determined
      constructor

/-- A column is encoded when its type is known, its length is not zero and its shape is determined.
-/
theorem Attribute.ofColumn_eq_ok_iff {table : String} {column : Column}
    {isPrimaryName : Bool} {attr : Attribute}
    : ofColumn table column isPrimaryName = .ok attr
      ↔ ∃ type shape,
          column.type = type.declared
          ∧ column.maxLength ≠ some 0
          ∧ column.shape table type = .ok shape
          ∧ attr = column.attribute shape isPrimaryName := by
  simp only [ofColumn, Column.attribute, ← TypeName.known?_eq_some_iff]
  cases known : column.type.known? with
  | none => simp
  | some type =>
      by_cases zero : column.maxLength = some 0
      · simp [zero]
      · simp only [zero, if_false, bind_eq_ok_iff, pure_eq_ok_iff, ne_eq, not_false_iff,
          true_and, Option.some.injEq]
        constructor
        · intro encoded
          obtain ⟨shape, determined, rfl⟩ := encoded
          exact ⟨type, shape, rfl, determined, rfl⟩
        · intro encodable
          obtain ⟨_, shape, rfl, determined, rfl⟩ := encodable
          exact ⟨shape, determined, rfl⟩

/-- The kind comes with options.
-/
def AttributeKind.hasOptions : AttributeKind → Bool
  | boolean _ | choice => true
  | _ => false

/-- An option set fits a kind: a truth value has yes and no, a choice has some set, and no other kind
has one.
-/
inductive AttributeKind.Fits : AttributeKind → Option OptionSet → Prop
  | boolean (defaultValue : Bool) (name displayName : String)
    : (AttributeKind.boolean defaultValue).Fits (some (.yesNo name displayName))
  | choice (set : OptionSet) : AttributeKind.choice.Fits (some set)
  | plain {kind : AttributeKind} (optionless : kind.hasOptions = false) : kind.Fits none

/-- The attribute of a column has an option set that fits its kind.
-/
theorem Attribute.fits_of_ofColumn {table : String} {column : Column} {isPrimaryName : Bool}
    {attr : Attribute} (encoded : ofColumn table column isPrimaryName = .ok attr)
    : attr.kind.Fits attr.optionSet? := by
  obtain ⟨type, shape, _, _, determined, rfl⟩ := ofColumn_eq_ok_iff.mp encoded
  cases Column.shapes_of_shape determined with
  | boolean => exact .boolean _ _ _
  | choice => exact .choice _
  | _ => exact .plain rfl

/-- A column that an attribute can be made from: its type is known, its length is not zero, a lookup
has a target, and a choice has options with distinct values.
-/
structure Column.Encodable (column : Column) : Prop where
  type : ∃ type : ColumnType, column.type = type.declared
  length : column.maxLength ≠ some 0
  target
    : column.type = ColumnType.lookup.declared → ∃ target, column.target = some target
  options
    : column.type = ColumnType.choice.declared
      → column.options ≠ [] ∧ column.effectiveValues.Nodup

/-- Exactly the encodable columns have an attribute, whether or not they are primary names.
-/
theorem Attribute.exists_ofColumn_iff {table : String} {column : Column} {isPrimaryName : Bool}
    : (∃ attr, ofColumn table column isPrimaryName = .ok attr) ↔ column.Encodable := by
  simp only [ofColumn_eq_ok_iff]
  constructor
  · intro encoded
    obtain ⟨_, type, shape, declared, length, determined, rfl⟩ := encoded
    obtain ⟨target, options⟩ := Column.exists_shape_iff.mp ⟨shape, determined⟩
    refine ⟨⟨type, declared⟩, length, ?_, ?_⟩
    · exact fun same => target (ColumnType.declared_injective (declared.symm.trans same))
    · exact fun same => options (ColumnType.declared_injective (declared.symm.trans same))
  · intro encodable
    obtain ⟨⟨type, declared⟩, length, target, options⟩ := encodable
    rw [declared] at target options
    obtain ⟨shape, determined⟩ := Column.exists_shape_iff.mpr
      ⟨fun same => target (congrArg _ same), fun same => options (congrArg _ same)⟩
    exact ⟨_, type, shape, declared, length, determined, rfl⟩

/-- Columns are encoded one by one, in their order.
-/
theorem Entity.encodeColumns_eq_ok_iff {table primary : String} {columns : List Column}
    {attributes : List Attribute}
    : encodeColumns table primary columns = .ok attributes
      ↔ List.Forall₂
          (fun column attr =>
            Attribute.ofColumn table column (column.logicalName == primary) = .ok attr)
          columns attributes := by
  induction columns generalizing attributes with
  | nil => simp [encodeColumns, eq_comm]
  | cons column rest ih =>
      simp only [encodeColumns, bind_eq_ok_iff, pure_eq_ok_iff, ih,
        List.forall₂_cons_left_iff]
      constructor
      · intro encodes
        obtain ⟨attr, encoded, others, matched, rfl⟩ := encodes
        exact ⟨attr, others, encoded, matched, rfl⟩
      · intro partners
        obtain ⟨attr, others, encoded, matched, rfl⟩ := partners
        exact ⟨attr, encoded, others, matched, rfl⟩

-----------------------------------------------------------------------------------------
-- Entities
-----------------------------------------------------------------------------------------

/-- The entity that a table becomes once its attributes are known.
-/
def Table.entity (table : Table) (primary : PrimaryName) (attributes : List Attribute)
    : Entity where
  logicalName := table.logicalName
  displayName := table.displayName
  pluralName := table.pluralName
  description := table.description.getD (table.displayName ++ " table")
  setName := entitySetName table.logicalName
  primary
  attributes

/-- The columns of a table together with the one that its primary name may add.
-/
def Table.allColumns (table : Table) (primary : PrimaryName) : List Column :=
  if primary.choice = .synthesized then
    synthesizedColumn table primary.name :: table.columns
  else
    table.columns

/-- Where a column that is made up is left out, the declared ones are those that are looked at.
-/
theorem Table.filter_allColumns (table : Table) (primary : PrimaryName) {wanted : Column → Bool}
    (leftOut : wanted (synthesizedColumn table primary.name) = false)
    : (table.allColumns primary).filter wanted = table.columns.filter wanted := by
  rw [allColumns]
  split
  · exact List.filter_cons_of_neg (Bool.not_eq_true _ ▸ leftOut)
  · rfl

/-- A primary name fits a table unless a declared column stands in its way.
-/
theorem PrimaryName.columns_eq_ok_iff {table : Table} {primary : PrimaryName}
    {columns : List Column}
    : primary.columns table = .ok columns
      ↔ primary.clash? table = none ∧ columns = table.allColumns primary := by
  simp only [PrimaryName.columns, Table.allColumns]
  cases primary.clash? table with
  | some column => simp
  | none =>
      by_cases made : primary.choice = .synthesized
      · simp [made, eq_comm]
      · simp [made, eq_comm]

/-- A table is encoded when nothing stands in the way of its primary name and all its columns are.
-/
theorem Entity.ofTable_eq_ok_iff {table : Table} {publisherPrefix : String} {entity : Entity}
    : ofTable table publisherPrefix = .ok entity
      ↔ ∃ attributes,
          (PrimaryName.resolve table publisherPrefix).clash? table = none
          ∧ encodeColumns table.logicalName (PrimaryName.resolve table publisherPrefix).name
              (table.allColumns (PrimaryName.resolve table publisherPrefix))
            = .ok attributes
          ∧ entity = table.entity (PrimaryName.resolve table publisherPrefix) attributes := by
  simp only [ofTable, bind_eq_ok_iff, pure_eq_ok_iff, PrimaryName.columns_eq_ok_iff]
  constructor
  · intro encodes
    obtain ⟨_, ⟨free, rfl⟩, attributes, encoded, rfl⟩ := encodes
    exact ⟨attributes, free, encoded, rfl⟩
  · intro parts
    obtain ⟨attributes, free, encoded, rfl⟩ := parts
    exact ⟨_, ⟨free, rfl⟩, attributes, encoded, rfl⟩

/-- The column that is made up for a primary name can be encoded.
-/
theorem synthesizedColumn_encodable (table : Table) (name : String)
    : (synthesizedColumn table name).Encodable := by
  refine ⟨⟨.string, rfl⟩, ?_, ?_, ?_⟩
  · simp [synthesizedColumn, defaultStringLength]
  · exact fun same => ColumnType.noConfusion (ColumnType.declared_injective same)
  · exact fun same => ColumnType.noConfusion (ColumnType.declared_injective same)

/-- A table can be encoded when nothing stands in the way of its primary name and each of its
columns can be encoded.
-/
theorem Entity.exists_ofTable_iff {table : Table} {publisherPrefix : String}
    : (∃ entity, ofTable table publisherPrefix = .ok entity)
      ↔ (PrimaryName.resolve table publisherPrefix).clash? table = none
        ∧ ∀ column ∈ table.columns, column.Encodable := by
  have columns (primary : PrimaryName)
      : (∃ attributes,
          encodeColumns table.logicalName primary.name (table.allColumns primary)
          = .ok attributes)
        ↔ ∀ column ∈ table.columns, column.Encodable := by
    simp only [encodeColumns_eq_ok_iff, exists_forall₂_iff, Attribute.exists_ofColumn_iff,
      Table.allColumns]
    split
    · exact List.forall_mem_cons.trans (and_iff_right (synthesizedColumn_encodable table _))
    · rfl
  simp only [ofTable_eq_ok_iff, ← columns (PrimaryName.resolve table publisherPrefix)]
  constructor
  · intro encodes
    obtain ⟨_, attributes, free, encoded, rfl⟩ := encodes
    exact ⟨free, attributes, encoded⟩
  · intro encodable
    obtain ⟨free, attributes, encoded⟩ := encodable
    exact ⟨_, attributes, free, encoded, rfl⟩

/-- Tables are encoded one by one, in their order.
-/
theorem Schema.entities_eq_ok_iff {publisherPrefix : String} {tables : List Table}
    {found : List Entity}
    : entities publisherPrefix tables = .ok found
      ↔ List.Forall₂ (fun table entity => Entity.ofTable table publisherPrefix = .ok entity)
          tables found := by
  induction tables generalizing found with
  | nil => simp [entities, eq_comm]
  | cons table rest ih =>
      simp only [entities, bind_eq_ok_iff, pure_eq_ok_iff, ih, List.forall₂_cons_left_iff]
      constructor
      · intro encodes
        obtain ⟨entity, encoded, others, matched, rfl⟩ := encodes
        exact ⟨entity, others, encoded, matched, rfl⟩
      · intro partners
        obtain ⟨entity, others, encoded, matched, rfl⟩ := partners
        exact ⟨entity, encoded, others, matched, rfl⟩

/-- Encoding keeps the names of tables.
-/
theorem Schema.entities_map_logicalName {publisherPrefix : String} {tables : List Table}
    {found : List Entity} (encoded : entities publisherPrefix tables = .ok found)
    : found.map (·.logicalName) = tables.map (·.logicalName) := by
  refine map_eq_of_forall₂ (entities_eq_ok_iff.mp encoded) fun table entity made => ?_
  obtain ⟨attributes, _, _, rfl⟩ := Entity.ofTable_eq_ok_iff.mp made
  rfl

/-- A schema compiles when it is valid, its tables are encoded, their relationships are accepted and
all of these have a plan.
-/
theorem Schema.compile_eq_ok_iff {schema : Schema} {publisherPrefix : String}
    {compiled : CompiledSchema}
    : schema.compile publisherPrefix = .ok compiled
      ↔ schema.validate = .ok ()
        ∧ entities publisherPrefix schema.tables = .ok compiled.entities
        ∧ Relationship.discover compiled.entities publisherPrefix = .ok compiled.relationships
        ∧ Dependencies.plan ⟨compiled.entities.map (·.logicalName), compiled.relationships⟩
          = .ok compiled.plan := by
  rw [compile, check_bind_eq_ok_iff]
  simp only [bind_eq_ok_iff, pure_eq_ok_iff]
  constructor
  · intro compiles
    obtain ⟨valid, entities, encoded, relationships, accepted, plan, planned, rfl⟩ := compiles
    exact ⟨valid, encoded, accepted, planned⟩
  · intro phases
    obtain ⟨valid, encoded, accepted, planned⟩ := phases
    exact ⟨valid, _, encoded, _, accepted, _, planned, rfl⟩

end Tablewright
