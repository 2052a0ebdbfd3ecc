import Tablewright.Proofs.Json.Reading
import Tablewright.Proofs.Schema.Encoding
import Tablewright.Schema.Load
import Tablewright.Schema.Write

/-! The JSON document of a schema is read back as that schema.
-/

namespace Tablewright

-----------------------------------------------------------------------------------------
-- Values that a schema is written as
-----------------------------------------------------------------------------------------

/-- A value that may be absent is written exactly if it is written exactly where it is present.
-/
theorem exact_of_mem_memberOf {α : Type} {name : String} {write : α → Json.Value}
    {value : Option α} {member : String × Json.Value}
    (written : member ∈ memberOf name write value) (exact : ∀ a, (write a).IsExact)
    : member.2.IsExact := by
  cases value with
  | none => cases written
  | some a =>
      obtain rfl := List.mem_singleton.mp written
      exact exact a

/-- The value of an option fits into 64 bits.
-/
theorem exact_integer_int32 (value : Int32) : (Json.Value.integer value.toInt).IsExact := by
  have lower := value.le_toInt
  have upper := value.toInt_lt
  have least : Int64.minValue.toInt = -9223372036854775808 := by decide
  change Int64.minValue.toInt ≤ _ ∧ _ < (18446744073709551616 : Int)
  omega

/-- A length fits into 64 bits.
-/
theorem exact_integer_uint32 (length : UInt32) : (Json.Value.integer length.toNat).IsExact := by
  have upper := length.toNat_lt
  have least : Int64.minValue.toInt = -9223372036854775808 := by decide
  change Int64.minValue.toInt ≤ _ ∧ _ < (18446744073709551616 : Int)
  omega

/-- An option is written exactly.
-/
theorem ChoiceOption.exact_toJson (option : ChoiceOption) : option.toJson.IsExact := by
  cases option with
  | bare label => trivial
  | explicit value label => exact ⟨exact_integer_int32 value, trivial, trivial⟩

/-- A column is written exactly.
-/
theorem Column.exact_toJson (column : Column) : column.toJson.IsExact := by
  refine Json.membersExact_iff.mpr fun member written => ?_
  simp only [List.mem_append] at written
  rcases written with (((fixed | length) | options) | target) | default
  · simp only [List.mem_cons, List.not_mem_nil, or_false] at fixed
    rcases fixed with rfl | rfl | rfl | rfl
    all_goals trivial
  · exact exact_of_mem_memberOf length exact_integer_uint32
  · split at options
    · cases options
    · obtain rfl := List.mem_singleton.mp options
      refine Json.allExact_iff.mpr fun item listed => ?_
      obtain ⟨option, _, rfl⟩ := List.mem_map.mp listed
      exact option.exact_toJson
  · exact exact_of_mem_memberOf target fun _ => trivial
  · exact exact_of_mem_memberOf default fun _ => trivial

/-- A table is written exactly.
-/
theorem Table.exact_toJson (table : Table) : table.toJson.IsExact := by
  refine Json.membersExact_iff.mpr fun member written => ?_
  simp only [List.mem_append] at written
  rcases written with ((fixed | description) | primary) | columns
  · simp only [List.mem_cons, List.not_mem_nil, or_false] at fixed
    rcases fixed with rfl | rfl | rfl
    all_goals trivial
  · exact exact_of_mem_memberOf description fun _ => trivial
  · exact exact_of_mem_memberOf primary fun _ => trivial
  · obtain rfl := List.mem_singleton.mp columns
    refine Json.allExact_iff.mpr fun item listed => ?_
    obtain ⟨column, _, rfl⟩ := List.mem_map.mp listed
    exact column.exact_toJson

/-- A schema is written exactly.
-/
theorem Schema.exact_toJson (schema : Schema) : schema.toJson.IsExact := by
  refine ⟨Json.allExact_iff.mpr fun item listed => ?_, trivial⟩
  obtain ⟨table, _, rfl⟩ := List.mem_map.mp listed
  exact table.exact_toJson

-----------------------------------------------------------------------------------------
-- Lists and members
-----------------------------------------------------------------------------------------

/-- A list is read back when each of its values is.
-/
theorem list_document {α : Type} {read : Document → Decoded α} {write : α → Json.Value}
    {values : List α} (restores : ∀ a ∈ values, read (write a).document = .ok a)
    : Document.list read (Json.Value.sequence (values.map write)).document = .ok values := by
  change (Json.itemsDocument (values.map write)).all read = .ok values
  induction values with
  | nil => rfl
  | cons a values ih =>
      obtain ⟨head, tail⟩ := List.forall_mem_cons.mp restores
      simp [Json.itemsDocument, Items.all, head, ih tail, bind, Except.bind, pure, Except.pure]

section Collects

variable {σ : Type} {set : σ → String → Document → Decoded σ} {state between after : σ}
variable {first later : List (String × Json.Value)}

/-- Taking note of members leads from one state to another.
-/
def Collects (set : σ → String → Document → Decoded σ) (members : List (String × Json.Value))
    (state after : σ)
    : Prop :=
  (Json.membersDocument members).collect set state = .ok after

/-- Members are taken note of one after the other.
-/
theorem Collects.append (begun : Collects set first state between)
    (continued : Collects set later between after)
    : Collects set (first ++ later) state after := by
  induction first generalizing state with
  | nil =>
      cases begun
      exact continued
  | cons member first ih =>
      obtain ⟨key, value⟩ := member
      simp only [Collects, List.cons_append, Json.membersDocument, Members.collect] at begun ⊢
      cases taken : set state key value.document with
      | error cause => simp [taken, bind, Except.bind] at begun
      | ok next =>
          simp only [taken, bind, Except.bind] at begun ⊢
          exact ih begun

/-- One member is taken note of.
-/
theorem Collects.member {name : String} {value : Json.Value}
    (taken : set state name value.document = .ok after)
    : Collects set [(name, value)] state after := by
  simp [Collects, Json.membersDocument, Members.collect, taken, bind, Except.bind]

/-- A member that may be absent is taken note of where it is present.
-/
theorem Collects.memberOf {α : Type} {name : String} {write : α → Json.Value} {value : Option α}
    (absent : value = none → state = after)
    (present : ∀ a, value = some a → set state name (write a).document = .ok after)
    : Collects set (memberOf name write value) state after := by
  cases value with
  | none =>
      cases absent rfl
      rfl
  | some a => exact .member (present a rfl)

end Collects

-----------------------------------------------------------------------------------------
-- Options, columns and tables
-----------------------------------------------------------------------------------------

/-- An option is read back in its own form.
-/
theorem ChoiceOption.ofDocument_toJson (option : ChoiceOption)
    : ChoiceOption.ofDocument Json.conventions option.toJson.document = .ok option := by
  cases option with
  | bare label => rfl
  | explicit value label =>
      have lower : -2147483648 ≤ value.toInt := value.le_toInt
      have upper : value.toInt ≤ Int32.maxValue.toInt := value.toInt_le
      have sound : ofSound? (explicit value label).toJson.document = some (explicit value label) := by
        simp [toJson, Json.Value.document, Json.membersDocument, ofSound?, OptionFields.ofMembers,
          OptionFields.set, lower, upper]
      have number : Scalar.check (.integer value.toInt) = .ok () :=
        if_pos (exact_integer_int32 value)
      have text : Scalar.check (.text label) = .ok () := rfl
      have checked : (explicit value label).toJson.document.check (some 121) = .ok () := by
        simp only [toJson, Json.Value.document, Json.membersDocument, Document.check, Members.check,
          descend, number, text, bind, Except.bind]
      have depth : Json.conventions.depth.map (· - 6) = some 121 := rfl
      rw [ChoiceOption.ofDocument, depth, checked]
      simp only [sound]
      rfl

/-- A length is read back.
-/
theorem word_document (length : UInt32)
    : (Json.Value.integer length.toNat).document.word = .ok length := by
  have upper : length.toNat < Nat.pow 2 32 := length.toNat_lt
  simp [Json.Value.document, Document.word, Document.natural, upper, Functor.map, Except.map]

/-- A field without a value takes the one that is read.
-/
theorem fill_none {α : Type} {read : Document → Decoded α} {document : Document} {a : α}
    (restores : read document = .ok a) (name : String)
    : document.fill name none read = .ok (some a) := by
  simp [Document.fill, restores, Functor.map, Except.map]

/-- A value that was absent, or whose field was, is absent.
-/
theorem getD_map_some {α : Type} (slot : Option α) : (slot.map some).getD none = slot := by
  cases slot with
  | _ => rfl

/-- A column is read back.
Witness: its members are taken note of in the order in which they are written.
-/
theorem Column.ofDocument_toJson (column : Column)
    : Column.ofDocument Json.conventions column.toJson.document = .ok column := by
  obtain ⟨name, display, type, required, length, options, target, default⟩ := column
  let set := ColumnFields.set Json.conventions
  let choices := if options.isEmpty then none else some options
  have fixed : Collects set
      [("logicalName", .text name), ("displayName", .text display), ("type", .text type.name),
        ("required", .boolean required)]
      {} ⟨some name, some display, some type, some required, none, none, none, none⟩ :=
    rfl
  have measured : Collects set (memberOf "maxLength" (fun length => .integer length.toNat) length)
      ⟨some name, some display, some type, some required, none, none, none, none⟩
      ⟨some name, some display, some type, some required, length.map some, none, none, none⟩ := by
    refine .memberOf (by rintro rfl; rfl) ?_
    rintro length rfl
    have read : Document.optional Document.word (Json.Value.integer length.toNat).document
        = .ok (some length) :=
      congrArg (some <$> ·) (word_document length)
    simp [set, ColumnFields.set, fill_none read, bind, Except.bind, pure, Except.pure]
  have listed : Collects set
      (if options.isEmpty then [] else [("options", .sequence (options.map ChoiceOption.toJson))])
      ⟨some name, some display, some type, some required, length.map some, none, none, none⟩
      ⟨some name, some display, some type, some required, length.map some, choices, none,
        none⟩ := by
    have read : Document.list (ChoiceOption.ofDocument Json.conventions)
        (Json.Value.sequence (options.map ChoiceOption.toJson)).document = .ok options :=
      list_document fun option _ => option.ofDocument_toJson
    cases empty : options.isEmpty with
    | true =>
        simp only [choices, empty, if_pos]
        rfl
    | false =>
        simp only [choices, empty, Bool.false_eq_true, if_false]
        refine .member ?_
        simp [set, ColumnFields.set, fill_none read, bind, Except.bind, pure, Except.pure]
  have targeted : Collects set (memberOf "target" .text target)
      ⟨some name, some display, some type, some required, length.map some, choices, none, none⟩
      ⟨some name, some display, some type, some required, length.map some, choices,
        target.map some, none⟩ := by
    refine .memberOf (by rintro rfl; rfl) ?_
    rintro target rfl
    rfl
  have defaulted : Collects set (memberOf "defaultValue" .boolean default)
      ⟨some name, some display, some type, some required, length.map some, choices,
        target.map some, none⟩
      ⟨some name, some display, some type, some required, length.map some, choices,
        target.map some, default.map some⟩ := by
    refine .memberOf (by rintro rfl; rfl) ?_
    rintro default rfl
    rfl
  have rebuilt : choices.getD [] = options := by
    cases options with
    | _ => rfl
  change (Members.collect _ _ _ >>= ColumnFields.column) = _
  rw [fixed.append measured |>.append listed |>.append targeted |>.append defaulted]
  simp [ColumnFields.column, present, getD_map_some, rebuilt, bind, Except.bind, pure, Except.pure]

/-- A table is read back.
Witness: its members are taken note of in the order in which they are written.
-/
theorem Table.ofDocument_toJson (table : Table)
    : Table.ofDocument Json.conventions table.toJson.document = .ok table := by
  obtain ⟨name, display, plural, description, primary, columns⟩ := table
  let set := TableFields.set Json.conventions
  have fixed : Collects set
      [("logicalName", .text name), ("displayName", .text display), ("pluralName", .text plural)]
      {} ⟨some name, some display, some plural, none, none, none⟩ :=
    rfl
  have described : Collects set (memberOf "description" .text description)
      ⟨some name, some display, some plural, none, none, none⟩
      ⟨some name, some display, some plural, description.map some, none, none⟩ := by
    refine .memberOf (by rintro rfl; rfl) ?_
    rintro description rfl
    rfl
  have overridden : Collects set (memberOf "primaryNameColumn" .text primary)
      ⟨some name, some display, some plural, description.map some, none, none⟩
      ⟨some name, some display, some plural, description.map some, primary.map some, none⟩ := by
    refine .memberOf (by rintro rfl; rfl) ?_
    rintro primary rfl
    rfl
  have filled : Collects set [("columns", .sequence (columns.map Column.toJson))]
      ⟨some name, some display, some plural, description.map some, primary.map some, none⟩
      ⟨some name, some display, some plural, description.map some, primary.map some,
        some columns⟩ := by
    have read : Document.list (Column.ofDocument Json.conventions)
        (Json.Value.sequence (columns.map Column.toJson)).document = .ok columns :=
      list_document fun column _ => column.ofDocument_toJson
    refine .member ?_
    simp [set, TableFields.set, fill_none read, bind, Except.bind, pure, Except.pure]
  change (Members.collect _ _ _ >>= TableFields.table) = _
  rw [fixed.append described |>.append overridden |>.append filled]
  simp [TableFields.table, present, getD_map_some, bind, Except.bind, pure, Except.pure]

-----------------------------------------------------------------------------------------
-- Schemas
-----------------------------------------------------------------------------------------

namespace Schema

/-- A schema is read back.
-/
theorem ofDocument_toJson (schema : Schema)
    : ofDocument Json.conventions schema.toJson.document = .ok schema := by
  have read : Document.list (Table.ofDocument Json.conventions)
      (Json.Value.sequence (schema.tables.map Table.toJson)).document = .ok schema.tables :=
    list_document fun table _ => table.ofDocument_toJson
  have collected : Collects (setTables Json.conventions)
      [("tables", .sequence (schema.tables.map Table.toJson))] none (some schema.tables) :=
    .member (by simp [setTables, fill_none read])
  change (Members.collect _ _ _ >>= _) = _
  rw [collected]
  rfl

/-- The text of a schema's document is read back as the schema.
-/
theorem ofText_render (schema : Schema) : ofText .json schema.toJson.render = .ok schema := by
  have read : Json.decode (ofDocument Json.conventions) schema.toJson.render = .ok schema := by
    simp [Json.decode, Json.readDocument_render schema.exact_toJson, schema.ofDocument_toJson,
      Json.skipBlanks, bind, Except.bind, pure, Except.pure]
  rw [ofText]
  simp only [read]

/-- The column at a position of the table at a place.
-/
def column? (schema : Schema) (place position : Nat) : Option Column :=
  schema.tables[place]?.bind fun table => table.columns[position]?

/-- A column that is read back is of a known type exactly when it was declared of that.
-/
theorem known?_of_render (schema : Schema) (place position : Nat) (type : ColumnType)
    : (∃ restored,
        ofText .json schema.toJson.render = .ok restored
        ∧ (restored.column? place position).bind (·.type.known?) = some type)
      ↔ (schema.column? place position).map (·.type) = some type.declared := by
  simp only [ofText_render, Except.ok.injEq, exists_eq_left']
  cases schema.column? place position with
  | none => simp
  | some column => simp [TypeName.known?_eq_some_iff]

/-- Writing a schema as a JSON document loses nothing: the text is read back as the same schema,
every column with the known type that it was declared of, and reading any JSON text, writing what
was read and reading that again is the same as reading the text once.
-/
theorem documents_restore
    : (∀ schema : Schema, ofText .json schema.toJson.render = .ok schema)
      ∧ (∀ (schema : Schema) (place position : Nat) (type : ColumnType),
          (∃ restored,
            ofText .json schema.toJson.render = .ok restored
            ∧ (restored.column? place position).bind (·.type.known?) = some type)
          ↔ (schema.column? place position).map (·.type) = some type.declared)
      ∧ ∀ format text,
          (ofText format text >>= fun schema => ofText .json schema.toJson.render)
            = ofText format text := by
  refine ⟨ofText_render, known?_of_render, fun format text => ?_⟩
  cases ofText format text with
  | error cause => rfl
  | ok schema => exact ofText_render schema

end Schema

end Tablewright
