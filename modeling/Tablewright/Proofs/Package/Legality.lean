import Tablewright.Entity.Document
import Tablewright.Proofs.Entity.RecordNames
import Tablewright.Proofs.Schema.JoinedNames
import Tablewright.Proofs.Xml.Interpretation

/-! Which characters the document of an entity is made of: all of them can stand in a document when
those of its labels can.
-/

namespace Tablewright

open Xml

-----------------------------------------------------------------------------------------
-- Names and numbers
-----------------------------------------------------------------------------------------

/-- The characters of well-formed names stand in names.
-/
theorem IsLogicalName.isNameChar_of_mem {name : String} (named : IsLogicalName name)
    : ∀ c ∈ name.toList, isNameChar c = true := by
  obtain ⟨first, rest, spelled, letter, others⟩ := named
  rw [spelled]
  refine List.forall_mem_cons.mpr ⟨?_, fun c member => ?_⟩
  · simp [isNameChar, Char.isAlphanum, letter]
  · rcases others c member with letter | rfl
    · simp [isNameChar, letter]
    · decide

/-- Characters of names are legal in both cases.
-/
theorem Text.legal_cases_of_isNameChar {c : Char} (named : isNameChar c = true)
    : LegalChars (lowerChar c) ∧ LegalChars (upperChar c) := by
  have checked
      : ∀ code ∈ List.range 0x7F,
          isNameChar (Char.ofNat code) = true
          → (lowerChar (Char.ofNat code)).all isDocumentChar = true
            ∧ (upperChar (Char.ofNat code)).all isDocumentChar = true := by
    decide +kernel
  have both := checked c.toNat (List.mem_range.mpr (toNat_of_isNameChar named).2)
  rw [Char.ofNat_toNat] at both
  exact (both named).imp List.all_eq_true.mp List.all_eq_true.mp

/-- In lower case a text of characters that stand in names is legal.
-/
theorem Text.legal_lower {text : String} (named : ∀ c ∈ text.toList, isNameChar c = true)
    : Legal (lower text) := by
  have each (before chars : List Char) (named : ∀ c ∈ chars, isNameChar c = true)
      : LegalChars (lowerFrom before chars) := by
    induction chars generalizing before with
    | nil => exact legalChars_nil
    | cons c rest ih =>
        obtain ⟨first, others⟩ := List.forall_mem_cons.mp named
        have plain : c ≠ 'Σ' := by
          rintro rfl
          exact absurd first (by decide)
        rw [lowerFrom, if_neg plain]
        exact legalChars_append.mpr ⟨(legal_cases_of_isNameChar first).1, ih _ others⟩
  rw [Legal, lower, String.toList_ofList]
  exact each [] text.toList named

/-- With capitals a text of characters that stand in names is legal.
-/
theorem Text.legal_titleWords {text : String} (named : ∀ c ∈ text.toList, isNameChar c = true)
    : Legal (titleWords text) := by
  have each (atStart : Bool) (chars : List Char) (named : ∀ c ∈ chars, isNameChar c = true)
      : LegalChars (titleFrom atStart chars) := by
    induction chars generalizing atStart with
    | nil => exact legalChars_nil
    | cons c rest ih =>
        obtain ⟨first, others⟩ := List.forall_mem_cons.mp named
        obtain ⟨small, capital⟩ := legal_cases_of_isNameChar first
        rw [titleFrom]
        split
        · refine legalChars_append.mpr ⟨?_, ih _ others⟩
          split
          · exact capital
          · exact small
        · exact legalChars_cons.mpr ⟨isDocumentChar_of_isNameChar first, ih _ others⟩
  rw [Legal, titleWords, String.toList_ofList]
  exact each true text.toList named

/-- Numbers are legal.
-/
theorem Xml.legal_repr (number : Nat) : Legal (Nat.repr number) := by
  intro c member
  rw [Nat.repr, String.toList_ofList] at member
  have digit : c.isDigit = true := Nat.isDigit_of_mem_toDigits (by decide) (by decide) member
  exact isDocumentChar_of_isNameChar (by simp [isNameChar, Char.isAlphanum, digit])

/-- Numbers are legal, be they below zero or not.
-/
theorem Xml.legal_repr_int (number : Int) : Legal number.repr := by
  cases number with
  | ofNat number => exact legal_repr number
  | negSucc number =>
      change Legal ("-" ++ Nat.repr (number + 1))
      exact legal_append.mpr ⟨by decide, legal_repr _⟩

-----------------------------------------------------------------------------------------
-- Elements
-----------------------------------------------------------------------------------------

namespace Xml.Node

/-- An element without elements inside is legal when its values and its text are.
-/
theorem isLegal_leaf_iff {tag text : String} {attributes : Attributes}
    : (leaf tag attributes text).IsLegal
      ↔ (∀ value ∈ attributes.map (·.2), Legal value) ∧ Legal text := by
  rw [IsLegal, values, List.forall_mem_append, List.forall_mem_singleton]

/-- An empty element is legal when its values are.
-/
theorem isLegal_empty_iff {tag : String} {attributes : Attributes}
    : (empty tag attributes).IsLegal ↔ ∀ value ∈ attributes.map (·.2), Legal value :=
  Iff.rfl

/-- An element is legal when its values and the elements inside are.
-/
theorem isLegal_branch_iff {tag : String} {attributes : Attributes} {children : List Node}
    : (branch tag attributes children).IsLegal
      ↔ (∀ value ∈ attributes.map (·.2), Legal value) ∧ ∀ child ∈ children, child.IsLegal := by
  rw [IsLegal, values, valuesOf_eq_flatMap, List.forall_mem_append, List.forall_mem_flatMap]
  rfl

/-- An element with a text alone is legal when that is.
-/
theorem isLegal_text_iff {tag value : String} : (text tag value).IsLegal ↔ Legal value := by
  simp [text, isLegal_leaf_iff]

/-- An element that is one or zero is legal.
-/
theorem isLegal_flag (tag : String) (value : Bool) : (flag tag value).IsLegal := by
  have digit : Legal (if value then "1" else "0") := by
    revert value
    decide
  exact isLegal_text_iff.mpr digit

/-- An element that says a text in a language is legal when both are.
-/
theorem isLegal_described_iff {language tag text : String}
    : (described language tag text).IsLegal ↔ Legal text ∧ Legal language := by
  simp [described, isLegal_empty_iff]

end Xml.Node

-----------------------------------------------------------------------------------------
-- Labels
-----------------------------------------------------------------------------------------

/-- The labels of an option set: its own, and those of its options.
-/
def OptionSet.labels (set : OptionSet) : List String :=
  set.displayName :: set.options.map (·.label)

/-- The labels of an attribute: its own, and those of its option set.
-/
def Attribute.labels (attr : Attribute) : List String :=
  attr.displayName :: attr.optionSet?.toList.flatMap OptionSet.labels

/-- The labels of an entity: its names, its description, and the labels of its attributes.
-/
def Entity.labels (entity : Entity) : List String :=
  [entity.displayName, entity.pluralName, entity.description]
    ++ entity.attributes.flatMap Attribute.labels

/-- The names that stand beside the labels in the document of an entity: well-formed ones, and such
as are made of these. All option sets fit and so are written.
-/
structure Entity.WellNamed (entity : Entity) : Prop where
  table : IsLogicalName entity.logicalName
  attributes : ∀ attr ∈ entity.attributes, IsLogicalName attr.logicalName
  fits : ∀ attr ∈ entity.attributes, attr.kind.Fits attr.optionSet?
  sets
    : ∀ attr ∈ entity.attributes,
        ∀ set,
          attr.optionSet? = some set
          → set.name = entity.logicalName ++ "_" ++ attr.logicalName
  plural : entity.setName = entitySetName entity.logicalName

-----------------------------------------------------------------------------------------
-- Records
-----------------------------------------------------------------------------------------

section Spoken

variable {language : String} (spoken : Legal language)
include spoken

/-- The element of an option is legal when its label is.
-/
theorem OptionEntry.isLegal_node_iff (kind : OptionSetKind) (entry : OptionEntry)
    : (entry.node kind language).IsLegal ↔ Legal entry.label := by
  cases kind with
  | _ =>
      simp +decide [node, OptionSetKind.entryTag, OptionSetKind.entryAttributes, spoken,
        Node.isLegal_branch_iff, Node.isLegal_described_iff, legal_repr_int, valueText]

/-- The element of an option set is legal when its labels are.
-/
theorem OptionSet.isLegal_node_iff {set : OptionSet} (named : Legal set.name)
    : (set.node language).IsLegal ↔ ∀ label ∈ set.labels, Legal label := by
  have kind : Legal set.kind.name := by
    cases set.kind with
    | _ => decide
  simp +decide [node, labels, spoken, named, kind, Node.isLegal_branch_iff,
    Node.isLegal_described_iff, Node.isLegal_text_iff, OptionEntry.isLegal_node_iff spoken]

/-- What a record says of its kind is legal when the labels of its option set are, if it has one.
-/
theorem AttributeRecord.isLegal_detailOf_iff {attr : Attribute}
    (fits : attr.kind.Fits attr.optionSet?)
    (named : ∀ set, attr.optionSet? = some set → Legal set.name)
    : (∀ node ∈ (detailOf attr).nodes language, node.IsLegal)
      ↔ ∀ set, attr.optionSet? = some set → ∀ label ∈ set.labels, Legal label := by
  obtain ⟨_, _, kind, _, _, _, _, set?⟩ := attr
  cases fits with
  | boolean | choice =>
      have called := named _ rfl
      simp [detailOf, RecordDetail.nodes, OptionSet.isLegal_node_iff spoken called]
  | plain optionless =>
      refine iff_of_true ?_ nofun
      cases kind with
      | boolean | choice => cases optionless
      | string length =>
          simp +decide [detailOf, RecordDetail.nodes, Attribute.storedLength?,
            Node.isLegal_text_iff, legal_repr]
      | dateTime behavior =>
          cases behavior with
          | _ => simp +decide [detailOf, RecordDetail.nodes, DateBehavior.packageFormat]
      | memo length =>
          simp +decide [detailOf, RecordDetail.nodes, Node.isLegal_text_iff, legal_repr]
      | integer =>
          simp +decide [detailOf, RecordDetail.nodes, Node.isLegal_text_iff, legal_repr_int]
      | lookup target => simp +decide [detailOf, RecordDetail.nodes]

/-- The element of a record is legal when its names, its kind and its labels are.
-/
theorem AttributeRecord.isLegal_node_iff (record : AttributeRecord)
    : (record.node language).IsLegal
      ↔ Legal record.physicalName
        ∧ Legal record.typeTag
        ∧ Legal record.logicalName
        ∧ (∀ mask, record.displayMask = some mask → Legal mask)
        ∧ (∀ node ∈ record.detail.nodes language, node.IsLegal)
        ∧ Legal record.displayName
        ∧ ∀ text, record.description = some text → Legal text := by
  have level : Legal record.requiredLevel.packageName := by
    cases record.requiredLevel with
    | _ => decide
  have mode : Legal record.inputMode.name := by
    cases record.inputMode with
    | _ => decide
  simp +decide [node, level, mode, spoken, Node.isLegal_branch_iff, Node.isLegal_text_iff,
    Node.isLegal_flag, Node.isLegal_described_iff, or_imp, forall_and]

/-- The element of a declared attribute is legal when its labels are.
-/
theorem AttributeRecord.isLegal_ofAttribute_iff {attr : Attribute} (named : Legal attr.logicalName)
    (fits : attr.kind.Fits attr.optionSet?)
    (sets : ∀ set, attr.optionSet? = some set → Legal set.name)
    : ((ofAttribute attr).node language).IsLegal ↔ ∀ label ∈ attr.labels, Legal label := by
  have type : Legal attr.kind.typeTag := by
    cases attr.kind with
    | _ =>
        rw [AttributeKind.typeTag]
        decide
  have mask : Legal attr.displayMask := by
    rw [Attribute.displayMask]
    split
    · decide
    · decide
  rw [isLegal_node_iff spoken]
  change _ ∧ _ ∧ _ ∧ _ ∧ (∀ node ∈ (detailOf attr).nodes language, node.IsLegal) ∧ _ ↔ _
  rw [isLegal_detailOf_iff spoken fits sets, Attribute.labels, List.forall_mem_cons,
    List.forall_mem_flatMap]
  simp [ofAttribute, named, type, mask, and_comm]

/-- The option sets of the system are legal.
-/
theorem OptionSet.isLegal_systemSets {table : String} (named : Legal table)
    : ((stateSet table).node language).IsLegal ∧ ((statusSet table).node language).IsLegal := by
  have state : Legal (stateSet table).name := by
    rw [stateSet]
    exact legal_append.mpr ⟨named, by decide⟩
  have status : Legal (statusSet table).name := by
    rw [statusSet]
    exact legal_append.mpr ⟨named, by decide⟩
  have stateLabels : (stateSet table).labels = ["Status", "Active", "Inactive"] := rfl
  have statusLabels : (statusSet table).labels = ["Status Reason", "Active", "Inactive"] := rfl
  rw [isLegal_node_iff spoken state, isLegal_node_iff spoken status, stateLabels, statusLabels]
  decide

/-- The elements of the system's attributes are legal.
-/
theorem AttributeRecord.isLegal_systemRecords {table : String} (named : IsLogicalName table)
    (publisherPrefix : String)
    : ∀ record ∈ systemRecords table publisherPrefix, (record.node language).IsLegal := by
  have chars := named.isNameChar_of_mem
  have own : Legal table := legal_of_nameChars chars
  have short : ∀ c ∈ (shortName publisherPrefix table).toList, isNameChar c = true := by
    intro c member
    rw [shortName] at member
    split at member
    · rw [String.toList_ofList] at member
      exact chars c (List.mem_of_mem_drop member)
    · exact chars c member
  have key : ∀ c ∈ (table ++ "id").toList, isNameChar c = true := by
    have ending : "id".toList.all isNameChar = true := by decide
    rw [String.toList_append]
    exact List.forall_mem_append.mpr ⟨chars, List.all_eq_true.mp ending⟩
  have names : ∀ record ∈ systemRecords table publisherPrefix, Legal record.logicalName := by
    have shared : ∀ name ∈ sharedSystemNames, Legal name := by decide
    rw [← List.forall_mem_map (P := fun name => Legal name), systemRecords_map_logicalName]
    exact List.forall_mem_cons.mpr ⟨Text.legal_lower key, shared⟩
  have others
      : ∀ record ∈ systemRecords table publisherPrefix,
          Legal record.physicalName
          ∧ Legal record.typeTag
          ∧ (∀ mask, record.displayMask = some mask → Legal mask)
          ∧ (∀ node ∈ record.detail.nodes language, node.IsLegal)
          ∧ Legal record.displayName
          ∧ ∀ text, record.description = some text → Legal text := by
    simp +decide [systemRecords, systemKey, systemLookup, systemStamp, systemImportDate,
      systemImportNumber, systemTimeZone, systemState, systemStatus, system, RecordDetail.nodes,
      own, Text.legal_titleWords short, OptionSet.isLegal_systemSets spoken own]
  intro record member
  obtain ⟨physical, type, rest⟩ := others record member
  exact (isLegal_node_iff spoken record).mpr ⟨physical, type, names record member, rest⟩

-----------------------------------------------------------------------------------------
-- Entities
-----------------------------------------------------------------------------------------

/-- The document of an entity whose names are well formed is legal when its labels are.
-/
theorem Entity.isLegal_node_iff {entity : Entity} (named : entity.WellNamed)
    (publisherPrefix : String)
    : (entity.node publisherPrefix language).IsLegal ↔ ∀ label ∈ entity.labels, Legal label := by
  have name : Legal entity.logicalName := legal_of_nameChars named.table.isNameChar_of_mem
  have plural : Legal entity.setName := by
    rw [named.plural, entitySetName]
    split
    · exact legal_append.mpr ⟨name, by decide⟩
    · exact legal_append.mpr ⟨name, by decide⟩
  have own : ∀ attr ∈ entity.attributes,
      (((AttributeRecord.ofAttribute attr).node language).IsLegal
        ↔ ∀ label ∈ attr.labels, Legal label) := by
    intro attr member
    have column : Legal attr.logicalName :=
      legal_of_nameChars (named.attributes attr member).isNameChar_of_mem
    refine AttributeRecord.isLegal_ofAttribute_iff spoken column (named.fits attr member) ?_
    intro set carried
    rw [named.sets attr member set carried]
    exact legal_append.mpr ⟨legal_append.mpr ⟨name, by decide⟩, column⟩
  have records : (∀ record ∈ entity.records publisherPrefix, (record.node language).IsLegal)
      ↔ ∀ attr ∈ entity.attributes, ∀ label ∈ attr.labels, Legal label := by
    rw [Entity.records, List.forall_mem_append, List.forall_mem_map, forall₂_congr own]
    exact and_iff_left (AttributeRecord.isLegal_systemRecords spoken named.table publisherPrefix)
  rw [labels, List.forall_mem_append, List.forall_mem_flatMap, ← records, node, infoNode]
  generalize others : settings.map _ = nodes
  have fixed : ∀ node ∈ nodes, node.IsLegal := by
    have values : ∀ entry ∈ settings, Legal entry.2 := by decide
    rw [← others]
    exact List.forall_mem_map.mpr fun entry member =>
      Node.isLegal_text_iff.mpr (values entry member)
  simp +decide [labelNodes, instanceNames, spoken, name, plural, iff_true_intro fixed,
    Node.isLegal_branch_iff, Node.isLegal_leaf_iff, Node.isLegal_text_iff,
    Node.isLegal_described_iff, or_imp, forall_and, and_assoc]

end Spoken

/-- The names of compiled entities are well formed.
-/
theorem CompiledSchema.wellNamed_of_compile {schema : Schema} {publisherPrefix : String}
    {compiled : CompiledSchema} (compiles : schema.compile publisherPrefix = .ok compiled)
    {entity : Entity} (listed : entity ∈ compiled.entities)
    : entity.WellNamed := by
  have coherent := coherent_of_compile compiles
  obtain ⟨_, encoded, _, _⟩ := Schema.compile_eq_ok_iff.mp compiles
  obtain ⟨table, _, made⟩ := exists_mem_of_forall₂ (Schema.entities_eq_ok_iff.mp encoded) listed
  refine ⟨coherent.tableNames entity listed, coherent.columnNames entity listed, ?_, ?_, ?_⟩
  · intro attr member
    obtain ⟨_, _, own⟩ := Entity.exists_ofColumn_of_mem made member
    exact Attribute.fits_of_ofColumn own
  · intro attr member set carried
    obtain ⟨column, _, own⟩ := Entity.exists_ofColumn_of_mem made member
    have called := Attribute.optionSet?_of_ofColumn own
    rw [carried, Option.map_some] at called
    split at called
    · obtain ⟨_, _, _, _, _, rfl⟩ := Attribute.ofColumn_eq_ok_iff.mp own
      obtain ⟨_, _, _, rfl⟩ := Entity.ofTable_eq_ok_iff.mp made
      exact Option.some.inj called
    · cases called
  · obtain ⟨_, _, _, rfl⟩ := Entity.ofTable_eq_ok_iff.mp made
    rfl

end Tablewright
