import Mathlib.Algebra.Group.Nat.Defs
import Tablewright.Proofs.Schema.Encoding

/-! The values of a choice. A live store has the declared values, and counts for the options without
one; a package numbers all options. Only the former can collide, and a choice is encoded exactly
when they do not.
-/

namespace Tablewright

/-- The values of a choice's options in a live store as whole numbers: the declared ones, and for
the other options their positions counted from one.
-/
def Column.effectiveNumbers (column : Column) : List Int :=
  column.options.mapIdx fun position option =>
    (option.value?.map Int32.toInt).getD (position + 1)

/-- The values of a choice's options in a package as whole numbers: those from one hundred million
on.
-/
def Column.packageNumbers (column : Column) : List Int :=
  (List.range column.options.length).map fun (position : Nat) => 100000000 + position

/-- The first value of a list that comes again: those before it are distinct, and it is one of them.
-/
def IsFirstRepeat (value : Int) (values : List Int) : Prop :=
  ∃ before behind, values = before ++ value :: behind ∧ before.Nodup ∧ value ∈ before

/-- An attribute has the options of a choice in their order: with their labels in both outputs, with
the numbers from one hundred million on in a package, and with the effective values in a live store.
No value is that of two options.
-/
structure Attribute.Offers (attr : Attribute) (column : Column) : Prop where
  labels
    : ∀ target, (attr.optionValues target).map (·.2) = column.options.map (·.label)
  packageValues
    : (attr.optionValues .package).map (·.1.toInt) = column.packageNumbers
  provisionValues
    : (attr.optionValues .provision).map (·.1.toInt) = column.effectiveNumbers
  distinct : ∀ target, ((attr.optionValues target).map (·.1)).Nodup

variable {column : Column}

-----------------------------------------------------------------------------------------
-- Values as whole numbers
-----------------------------------------------------------------------------------------

/-- Values of 32 bits are distinct exactly when they are as whole numbers.
-/
theorem nodup_map_toInt_iff {values : List Int32}
    : (values.map Int32.toInt).Nodup ↔ values.Nodup :=
  List.nodup_map_iff fun _ _ => Int32.toInt_inj.mp

/-- Positions that can be counted with 32 bits are the numbers that they stand for.
-/
theorem Column.effectiveValues_map_toInt (few : column.options.length < 2 ^ 31)
    : column.effectiveValues.map Int32.toInt = column.effectiveNumbers := by
  refine List.ext_getElem (by simp [effectiveValues, effectiveNumbers]) ?_
  intro position _ inside
  simp only [effectiveValues, effectiveNumbers, List.getElem_map, List.getElem_mapIdx]
  rw [effectiveNumbers, List.length_mapIdx] at inside
  cases column.options[position].value? with
  | none => exact Int32.toInt_ofNat_of_lt (by omega)
  | some value => rfl

/-- A choice with few options numbers them in a package from one hundred million on.
-/
theorem Column.entries_map_packageValue (few : column.options.length < 2 ^ 31 - 100000000)
    : column.entries.map (·.packageValue.toInt) = column.packageNumbers := by
  refine List.ext_getElem (by simp [entries, packageNumbers]) ?_
  intro position _ inside
  rw [packageNumbers, List.length_map, List.length_range] at inside
  have counted : firstPackageValue + Int32.ofNat position = Int32.ofNat (100000000 + position) :=
    (Int32.ofNat_add 100000000 position).symm
  have value := Int32.toInt_ofNat_of_lt (n := 100000000 + position) (by omega)
  simpa [entries, packageNumbers, ChoiceOption.entry, counted] using value

/-- The entries of a choice carry the labels of its options.
-/
theorem Column.entries_map_label (column : Column)
    : column.entries.map (·.label) = column.options.map (·.label) :=
  List.ext_getElem (by simp [entries]) (by simp [entries, ChoiceOption.entry])

-----------------------------------------------------------------------------------------
-- Encoding a choice
-----------------------------------------------------------------------------------------

/-- The shape of a choice with an option set.
-/
def AttributeShape.ofSet (set : OptionSet) : AttributeShape :=
  { kind := .choice, optionSet? := some set }

/-- A choice is encoded as far as its option set can be made.
-/
theorem Attribute.ofColumn_of_choice (choice : column.type = ColumnType.choice.declared)
    (length : column.maxLength ≠ some 0) (table : String) (isPrimaryName : Bool)
    : ofColumn table column isPrimaryName
      = (fun set => column.attribute (.ofSet set) isPrimaryName) <$> column.choiceSet table := by
  rw [ofColumn, TypeName.known?_eq_some_iff.mpr choice]
  simp only [if_neg length, Column.shape]
  cases column.choiceSet table with
  | error cause => rfl
  | ok set => rfl

/-- A choice with options has an option set unless the values of these collide, and then the first
value that comes again is reported.
-/
theorem Column.choiceSet_cases (options : column.options ≠ []) (table : String)
    : column.effectiveValues.Nodup
        ∧ column.choiceSet table
          = .ok ⟨column.optionSetName table, .picklist, column.displayName, column.entries⟩
      ∨ ∃ before value behind,
          column.effectiveValues = before ++ value :: behind
          ∧ before.Nodup
          ∧ value ∈ before
          ∧ column.choiceSet table
            = .error (.duplicateOptionValue table column.logicalName value) := by
  have filled : column.options.isEmpty = false := by simpa using options
  cases repeated : firstRepeat? [] column.entries with
  | none =>
      have fresh := firstRepeat?_eq_none_iff.mp repeated
      rw [fresh_nil_left, entries_map_provisionValue] at fresh
      exact .inl ⟨fresh, by simp [choiceSet, filled, repeated]⟩
  | some entry =>
      obtain ⟨before, behind, split, fresh, among⟩ := exists_split_of_firstRepeat? repeated
      refine .inr ⟨_, entry.provisionValue, behind.map (·.provisionValue), ?_,
        fresh_nil_left.mp fresh, among, by simp [choiceSet, filled, repeated]⟩
      rw [← entries_map_provisionValue, split, List.map_append, List.map_cons]

/-- An attribute with the entries of a choice whose values are distinct offers the choice.
-/
theorem Attribute.offers_of_nodup (few : column.options.length < 2 ^ 31 - 100000000)
    (distinct : column.effectiveNumbers.Nodup) (name : String) (isPrimaryName : Bool)
    : (column.attribute
        (.ofSet ⟨name, .picklist, column.displayName, column.entries⟩)
        isPrimaryName).Offers column := by
  have provision : column.entries.map (·.provisionValue.toInt) = column.effectiveNumbers := by
    rw [← Column.effectiveValues_map_toInt (by omega), ← column.entries_map_provisionValue,
      List.map_map]
    rfl
  have package := Column.entries_map_packageValue few
  have counted : column.packageNumbers.Nodup :=
    List.nodup_range.map fun _ _ same => Int.natCast_inj.mp (Int.add_left_cancel same)
  refine ⟨fun target => ?_, ?_, ?_, fun target => ?_⟩
  · rw [← column.entries_map_label]
    exact List.map_map
  · rw [← package]
    exact List.map_map
  · rw [← provision]
    exact List.map_map
  · rw [← nodup_map_toInt_iff]
    cases target with
    | package => simpa [optionValues, Column.attribute, AttributeShape.ofSet, OptionEntry.value,
        Function.comp_def, package] using counted
    | provision => simpa [optionValues, Column.attribute, AttributeShape.ofSet,
        OptionEntry.value, Function.comp_def, provision] using distinct

/-- A choice with options is encoded exactly when no two of them have one value in a live store, be
the values declared or counted. Then both outputs have its options, with other values each; else
the first value that comes again is reported.
Witness: a choice has an option set or a first repeat, and no position is too large for 32 bits.
-/
theorem Attribute.choice_encoded (choice : column.type = ColumnType.choice.declared)
    (length : column.maxLength ≠ some 0) (options : column.options ≠ [])
    (few : column.options.length < 2 ^ 31 - 100000000) (table : String) (isPrimaryName : Bool)
    : ((∃ attr, ofColumn table column isPrimaryName = .ok attr) ↔ column.effectiveNumbers.Nodup)
      ∧ (∀ attr, ofColumn table column isPrimaryName = .ok attr → attr.Offers column)
      ∧ ∀ error,
          ofColumn table column isPrimaryName = .error error
          → ∃ value : Int32,
              error = .duplicateOptionValue table column.logicalName value
              ∧ IsFirstRepeat value.toInt column.effectiveNumbers := by
  have numbers : column.effectiveValues.map Int32.toInt = column.effectiveNumbers :=
    Column.effectiveValues_map_toInt (by omega)
  rw [ofColumn_of_choice choice length]
  rcases Column.choiceSet_cases options table with
    ⟨distinct, chosen⟩ | ⟨before, value, behind, split, fresh, among, refused⟩
  · rw [chosen]
    have whole : column.effectiveNumbers.Nodup := numbers ▸ nodup_map_toInt_iff.mpr distinct
    refine ⟨iff_of_true ⟨_, rfl⟩ whole, ?_, ?_⟩
    · intro attr encoded
      cases encoded
      exact offers_of_nodup few whole _ _
    · intro error impossible
      cases impossible
  · rw [refused]
    have first : IsFirstRepeat value.toInt column.effectiveNumbers := by
      refine ⟨before.map Int32.toInt, behind.map Int32.toInt, ?_, nodup_map_toInt_iff.mpr fresh,
        List.mem_map_of_mem among⟩
      rw [← numbers, split, List.map_append, List.map_cons]
    refine ⟨iff_of_false ?_ ?_, ?_, ?_⟩
    · rintro ⟨attr, impossible⟩
      cases impossible
    · rw [← numbers, nodup_map_toInt_iff, split]
      intro distinct
      exact (List.nodup_append.mp distinct).2.2 value among value List.mem_cons_self rfl
    · intro attr impossible
      cases impossible
    · intro error failed
      cases failed
      exact ⟨value, rfl, first⟩

/-- How urgent a request is. The last option counts as three.
-/
def urgency : Column :=
  { Column.ofType "urgency" "Urgency" .choice with
    options := [.bare "Low", .explicit 9 "Middle", .bare "High"] }

/-- How urgent a request is, with the value three declared before an option that counts as it.
-/
def urgencyAgain : Column :=
  { urgency with options := [.bare "Low", .explicit 3 "Middle", .bare "High"] }

/-- The urgency of requests is encoded, and not with three twice.
-/
theorem choice_encoded_urgency
    : (∃ attr, Attribute.ofColumn "request" urgency false = .ok attr ∧ attr.Offers urgency)
      ∧ ∃ value : Int32,
          Attribute.ofColumn "request" urgencyAgain false
            = .error (.duplicateOptionValue "request" "urgency" value)
          ∧ IsFirstRepeat value.toInt urgencyAgain.effectiveNumbers := by
  have kind : urgency.type = ColumnType.choice.declared := rfl
  have same : urgencyAgain.type = ColumnType.choice.declared := rfl
  have known := Attribute.choice_encoded kind (by decide) (by decide) (by decide) "request" false
  have again := Attribute.choice_encoded same (by decide) (by decide) (by decide) "request" false
  obtain ⟨attr, encoded⟩ := known.1.mpr (by decide)
  refine ⟨⟨attr, encoded, known.2.1 attr encoded⟩, ?_⟩
  cases outcome : Attribute.ofColumn "request" urgencyAgain false with
  | ok attr => exact absurd (again.1.mp ⟨attr, outcome⟩) (by decide)
  | error cause =>
      obtain ⟨value, rfl, first⟩ := again.2.2 cause outcome
      exact ⟨value, rfl, first⟩

end Tablewright
