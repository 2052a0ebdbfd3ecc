import Tablewright.Proofs.Schema.Encoding

/-! How the primary name of a table is chosen, and when a declared column stands in its way.
-/

namespace Tablewright

/-- A column holds short text when its type is declared so.
-/
theorem Column.isString_iff {column : Column}
    : column.isString = true ↔ column.type = ColumnType.string.declared := by
  rw [isString, beq_iff_eq, TypeName.known?_eq_some_iff]

/-- No column is found under a name that none has.
-/
theorem Table.find?_eq_none_iff {table : Table} {name : String}
    : table.find? name = none ↔ ∀ column ∈ table.columns, column.logicalName ≠ name := by
  simp [find?]

/-- The column found under a name is a column of the table and has the name.
-/
theorem Table.mem_of_find?_eq_some {table : Table} {name : String} {column : Column}
    (found : table.find? name = some column)
    : column ∈ table.columns ∧ column.logicalName = name :=
  ⟨List.mem_of_find?_eq_some found, by simpa using List.find?_some found⟩

/-- Among columns of distinct names, the one found under a name is the one that has it.
-/
theorem Table.find?_eq_some_iff {table : Table} {name : String} {column : Column}
    (distinct : (table.columns.map (·.logicalName)).Nodup)
    : table.find? name = some column
      ↔ column ∈ table.columns ∧ column.logicalName = name :=
  find?_key_eq_some_iff distinct

namespace PrimaryName

/-- The ways in which a primary name is chosen, each with what has been found out about the table by
then.
-/
inductive Resolves (table : Table) (publisherPrefix : String) : PrimaryName → Prop
  | override {name : String} (declared : table.primaryNameColumn = some name)
    : Resolves table publisherPrefix ⟨.override, name⟩
  | convention {column : Column} (undeclared : table.primaryNameColumn = none)
    (conventional : table.find? (conventionalName publisherPrefix) = some column)
    : Resolves table publisherPrefix ⟨.convention, conventionalName publisherPrefix⟩
  | firstRequiredString {column : Column} (undeclared : table.primaryNameColumn = none)
    (unconventional : table.find? (conventionalName publisherPrefix) = none)
    (member : column ∈ table.columns) (text : column.isString = true)
    : Resolves table publisherPrefix ⟨.firstRequiredString, column.logicalName⟩
  | firstString {column : Column} (undeclared : table.primaryNameColumn = none)
    (unconventional : table.find? (conventionalName publisherPrefix) = none)
    (member : column ∈ table.columns) (text : column.isString = true)
    : Resolves table publisherPrefix ⟨.firstString, column.logicalName⟩
  | synthesized (undeclared : table.primaryNameColumn = none)
    (unconventional : table.find? (conventionalName publisherPrefix) = none)
    (textless : ∀ column ∈ table.columns, ¬ column.isString = true)
    : Resolves table publisherPrefix ⟨.synthesized, synthesizedName table⟩

/-- A primary name is chosen in one of these ways.
-/
theorem resolves (table : Table) (publisherPrefix : String)
    : Resolves table publisherPrefix (resolve table publisherPrefix) := by
  rw [resolve]
  cases undeclared : table.primaryNameColumn with
  | some name => exact .override undeclared
  | none =>
      cases conventional : table.find? (conventionalName publisherPrefix) with
      | some column => exact .convention undeclared conventional
      | none =>
          simp only [Option.isSome_none, Bool.false_eq_true, if_false]
          cases required : table.columns.find? fun column => column.isString && column.required with
          | some column =>
              have text := List.find?_some required
              rw [Bool.and_eq_true] at text
              exact .firstRequiredString undeclared conventional
                (List.mem_of_find?_eq_some required) text.1
          | none =>
              cases first : table.columns.find? Column.isString with
              | some column =>
                  exact .firstString undeclared conventional (List.mem_of_find?_eq_some first)
                    (List.find?_some first)
              | none =>
                  exact .synthesized undeclared conventional (List.find?_eq_none.mp first)

/-- Nothing stands in the way of a table's primary name exactly when a column that an override names
is text and a name that has to be made up is that of no column.
-/
theorem clash?_resolve_eq_none_iff {table : Table} {publisherPrefix : String}
    (distinct : (table.columns.map (·.logicalName)).Nodup)
    : (resolve table publisherPrefix).clash? table = none
      ↔ (∀ name,
          table.primaryNameColumn = some name
          → ∀ column ∈ table.columns,
              column.logicalName = name → column.type = ColumnType.string.declared)
        ∧ (table.primaryNameColumn = none
            → (∀ column ∈ table.columns,
                column.logicalName ≠ publisherPrefix ++ "_name"
                ∧ column.type ≠ ColumnType.string.declared)
            → ∀ column ∈ table.columns,
                column.logicalName ≠ table.logicalName ++ "_name") := by
  have resolved := resolves table publisherPrefix
  generalize resolve table publisherPrefix = primary at resolved ⊢
  cases resolved with
  | override declared =>
      simp only [declared, clash?, Option.filter_eq_none_iff,
        Table.find?_eq_some_iff distinct, Option.some.injEq, forall_eq', reduceCtorEq,
        false_implies, and_true, Bool.not_eq_true', ← Bool.not_eq_true, Column.isString_iff,
        not_not, and_imp]
  | convention undeclared conventional =>
      obtain ⟨member, named⟩ := Table.mem_of_find?_eq_some conventional
      refine iff_of_true rfl ⟨by simp [undeclared], fun _ free => ?_⟩
      exact absurd named (free _ member).1
  | firstRequiredString undeclared _ member text | firstString undeclared _ member text =>
      refine iff_of_true rfl ⟨by simp [undeclared], fun _ free => ?_⟩
      exact absurd (Column.isString_iff.mp text) (free _ member).2
  | synthesized undeclared unconventional textless =>
      have free : ∀ column ∈ table.columns,
          column.logicalName ≠ publisherPrefix ++ "_name"
          ∧ column.type ≠ ColumnType.string.declared := fun column member =>
        ⟨Table.find?_eq_none_iff.mp unconventional column member,
          mt Column.isString_iff.mpr (textless column member)⟩
      refine Table.find?_eq_none_iff.trans ⟨fun clear => ⟨by simp [undeclared], ?_⟩, ?_⟩
      · exact fun _ _ => clear
      · exact fun checked => checked.2 undeclared free

end PrimaryName

end Tablewright
