import Tablewright.Proofs.Schema.Encoding

/-! Which schemas pass the checks of a schema as a whole: those of names and of lookup targets.
-/

namespace Tablewright

/-- A letter followed by letters, digits and underscores, all of them ASCII.
-/
def IsLogicalName (name : String) : Prop :=
  ∃ first rest,
    name.toList = first :: rest
    ∧ first.isAlpha = true
    ∧ ∀ c ∈ rest, c.isAlphanum = true ∨ c = '_'

/-- The check of a name accepts exactly the well-formed ones.
-/
theorem isLogicalName_iff {name : String} : isLogicalName name = true ↔ IsLogicalName name := by
  simp only [isLogicalName, IsLogicalName]
  cases name.toList with
  | nil => simp
  | cons c rest => simp

/-- Table names are accepted when they are well formed and fresh.
-/
theorem Schema.checkTableNames_eq_ok_iff {seen : List String} {tables : List Table}
    : checkTableNames seen tables = .ok ()
      ↔ (∀ table ∈ tables, IsLogicalName table.logicalName)
        ∧ Fresh seen (tables.map (·.logicalName)) := by
  induction tables generalizing seen with
  | nil => simp [checkTableNames]
  | cons table rest ih =>
      simp only [checkTableNames, List.map_cons, fresh_cons_iff, List.forall_mem_cons,
        ← isLogicalName_iff]
      by_cases named : isLogicalName table.logicalName = true
      · by_cases repeated : table.logicalName ∈ seen
        · simp [named, repeated]
        · simp [named, repeated, ih, isLogicalName_iff]
      · simp [named]

/-- A column's target is accepted when, for a lookup, it is one of the tables.
-/
theorem Schema.checkTarget_eq_ok_iff {tables : List String} {table : String} {column : Column}
    : checkTarget tables table column = .ok ()
      ↔ (column.type = ColumnType.lookup.declared
          → ∃ target ∈ tables, column.target = some target) := by
  simp only [checkTarget, TypeName.known?_eq_some_iff]
  by_cases lookup : column.type = ColumnType.lookup.declared
  · cases column.target with
    | none => simp [lookup]
    | some target =>
        by_cases known : target ∈ tables
        · simp [lookup, known]
        · simp [lookup, known]
  · simp [lookup]

/-- Columns are accepted when their names are well formed and fresh and their targets are accepted.
-/
theorem Schema.checkColumns_eq_ok_iff {tables seen : List String} {table : String}
    {columns : List Column}
    : checkColumns tables table seen columns = .ok ()
      ↔ (∀ column ∈ columns,
          IsLogicalName column.logicalName
          ∧ (column.type = ColumnType.lookup.declared
              → ∃ target ∈ tables, column.target = some target))
        ∧ Fresh seen (columns.map (·.logicalName)) := by
  induction columns generalizing seen with
  | nil => simp [checkColumns]
  | cons column rest ih =>
      simp only [checkColumns, List.map_cons, fresh_cons_iff, List.forall_mem_cons,
        ← isLogicalName_iff]
      by_cases named : isLogicalName column.logicalName = true
      · by_cases repeated : column.logicalName ∈ seen
        · simp [named, repeated]
        · simp [named, repeated, check_bind_eq_ok_iff, checkTarget_eq_ok_iff, ih,
            isLogicalName_iff, and_assoc]
      · simp [named]

/-- Tables are accepted when the columns of each are.
-/
theorem Schema.checkTables_eq_ok_iff {names : List String} {tables : List Table}
    : checkTables names tables = .ok ()
      ↔ ∀ table ∈ tables, checkColumns names table.logicalName [] table.columns = .ok () := by
  induction tables with
  | nil => simp [checkTables]
  | cons table rest ih => simp [checkTables, check_bind_eq_ok_iff, ih]

/-- A schema as a whole is accepted when all its names are well formed, table names and the column
names of each table are distinct, and all lookups refer to its tables.
-/
theorem Schema.validate_eq_ok_iff {schema : Schema}
    : schema.validate = .ok ()
      ↔ schema.tableNames.Nodup
        ∧ ∀ table ∈ schema.tables,
            IsLogicalName table.logicalName
            ∧ (table.columns.map (·.logicalName)).Nodup
            ∧ ∀ column ∈ table.columns,
                IsLogicalName column.logicalName
                ∧ (column.type = ColumnType.lookup.declared
                    → ∃ target ∈ schema.tableNames, column.target = some target) := by
  simp only [validate, check_bind_eq_ok_iff, checkTableNames_eq_ok_iff,
    checkTables_eq_ok_iff, checkColumns_eq_ok_iff, fresh_nil_left]
  constructor
  · intro checked
    obtain ⟨⟨named, distinct⟩, columns⟩ := checked
    exact ⟨distinct, fun table member =>
      ⟨named table member, (columns table member).2, (columns table member).1⟩⟩
  · intro valid
    obtain ⟨distinct, tables⟩ := valid
    exact ⟨⟨fun table member => (tables table member).1, distinct⟩, fun table member =>
      ⟨(tables table member).2.2, (tables table member).2.1⟩⟩

end Tablewright
