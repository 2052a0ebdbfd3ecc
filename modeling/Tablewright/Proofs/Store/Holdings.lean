import Tablewright.Proofs.Indexes
import Tablewright.Proofs.Runs
import Tablewright.Store.Memory

/-! What a store has. Everything that can happen to a store adds to what it has, or leaves it as
it is.
-/

namespace Tablewright.Store

/-- Something that a store can have. A component goes by its table.
-/
inductive Holding
  | solution (name : String)
  | table (name : String)
  | column (table name : String)
  | relationship (name : String)
  | component (solution table : String)
  deriving DecidableEq, Repr

namespace Memory

/-- The store has something.
-/
def holds (memory : Memory) : Holding → Bool
  | .solution name => memory.solutions.contains name
  | .table name => memory.tables.contains name
  | .column table name => memory.hasColumn table name
  | .relationship name => memory.relationships.contains name
  | .component solution table => (memory.componentTables solution).contains table

/-- A table is in sight.
-/
def shows (memory : Memory) (table : String) : Bool :=
  (memory.tables.get? table).any fun record => record.hiddenFrom == 0

variable {memory changed : Memory} {table column name solution id : String}
variable {holding : Holding} {record old : TableRecord}

-----------------------------------------------------------------------------------------
-- Answers
-----------------------------------------------------------------------------------------

/-- A store that can be reached answers every call.
-/
theorem respond_of_online (online : memory.isOffline = false) (query : Call)
    : memory.respond query = memory.answer query := by
  cases query with
  | _ => simp [respond, answer, online]

/-- A store that cannot be reached does not change.
-/
theorem respond_of_offline (offline : memory.isOffline = true) (query : Call)
    : (memory.respond query).2 = memory := by
  cases query with
  | _ => simp [respond, offline]

-----------------------------------------------------------------------------------------
-- Tables, columns and components by records
-----------------------------------------------------------------------------------------

/-- A store has a table when that has a record.
-/
theorem holds_table_iff
    : memory.holds (.table table) = true ↔ ∃ record, memory.tables.get? table = some record := by
  rw [holds, Index.contains, Option.isSome_iff_exists]

/-- A store has a column when the record of its table has.
-/
theorem holds_column_iff
    : memory.holds (.column table column) = true
      ↔ ∃ record, memory.tables.get? table = some record
          ∧ record.columns.contains column = true := by
  rw [holds, hasColumn]
  cases memory.tables.get? table with
  | _ => simp

/-- A store has a component when the id of its table is registered.
-/
theorem holds_component_iff
    : memory.holds (.component solution table) = true
      ↔ ∃ record, memory.tables.get? table = some record
          ∧ (solution, record.id) ∈ memory.components := by
  simp only [holds, componentTables, List.contains_iff_mem, List.mem_map, List.mem_filter,
    decide_eq_true_eq, Prod.exists]
  constructor
  · intro listed
    obtain ⟨_, record, ⟨member, registered⟩, rfl⟩ := listed
    exact ⟨record, Index.mem_entries_iff.mp member, registered⟩
  · intro registered
    obtain ⟨record, found, member⟩ := registered
    exact ⟨table, record, ⟨Index.mem_entries_iff.mpr found, member⟩, rfl⟩

/-- A table is in sight when its record is hidden from no more checks.
-/
theorem shows_iff
    : memory.shows table = true
      ↔ ∃ record, memory.tables.get? table = some record ∧ record.hiddenFrom = 0 := by
  rw [shows]
  cases memory.tables.get? table with
  | _ => simp

/-- A check finds what is in sight.
-/
theorem checkTable_fst (memory : Memory) (table : String)
    : (memory.checkTable table).1 = memory.shows table := by
  rw [checkTable, shows]
  cases memory.tables.get? table with
  | none => rfl
  | some record =>
      dsimp only
      split
      · next seen => simp [seen]
      · next hidden => simp [hidden]

/-- A check that finds a table changes nothing.
-/
theorem checkTable_of_shows (inSight : memory.shows table = true)
    : memory.checkTable table = (true, memory) := by
  obtain ⟨record, found, seen⟩ := shows_iff.mp inSight
  simp only [checkTable, found, seen, if_true]

/-- The names of a set are those that it was made from.
-/
theorem contains_nameSet {names : List String}
    : (nameSet names).contains name = true ↔ name ∈ names := by
  rw [nameSet, Index.contains_ofList, List.any_map, List.any_eq_true]
  simp

-----------------------------------------------------------------------------------------
-- What changes add
-----------------------------------------------------------------------------------------

/-- A note adds nothing.
-/
@[simp]
theorem holds_note (creation : Creation)
    : (memory.note creation).holds holding = memory.holds holding := by
  cases holding with
  | _ => rfl

/-- A solution adds itself.
-/
theorem holds_withSolution
    : (memory.withSolution name).holds holding = true
      ↔ memory.holds holding = true ∨ holding = .solution name := by
  cases holding with
  | solution other =>
      simp only [holds, withSolution, NameSet.add, Index.contains_insert, Bool.or_eq_true,
        beq_iff_eq, Holding.solution.injEq]
      exact or_comm
  | table | column | relationship | component => simp only [reduceCtorEq, or_false]; rfl

/-- A table without a record adds itself and its columns, and all components that wait for its id.
-/
theorem holds_addTable {columns : List String} {hiddenFrom : Nat}
    (absent : memory.tables.get? table = none)
    : (memory.addTable table columns hiddenFrom).holds holding = true
      ↔ memory.holds holding = true
        ∨ holding = .table table
        ∨ (∃ column ∈ columns, holding = .column table column)
        ∨ ∃ solution,
            holding = .component solution table
            ∧ (solution, idOf (memory.lastId + 1)) ∈ memory.components := by
  have record (other : String)
      : (memory.addTable table columns hiddenFrom).tables.get? other
        = if other = table then some ⟨idOf (memory.lastId + 1), nameSet columns, hiddenFrom⟩
          else memory.tables.get? other :=
    Index.get?_insert _ _ _ _
  cases holding with
  | solution | relationship => simp [holds, addTable]
  | table other =>
      rw [holds_table_iff, holds_table_iff, record]
      by_cases same : other = table
      · simp [same]
      · simp [same]
  | column other name =>
      rw [holds_column_iff, holds_column_iff, record]
      by_cases same : other = table
      · subst same
        simp [absent, contains_nameSet]
      · simp [same]
  | component solution other =>
      rw [holds_component_iff, holds_component_iff, record]
      by_cases same : other = table
      · subst same
        simp [absent, addTable]
      · simp [same, addTable]

/-- A record that keeps the id and the columns of the one before adds its further columns.
-/
theorem holds_setRecord {added : List String} (found : memory.tables.get? table = some old)
    (sameId : record.id = old.id)
    (columns
      : ∀ name, record.columns.contains name = true
          ↔ old.columns.contains name = true ∨ name ∈ added)
    : (memory.setRecord table record).holds holding = true
      ↔ memory.holds holding = true ∨ ∃ column ∈ added, holding = .column table column := by
  have records (other : String)
      : (memory.setRecord table record).tables.get? other
        = if other = table then some record else memory.tables.get? other :=
    Index.get?_insert _ _ _ _
  cases holding with
  | solution | relationship => simp [holds, setRecord]
  | table other =>
      rw [holds_table_iff, holds_table_iff, records]
      by_cases same : other = table
      · simp [same, found]
      · simp [same]
  | column other name =>
      rw [holds_column_iff, holds_column_iff, records]
      by_cases same : other = table
      · subst same
        simp [found, columns]
      · simp [same]
  | component solution other =>
      rw [holds_component_iff, holds_component_iff, records]
      by_cases same : other = table
      · subst same
        simp [found, sameId, setRecord]
      · simp [same, setRecord]

end Memory

end Tablewright.Store
