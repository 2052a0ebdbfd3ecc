import Tablewright.Proofs.Store.Deeds
import Tablewright.Proofs.Store.Holdings

/-! What a store creates: when a creation succeeds, what the store is like afterwards, and what
it has then that it had not before.
-/

namespace Tablewright.Store

namespace Memory

variable {memory changed : Memory} {table column name solution id primary lookup : String}
variable {relationship : Relationship} {holding : Holding}

-----------------------------------------------------------------------------------------
-- When creations succeed
-----------------------------------------------------------------------------------------

/-- A solution is created unless its name is refused.
-/
theorem createSolution_eq_ok_iff
    : memory.perform (createSolution name) = (.ok (), changed)
      ↔ memory.rejections.get? name = none
        ∧ changed = (memory.withSolution name).note (.solution name) := by
  rw [createSolution, perform_bind, perform_checkName]
  cases memory.rejections.get? name with
  | none => simpa [perform_bind] using eq_comm
  | some error => simp

/-- A table is created unless its name is refused or the store has it.
-/
theorem createTable_eq_ok_iff
    : memory.perform (createTable table primary) = (.ok (), changed)
      ↔ memory.rejections.get? table = none
        ∧ memory.tables.get? table = none
        ∧ changed = (memory.addTable table [primary] memory.delay).note (.table table) := by
  rw [createTable, perform_bind, perform_checkName]
  cases memory.rejections.get? table with
  | none =>
      cases there : memory.tables.get? table with
      | none =>
          simpa [perform_bind, Index.contains, there, nextId, setRecord, addTable] using eq_comm
      | some record => simp [perform_bind, Index.contains, there]
  | some error => simp

/-- A column is created unless its name is refused, its table has it or is not there.
-/
theorem createColumn_eq_ok_iff
    : memory.perform (createColumn table column) = (.ok (), changed)
      ↔ memory.rejections.get? column = none
        ∧ ∃ record, memory.tables.get? table = some record
          ∧ record.columns.contains column = false
          ∧ changed
            = (memory.setRecord table (record.withColumn column)).note
                (.column table column) := by
  rw [createColumn, perform_bind, perform_checkName]
  cases memory.rejections.get? column with
  | none =>
      simp only [Option.elim, perform_bind, perform_record]
      cases memory.tables.get? table with
      | none => simp
      | some record =>
          cases known : record.columns.contains column with
          | true => simp [perform_insertColumn, known]
          | false => simpa [perform_insertColumn, known] using eq_comm
  | some error => simp

/-- A relationship is created unless its name is refused or one of its tables is not there.
-/
theorem createRelationship_eq_ok_iff
    : memory.perform (createRelationship relationship lookup) = (.ok (), changed)
      ↔ memory.rejections.get? relationship.name = none
        ∧ (∃ record, memory.tables.get? relationship.referencedTable = some record)
        ∧ ∃ record, memory.tables.get? relationship.referencingTable = some record
          ∧ changed
            = ((memory.setRecord relationship.referencingTable
                  (record.withColumn lookup)).withRelationship relationship.name).note
                (.relationship relationship.name) := by
  rw [createRelationship, perform_bind, perform_checkName]
  cases memory.rejections.get? relationship.name with
  | none =>
      simp only [Option.elim, perform_bind, perform_record]
      cases memory.tables.get? relationship.referencedTable with
      | none => simp
      | some referenced =>
          dsimp only
          cases memory.tables.get? relationship.referencingTable with
          | none => simp
          | some referencing => simpa [perform_insertColumn] using eq_comm
  | some error => simp

/-- A component is added if the store has the solution.
-/
theorem addComponent_eq_ok_iff
    : memory.perform (addComponent solution id) = (.ok (), changed)
      ↔ memory.solutions.contains solution = true
        ∧ changed = (memory.withComponent solution id).note (.component id) := by
  rw [addComponent, perform_bind, perform_get]
  cases known : memory.solutions.contains solution with
  | true => simpa [perform_bind, known] using eq_comm
  | false => simp [known]

-----------------------------------------------------------------------------------------
-- What creations add
-----------------------------------------------------------------------------------------

/-- A record with one more column adds that.
-/
theorem holds_setRecord_withColumn {record : TableRecord}
    (found : memory.tables.get? table = some record)
    : (memory.setRecord table (record.withColumn column)).holds holding = true
      ↔ memory.holds holding = true ∨ holding = .column table column := by
  have columns (name : String)
      : (record.withColumn column).columns.contains name = true
        ↔ record.columns.contains name = true ∨ name ∈ [column] := by
    rw [TableRecord.withColumn, NameSet.add, Index.contains_insert, Bool.or_eq_true, beq_iff_eq,
      List.mem_singleton]
    exact or_comm
  have sameId : (record.withColumn column).id = record.id := rfl
  rw [holds_setRecord found sameId columns]
  simp only [List.mem_singleton, exists_eq_left]

/-- To create a solution adds it.
-/
theorem holds_createSolution (created : memory.perform (createSolution name) = (.ok (), changed))
    : changed.holds holding = true
      ↔ memory.holds holding = true ∨ holding = .solution name := by
  obtain ⟨_, rfl⟩ := createSolution_eq_ok_iff.mp created
  rw [holds_note, holds_withSolution]

/-- To create a table adds it and its first column, and all components that wait for its id.
-/
theorem holds_createTable (created : memory.perform (createTable table primary) = (.ok (), changed))
    : changed.holds holding = true
      ↔ memory.holds holding = true
        ∨ holding = .table table
        ∨ holding = .column table primary
        ∨ ∃ solution,
            holding = .component solution table
            ∧ (solution, idOf (memory.lastId + 1)) ∈ memory.components := by
  obtain ⟨_, absent, rfl⟩ := createTable_eq_ok_iff.mp created
  rw [holds_note, holds_addTable absent]
  simp only [List.mem_singleton, exists_eq_left]

/-- To create a column adds it.
-/
theorem holds_createColumn (created : memory.perform (createColumn table column) = (.ok (), changed))
    : changed.holds holding = true
      ↔ memory.holds holding = true ∨ holding = .column table column := by
  obtain ⟨_, record, found, _, rfl⟩ := createColumn_eq_ok_iff.mp created
  rw [holds_note, holds_setRecord_withColumn found]

/-- To create a relationship adds it and the column of its lookup.
-/
theorem holds_createRelationship
    (created : memory.perform (createRelationship relationship lookup) = (.ok (), changed))
    : changed.holds holding = true
      ↔ memory.holds holding = true
        ∨ holding = .relationship relationship.name
        ∨ holding = .column relationship.referencingTable lookup := by
  obtain ⟨_, _, record, found, rfl⟩ := createRelationship_eq_ok_iff.mp created
  have columns
      : (memory.setRecord relationship.referencingTable (record.withColumn lookup)).holds holding
          = true
        ↔ memory.holds holding = true
          ∨ holding = .column relationship.referencingTable lookup :=
    holds_setRecord_withColumn found
  rw [holds_note]
  cases holding with
  | relationship name =>
      simp only [holds, withRelationship, NameSet.add, Index.contains_insert, Bool.or_eq_true, beq_iff_eq,
        Holding.relationship.injEq, reduceCtorEq, or_false]
      exact or_comm
  | column =>
      simp only [reduceCtorEq, false_or]
      exact columns
  | solution | table | component =>
      simp only [reduceCtorEq, or_false] at columns ⊢
      exact columns

/-- Registered is what was registered before, and the component that was added.
-/
theorem mem_withComponent_iff {pair : String × String}
    : pair ∈ (memory.withComponent solution id).components
      ↔ pair ∈ memory.components ∨ pair = (solution, id) := by
  rw [withComponent]
  split
  · next known =>
    refine (or_iff_left_of_imp ?_).symm
    rintro rfl
    exact known
  · rw [List.mem_append, List.mem_singleton]

/-- To add a component adds that of every table with its id.
-/
theorem holds_addComponent (created : memory.perform (addComponent solution id) = (.ok (), changed))
    : changed.holds holding = true
      ↔ memory.holds holding = true
        ∨ ∃ table record, holding = .component solution table
            ∧ memory.tables.get? table = some record ∧ record.id = id := by
  obtain ⟨_, rfl⟩ := addComponent_eq_ok_iff.mp created
  rw [holds_note]
  cases holding with
  | component other table =>
      rw [holds_component_iff, holds_component_iff]
      simp only [mem_withComponent_iff, Prod.mk.injEq, Holding.component.injEq]
      constructor
      · intro there
        obtain ⟨record, found, before | ⟨rfl, same⟩⟩ := there
        · exact .inl ⟨record, found, before⟩
        · exact .inr ⟨table, record, ⟨rfl, rfl⟩, found, same⟩
      · intro there
        rcases there with ⟨record, found, before⟩ | ⟨_, record, ⟨rfl, rfl⟩, found, same⟩
        · exact ⟨record, found, .inl before⟩
        · exact ⟨record, found, .inr ⟨rfl, same⟩⟩
  | solution | table | column | relationship =>
      simp only [reduceCtorEq, false_and, exists_false, or_false]
      rfl

end Memory

end Tablewright.Store
