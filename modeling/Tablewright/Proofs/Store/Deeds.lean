import Tablewright.Proofs.Indexes
import Tablewright.Store.Memory

/-! Deeds in a store: what each gives and leaves behind, and which of them leave the store as it is
when they fail. A deed changes the store in place, so that this has to do with the order of its steps.
-/

namespace Tablewright.Store.Memory

variable {α β : Type} {memory changed : Memory} {deed first : Deed α} {next : α → Deed β}
variable {table column name primary : String}

-----------------------------------------------------------------------------------------
-- Single steps
-----------------------------------------------------------------------------------------

/-- To fail leaves the store as it is.
-/
@[simp]
theorem perform_throw (memory : Memory) (cause : StoreError)
    : memory.perform (throw cause : Deed α) = (.error cause, memory) :=
  rfl

/-- A deed can look at the whole store.
-/
@[simp]
theorem perform_get (memory : Memory) : memory.perform get = (.ok memory, memory) :=
  rfl

/-- A deed can change the store.
-/
@[simp]
theorem perform_modify (memory : Memory) (change : Memory → Memory)
    : memory.perform (modify change) = (.ok (), change memory) :=
  rfl

/-- A deed goes on in the store that its first step leaves behind, unless that fails.
-/
theorem perform_bind (memory : Memory) (first : Deed α) (next : α → Deed β)
    : memory.perform (first >>= next)
      = match memory.perform first with
        | (.ok result, changed) => changed.perform (next result)
        | (.error cause, changed) => (.error cause, changed) := by
  unfold perform ExceptT.run StateT.run
  simp only [bind, ExceptT.bind, ExceptT.mk, StateT.bind, ExceptT.bindCont]
  cases first memory with
  | mk result changed => cases result <;> rfl

/-- A name passes unless the store refuses it.
-/
theorem perform_checkName (memory : Memory) (name : String)
    : memory.perform (checkName name)
      = ((memory.rejections.get? name).elim (.ok ()) .error, memory) := by
  rw [checkName, perform_bind, perform_get]
  dsimp only
  cases memory.rejections.get? name with
  | _ => rfl

/-- A deed that starts with a name that the store refuses fails with the refusal.
-/
theorem perform_checkName_bind {cause : StoreError} {next : Unit → Deed β}
    (refused : memory.rejections.get? name = some cause)
    : memory.perform (checkName name >>= next) = (.error cause, memory) := by
  rw [perform_bind, perform_checkName, refused]
  rfl

/-- The record of a table is found when the table is there.
-/
theorem perform_record (memory : Memory) (table : String)
    : memory.perform (record table)
      = ((memory.tables.get? table).elim
          (.error (.remote 404 ("Could not find entity with name '" ++ table ++ "'"))) .ok,
        memory) := by
  rw [record, perform_bind, perform_get]
  dsimp only
  cases memory.tables.get? table with
  | _ => rfl

/-- A column is inserted, and whether its name was new is told afterwards.
-/
theorem perform_insertColumn (memory : Memory) (table column : String) (record : TableRecord)
    : memory.perform (insertColumn table column record)
      = (.ok (!record.columns.contains column),
        memory.setRecord table (record.withColumn column)) :=
  rfl

-----------------------------------------------------------------------------------------
-- Failures
-----------------------------------------------------------------------------------------

/-- A deed only looks at a store.
-/
def Reads (memory : Memory) (deed : Deed α) : Prop :=
  (memory.perform deed).2 = memory

/-- A deed leaves a store as it is if it fails there.
-/
def Careful (memory : Memory) (deed : Deed α) : Prop :=
  ∀ cause changed, memory.perform deed = (.error cause, changed) → changed = memory

/-- To check a name is only to look.
-/
theorem reads_checkName (memory : Memory) (name : String) : memory.Reads (checkName name) := by
  rw [Reads, perform_checkName]

/-- To look for a record is only to look.
-/
theorem reads_record (memory : Memory) (table : String) : memory.Reads (record table) := by
  rw [Reads, perform_record]

/-- What only looks leaves the store as it is.
-/
theorem Reads.careful (reads : memory.Reads deed) : memory.Careful deed := by
  intro cause changed failed
  rwa [Reads, failed] at reads

/-- What succeeds does not fail.
-/
theorem careful_of_succeeds {result : α} (succeeds : (memory.perform deed).1 = .ok result)
    : memory.Careful deed := by
  intro cause changed failed
  rw [failed] at succeeds
  cases succeeds

/-- After looking a deed is careful if what it does with the result is.
-/
theorem Careful.bind (reads : memory.Reads first)
    (careful
      : ∀ result,
          memory.perform first = (.ok result, memory)
          → memory.Careful (next result))
    : memory.Careful (first >>= next) := by
  intro cause changed failed
  rw [perform_bind] at failed
  cases looked : memory.perform first with
  | mk answer same =>
      rw [Reads, looked] at reads
      subst reads
      rw [looked] at failed
      cases answer with
      | ok result => exact careful result looked cause changed failed
      | error other =>
          cases failed
          rfl

/-- A name that a table has already can be inserted, and nothing changes.
-/
theorem perform_insertColumn_of_contains {record : TableRecord}
    (found : memory.tables.get? table = some record)
    (known : record.columns.contains column = true)
    : memory.perform (insertColumn table column record) = (.ok false, memory) := by
  have kept : record.withColumn column = record := by
    rw [TableRecord.withColumn, Index.add_of_contains known]
  rw [perform_insertColumn, kept, setRecord, Index.insert_of_get?_eq_some found, known]
  rfl

/-- A solution is made or the store stays as it is.
-/
theorem careful_createSolution : memory.Careful (createSolution name) :=
  .bind (memory.reads_checkName name) fun _ _ => careful_of_succeeds rfl

/-- A table is made or the store stays as it is: the identifier is taken after the last check.
-/
theorem careful_createTable : memory.Careful (createTable table primary) := by
  refine .bind (memory.reads_checkName table) fun _ _ => .bind rfl fun same looked => ?_
  split
  · exact Reads.careful rfl
  · exact careful_of_succeeds rfl

/-- A column is made or the store stays as it is: a name that is refused after it was inserted had
been there before.
-/
theorem careful_createColumn : memory.Careful (createColumn table column) := by
  refine .bind (memory.reads_checkName column) fun _ _ =>
    .bind (memory.reads_record table) fun record looked => ?_
  have found : memory.tables.get? table = some record := by
    rw [perform_record] at looked
    cases there : memory.tables.get? table with
    | none =>
        rw [there] at looked
        cases looked
    | some other =>
        rw [there] at looked
        cases looked
        rfl
  cases known : record.columns.contains column with
  | true =>
      have inserted := perform_insertColumn_of_contains found known
      refine .bind (congrArg Prod.snd inserted) fun isNew answered => ?_
      rw [inserted] at answered
      cases answered
      exact Reads.careful rfl
  | false =>
      intro cause changed failed
      rw [perform_bind, perform_insertColumn, known] at failed
      cases failed

/-- A relationship is made or the store stays as it is: both tables are looked for before its lookup
is inserted.
-/
theorem careful_createRelationship {relationship : Relationship} {lookup : String}
    : memory.Careful (createRelationship relationship lookup) :=
  .bind (memory.reads_checkName relationship.name) fun _ _ =>
    .bind (memory.reads_record relationship.referencedTable) fun _ _ =>
      .bind (memory.reads_record relationship.referencingTable) fun _ _ => careful_of_succeeds rfl

/-- A component is added or the store stays as it is.
-/
theorem careful_addComponent {solution id : String} : memory.Careful (addComponent solution id) := by
  refine .bind rfl fun same looked => ?_
  split
  · exact careful_of_succeeds rfl
  · exact Reads.careful rfl

end Tablewright.Store.Memory
