import Tablewright.Proofs.Store.Creations

/-! A store loses nothing: whatever it is asked, it has afterwards what it had, and no table
gets out of sight.
-/

namespace Tablewright.Store

open Memory

/-- What a store has and shows, it has and shows later on, and it can be reached as before.
-/
structure Keeps (before after : Memory) : Prop where
  holds : ∀ {holding}, before.holds holding = true → after.holds holding = true
  shows : ∀ {table}, before.shows table = true → after.shows table = true
  isOffline : after.isOffline = before.isOffline

namespace Keeps

variable {memory before after last changed : Memory} {table column : String}
variable {record old : TableRecord}

/-- A store keeps what it has when nothing happens.
-/
theorem refl (memory : Memory) : Keeps memory memory :=
  ⟨id, id, rfl⟩

/-- What is kept twice is kept.
-/
theorem trans (first : Keeps before after) (second : Keeps after last) : Keeps before last :=
  ⟨second.holds ∘ first.holds, second.shows ∘ first.shows,
    second.isOffline.trans first.isOffline⟩

/-- A table whose record is set is in sight as that says, and all others are as before.
-/
theorem shows_setRecord_iff {other : String}
    : (memory.setRecord table record).shows other = true
      ↔ if other = table then record.hiddenFrom = 0 else memory.shows other = true := by
  rw [Memory.shows, setRecord, Index.get?_insert]
  split
  · simp
  · rfl

/-- A record may get further columns and come nearer to being seen.
-/
theorem setRecord {added : List String} (found : memory.tables.get? table = some old)
    (sameId : record.id = old.id)
    (columns
      : ∀ name, record.columns.contains name = true
          ↔ old.columns.contains name = true ∨ name ∈ added)
    (nearer : record.hiddenFrom ≤ old.hiddenFrom)
    : Keeps memory (memory.setRecord table record) := by
  refine ⟨fun had => (holds_setRecord found sameId columns).mpr (.inl had), ?_, rfl⟩
  intro other inSight
  rw [shows_setRecord_iff]
  split
  · next same =>
    subst same
    obtain ⟨_, there, seen⟩ := shows_iff.mp inSight
    cases found.symm.trans there
    exact Nat.le_zero.mp (seen ▸ nearer)
  · exact inSight

/-- To look for a table keeps everything.
-/
theorem checkTable (memory : Memory) (table : String)
    : Keeps memory (memory.checkTable table).2 := by
  rw [Memory.checkTable]
  cases found : memory.tables.get? table with
  | none => exact refl memory
  | some record =>
      dsimp only
      split
      · exact refl memory
      · have same (name : String)
            : record.columns.contains name = true
              ↔ record.columns.contains name = true ∨ name ∈ ([] : List String) := by
          simp
        exact setRecord found rfl same (Nat.sub_le _ _)

/-- To try to create something keeps everything when success does, and when a failure changes
nothing.
-/
theorem perform {deed : Deed Unit} (careful : memory.Careful deed)
    (success : ∀ {changed}, memory.perform deed = (.ok (), changed) → Keeps memory changed)
    : Keeps memory (memory.perform deed).2 := by
  cases done : memory.perform deed with
  | mk result changed =>
      cases result with
      | error cause => exact careful cause changed done ▸ refl memory
      | ok => exact success done

/-- To create a table keeps everything.
-/
theorem createTable {primary : String}
    (created : memory.perform (Memory.createTable table primary) = (.ok (), changed))
    : Keeps memory changed := by
  refine ⟨fun had => (holds_createTable created).mpr (.inl had), ?_, ?_⟩
  · obtain ⟨_, absent, rfl⟩ := createTable_eq_ok_iff.mp created
    intro other inSight
    obtain ⟨record, found, seen⟩ := shows_iff.mp inSight
    have different : other ≠ table := by
      rintro rfl
      cases absent.symm.trans found
    refine shows_iff.mpr ⟨record, ?_, seen⟩
    exact (Index.get?_insert_of_ne _ _ different).trans found
  · obtain ⟨_, _, rfl⟩ := createTable_eq_ok_iff.mp created
    rfl

/-- A record with one more column is in sight like the one before.
-/
theorem shows_setRecord_withColumn (found : memory.tables.get? table = some record)
    {other : String} (inSight : memory.shows other = true)
    : (memory.setRecord table (record.withColumn column)).shows other = true := by
  rw [shows_setRecord_iff]
  split
  · next same =>
    subst same
    obtain ⟨_, there, seen⟩ := shows_iff.mp inSight
    cases found.symm.trans there
    exact seen
  · exact inSight

/-- Whatever a store is asked, it keeps everything.
-/
theorem respond (memory : Memory) (query : Call) : Keeps memory (memory.respond query).2 := by
  have answer : Keeps memory (memory.answer query).2 := by
    cases query with
    | tableExists table => exact checkTable memory table
    | createSolution solution publisher =>
        refine perform careful_createSolution fun created => ?_
        refine ⟨fun had => (holds_createSolution created).mpr (.inl had), ?_, ?_⟩
        all_goals
          obtain ⟨_, rfl⟩ := createSolution_eq_ok_iff.mp created
        · exact id
        · rfl
    | createTable entity primary => exact perform careful_createTable createTable
    | createColumn table attr =>
        refine perform careful_createColumn fun created => ?_
        refine ⟨fun had => (holds_createColumn created).mpr (.inl had), ?_, ?_⟩
        all_goals
          obtain ⟨_, _, found, _, rfl⟩ := createColumn_eq_ok_iff.mp created
        · exact shows_setRecord_withColumn found
        · rfl
    | createRelationship relationship lookup =>
        refine perform careful_createRelationship fun created => ?_
        refine ⟨fun had => (holds_createRelationship created).mpr (.inl had), ?_, ?_⟩
        all_goals
          obtain ⟨_, _, _, found, rfl⟩ := createRelationship_eq_ok_iff.mp created
        · exact shows_setRecord_withColumn found
        · rfl
    | addComponent solution component =>
        refine perform careful_addComponent fun created => ?_
        refine ⟨fun had => (holds_addComponent created).mpr (.inl had), ?_, ?_⟩
        all_goals
          obtain ⟨_, rfl⟩ := addComponent_eq_ok_iff.mp created
        · exact id
        · rfl
    | _ => exact refl memory
  cases offline : memory.isOffline with
  | true =>
      rw [respond_of_offline offline]
      exact refl memory
  | false =>
      rw [respond_of_online offline]
      exact answer

/-- Whatever a program asks of a store, the store keeps everything.
-/
theorem run {α : Type} (program : Protocol α) (memory : Memory)
    : Keeps memory (program.run Memory.respond memory).2 :=
  program.run_preserves (fun between query kept => kept.trans (respond between query))
    (refl memory)

/-- What a program leaves behind keeps everything.
-/
theorem of_run {α : Type} {program : Protocol α} {result : α}
    (ended : program.run Memory.respond memory = (result, after))
    : Keeps memory after := by
  have kept := run program memory
  rwa [ended] at kept

/-- A store that can be reached can be reached later on.
-/
theorem online (kept : Keeps before after) (online : before.isOffline = false)
    : after.isOffline = false :=
  kept.isOffline.trans online

end Keeps

end Tablewright.Store
