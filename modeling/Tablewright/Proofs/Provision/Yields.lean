import Tablewright.Proofs.Provision.Effects
import Tablewright.Proofs.Provision.Turns
import Tablewright.Proofs.Store.Settling

/-! What the parts of a run yield on a settled store: the outcome can be told from what the
store has and what it refuses, and the store gains exactly what is created.
-/

namespace Tablewright.Provision

open Store (Answer Call Creation Holding Memory Protocol call)
open Store.Memory (Gains Settled)

variable {compiled : CompiledSchema} {settings : Settings} {report : List ReportItem}
variable {memory : Memory} {outcome : Outcome} {task : Task} {gained : List Holding}

/-- What becomes of something that may be there and may be refused.
-/
def judge (isThere : Bool) (refusal : Option StoreError) : Outcome :=
  if isThere then
    .skipped
  else
    match refusal with
    | some cause => .failed cause
    | none => .created

/-- What is there or is not refused is present in the end.
-/
theorem isPresent_judge (isThere : Bool) (refusal : Option StoreError)
    : (judge isThere refusal).isPresent = (isThere || refusal.isNone) := by
  cases isThere with
  | true => rfl
  | false =>
      cases refusal with
      | _ => rfl

/-- What is created is neither there nor refused.
-/
theorem judge_eq_created_iff {isThere : Bool} {refusal : Option StoreError}
    : judge isThere refusal = .created ↔ isThere = false ∧ refusal = none := by
  cases isThere with
  | true => simp [judge]
  | false =>
      cases refusal with
      | _ => simp [judge]

/-- What is skipped is there.
-/
theorem judge_eq_skipped_iff {isThere : Bool} {refusal : Option StoreError}
    : judge isThere refusal = .skipped ↔ isThere = true := by
  cases isThere with
  | true => simp [judge]
  | false =>
      cases refusal with
      | _ => simp [judge]

/-- On a store a program comes to an outcome, and the store gains something if that was created.
-/
def Yields (program : Protocol Outcome) (memory : Memory) (outcome : Outcome)
    (gained : List Holding)
    : Prop :=
  ∃ after,
    program.run Memory.respond memory = (outcome, after)
    ∧ Gains memory after (if outcome = .created then gained else [])

/-- A program that is over without creating anything yields its outcome.
-/
theorem yields_pure (settled : memory.Settled) (uncreated : outcome ≠ .created)
    : Yields (pure outcome) memory outcome gained := by
  refine ⟨memory, rfl, ?_⟩
  rw [if_neg uncreated]
  exact .refl settled

/-- To make something unless it is there yields what becomes of it, when the check does not
change the store and making it does what the store's refusal says.
-/
theorem yields_ensure {isThere : Protocol (Except StoreError Bool)}
    {make : Protocol (Except StoreError Unit)} {there : Bool} {refusal : Option StoreError}
    (settled : memory.Settled)
    (looked : isThere.run Memory.respond memory = (.ok there, memory))
    (refused
      : ∀ cause,
          refusal = some cause → make.run Memory.respond memory = (.error cause, memory))
    (made
      : there = false
        → refusal = none
        → ∃ after, make.run Memory.respond memory = (.ok (), after) ∧ Gains memory after gained)
    : Yields (ensure isThere make) memory (judge there refusal) gained := by
  rw [Yields, run_ensure, looked]
  cases there with
  | true => exact ⟨memory, rfl, .refl settled⟩
  | false =>
      cases refusal with
      | some cause =>
          refine ⟨memory, ?_, .refl settled⟩
          simp only [refused cause rfl]
          rfl
      | none =>
          obtain ⟨after, making, gains⟩ := made rfl rfl
          refine ⟨after, ?_, gains⟩
          simp only [making]
          rfl

-----------------------------------------------------------------------------------------
-- Tables
-----------------------------------------------------------------------------------------

/-- In a settled store a check for a table tells whether the store has it, and changes nothing.
-/
theorem checkTable_of_settled (settled : memory.Settled) (table : String)
    : memory.checkTable table = (memory.holds (.table table), memory) := by
  rw [Memory.checkTable, Memory.holds, Index.contains]
  cases found : memory.tables.get? table with
  | none => rfl
  | some record => simp [settled.visible found]

/-- A new table comes in sight when it is hidden from fewer checks than there are attempts left.
Witness: induction on the attempts; each of them uses up one of the checks.
-/
theorem run_awaitTable_of_hidden {table : String} {columns : List String}
    {interval attempts left hiddenFrom : Nat} (online : memory.isOffline = false)
    (creation : Creation) (fewer : hiddenFrom < left)
    : (awaitTable table interval attempts left).run Memory.respond
        ((memory.addTable table columns hiddenFrom).note creation)
      = (.ok (), (memory.withTable table columns).note creation) := by
  induction left generalizing hiddenFrom with
  | zero => cases fewer
  | succ left ih =>
      have found : ((memory.addTable table columns hiddenFrom).note creation).tables.get? table
          = some ⟨Memory.idOf (memory.lastId + 1), Memory.nameSet columns, hiddenFrom⟩ :=
        Index.get?_insert_self _ _ _
      have reachable : ((memory.addTable table columns hiddenFrom).note creation).isOffline
          = false :=
        online
      rw [awaitTable, run_call_bind reachable]
      cases hiddenFrom with
      | zero =>
          simp only [Memory.answer, Memory.checkTable, found, if_true]
          rfl
      | succ hiddenFrom =>
          have nearer : ((memory.addTable table columns (hiddenFrom + 1)).note creation).setRecord
              table ⟨Memory.idOf (memory.lastId + 1), Memory.nameSet columns, hiddenFrom⟩
              = (memory.addTable table columns hiddenFrom).note creation := by
            simp only [Memory.setRecord, Memory.note, Memory.addTable, Index.insert_insert]
          have onward : left ≠ 0 := by omega
          simp only [Memory.answer, Memory.checkTable, found, Nat.succ_ne_zero, if_false,
            Nat.add_sub_cancel, nearer, onward]
          rw [Dialogue.run_bind]
          exact ih (Nat.lt_of_succ_lt_succ fewer)

/-- A table is skipped, refused, or created with its primary name, if new tables come in sight
in time.
-/
theorem yields_ensureTable {entity : Entity} (settled : memory.Settled)
    (prompt : memory.delay < max settings.provision.visibilityAttempts 1)
    : Yields (ensureTable settings.provision entity) memory
        (judge (memory.holds (.table entity.logicalName))
          (memory.rejections.get? entity.logicalName))
        [.table entity.logicalName,
          .column entity.logicalName entity.creationPrimary.logicalName] := by
  refine yields_ensure settled ?_ ?_ ?_
  · rw [run_call settled.online, Memory.answer, checkTable_of_settled settled]
  · intro cause refused
    have failed : memory.perform
        (Memory.createTable entity.logicalName entity.creationPrimary.logicalName)
        = (.error cause, memory) :=
      Store.Memory.perform_checkName_bind refused
    rw [createTable, run_call_bind settled.online]
    simp only [Memory.answer, failed]
    rfl
  · intro missing unrefused
    have absent : memory.tables.get? entity.logicalName = none := by
      simpa [Memory.holds, Index.contains] using missing
    have created
        : memory.perform
            (Memory.createTable entity.logicalName entity.creationPrimary.logicalName)
          = (.ok (), _) :=
      Store.Memory.createTable_eq_ok_iff.mpr ⟨unrefused, absent, rfl⟩
    refine ⟨_, ?_, Gains.withTable settled absent (.table entity.logicalName)⟩
    rw [createTable, run_call_bind settled.online]
    simp only [Memory.answer, created]
    exact run_awaitTable_of_hidden settled.online _ prompt

-----------------------------------------------------------------------------------------
-- Columns, relationships and components
-----------------------------------------------------------------------------------------

/-- A column of a table that the store has is skipped, refused or created.
-/
theorem yields_column {table : String} {attr : Attribute} (settled : memory.Settled)
    (there : memory.holds (.table table) = true)
    : Yields
        (ensure (call (.columnExists table attr.logicalName)) (call (.createColumn table attr)))
        memory
        (judge (memory.holds (.column table attr.logicalName))
          (memory.rejections.get? attr.logicalName))
        [.column table attr.logicalName] := by
  refine yields_ensure settled (run_call settled.online _) ?_ ?_
  · intro cause refused
    have failed : memory.perform (Memory.createColumn table attr.logicalName)
        = (.error cause, memory) :=
      Store.Memory.perform_checkName_bind refused
    rw [run_call settled.online, Memory.answer, failed]
  · intro missing unrefused
    obtain ⟨record, found⟩ := Store.Memory.holds_table_iff.mp there
    have absent : record.columns.contains attr.logicalName = false := by
      simpa [Memory.holds, Memory.hasColumn, found] using missing
    have created := Store.Memory.createColumn_eq_ok_iff.mpr
      ⟨unrefused, record, found, absent, rfl⟩
    refine ⟨_, ?_, Gains.createColumn settled created⟩
    rw [run_call settled.online, Memory.answer, created]

/-- A relationship between tables that the store has is skipped, refused or created.
-/
theorem yields_relationship {link : Relationship} {lookup : Attribute}
    (settled : memory.Settled)
    (referenced : memory.holds (.table link.referencedTable) = true)
    (referencing : memory.holds (.table link.referencingTable) = true)
    (named : lookup.logicalName = link.referencingAttribute)
    : Yields
        (ensure (call (.columnExists link.referencingTable link.referencingAttribute))
          (call (.createRelationship link lookup)))
        memory
        (judge (memory.holds (.column link.referencingTable link.referencingAttribute))
          (memory.rejections.get? link.name))
        [.relationship link.name, .column link.referencingTable link.referencingAttribute] := by
  rw [← named]
  refine yields_ensure settled (run_call settled.online _) ?_ ?_
  · intro cause refused
    have failed : memory.perform (Memory.createRelationship link lookup.logicalName)
        = (.error cause, memory) :=
      Store.Memory.perform_checkName_bind refused
    rw [run_call settled.online, Memory.answer, failed]
  · intro _ unrefused
    obtain ⟨record, found⟩ := Store.Memory.holds_table_iff.mp referencing
    have created : memory.perform (Memory.createRelationship link lookup.logicalName)
        = (.ok (), _) :=
      Store.Memory.createRelationship_eq_ok_iff.mpr
        ⟨unrefused, Store.Memory.holds_table_iff.mp referenced, record, found, rfl⟩
    refine ⟨_, ?_, Gains.createRelationship settled created⟩
    rw [run_call settled.online, Memory.answer, created]

/-- A component of a solution and a table that the store has is skipped or created.
-/
theorem yields_component {solution table : String} (settled : memory.Settled)
    (ready : memory.holds (.solution solution) = true)
    (there : memory.holds (.table table) = true)
    : Yields (addTable solution table) memory
        (judge (memory.holds (.component solution table)) none) [.component solution table] := by
  obtain ⟨record, found⟩ := Store.Memory.holds_table_iff.mp there
  have registered : memory.holds (.component solution table)
      = decide ((solution, record.id) ∈ memory.components) := by
    rw [Bool.eq_iff_iff, Store.Memory.holds_component_iff, decide_eq_true_eq]
    simp [found]
  have asks : (addTable solution table).run Memory.respond memory
      = (ensure (call (.solutionContains solution record.id))
          (call (.addComponent solution record.id))).run Memory.respond memory := by
    rw [addTable, run_call_bind settled.online]
    simp only [Memory.answer, found, Option.map_some]
  rw [Yields, asks, registered]
  refine yields_ensure settled (run_call settled.online _) (fun _ refused => by cases refused) ?_
  intro _ _
  have created : memory.perform (Memory.addComponent solution record.id) = (.ok (), _) :=
    Store.Memory.addComponent_eq_ok_iff.mpr ⟨ready, rfl⟩
  refine ⟨_, ?_, Gains.addComponent settled found created⟩
  rw [run_call settled.online, Memory.answer, created]

end Tablewright.Provision
