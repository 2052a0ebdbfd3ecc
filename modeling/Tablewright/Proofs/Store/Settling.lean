import Tablewright.Proofs.Store.Identifiers

/-! Settled stores: all tables are in sight, and every id belongs to one table. Stores that are
set up by hand are settled, and what a settled store creates leaves it settled.
-/

namespace Tablewright.Store

namespace Memory

/-- A store that can be reached, that shows all its tables, in which every table has an id of
its own, and which has given out all ids that it knows.
-/
structure Settled (memory : Memory) : Prop where
  online : memory.isOffline = false
  visible
    : ∀ {table record}, memory.tables.get? table = some record → record.hiddenFrom = 0
  distinct
    : ∀ {table other record another},
        memory.tables.get? table = some record
        → memory.tables.get? other = some another
        → record.id = another.id
        → table = other
  given
    : ∀ {table record},
        memory.tables.get? table = some record
        → ∃ n ≤ memory.lastId, record.id = idOf n
  registered : ∀ pair ∈ memory.components, ∃ n ≤ memory.lastId, pair.2 = idOf n

/-- A store that is set up by hand: from the empty one by adding publishers, solutions and tables,
refusing names, hiding new tables from some checks, and taking it offline.
-/
inductive Built : Memory → Prop
  | empty : Built {}
  | publisher {memory : Memory} (namePrefix id : String) (built : Built memory)
    : Built (memory.withPublisher namePrefix id)
  | solution {memory : Memory} (name : String) (built : Built memory)
    : Built (memory.withSolution name)
  | table {memory : Memory} (name : String) (columns : List String) (built : Built memory)
    : Built (memory.withTable name columns)
  | rejection {memory : Memory} (name : String) (status : Nat) (message : String)
    (built : Built memory)
    : Built (memory.rejecting name status message)
  | delay {memory : Memory} (checks : Nat) (built : Built memory)
    : Built { memory with delay := checks }
  | offline {memory : Memory} (built : Built memory) : Built { memory with isOffline := true }

/-- Refuses nothing any more.
-/
def accepting (memory : Memory) : Memory :=
  { memory with rejections := .empty }

variable {memory changed : Memory} {table column name solution id primary lookup : String}
variable {relationship : Relationship} {record old : TableRecord}

/-- The next id of a settled store is new.
-/
theorem Settled.fresh (settled : memory.Settled) (solution : String)
    : (solution, idOf (memory.lastId + 1)) ∉ memory.components := by
  intro known
  obtain ⟨n, earlier, same⟩ := settled.registered _ known
  have equal : memory.lastId + 1 = n := idOf_injective same
  omega

/-- The tables of a settled store have ids of their own.
-/
theorem Settled.identified (settled : memory.Settled) : memory.Identified :=
  ⟨settled.given, settled.distinct⟩

/-- A settled store stays so with a further table in sight, under a new id.
-/
theorem Settled.withTable (settled : memory.Settled) (name : String) (columns : List String)
    : (memory.withTable name columns).Settled := by
  have identified : (memory.withTable name columns).Identified :=
    settled.identified.addTable name columns 0
  refine ⟨settled.online, ?_, identified.distinct, identified.given, ?_⟩
  · intro other record found
    rcases Index.get?_insert_eq_some_iff.mp found with ⟨_, rfl⟩ | ⟨_, before⟩
    · rfl
    · exact settled.visible before
  · intro pair known
    obtain ⟨n, earlier, given⟩ := settled.registered pair known
    exact ⟨n, Nat.le_succ_of_le earlier, given⟩

/-- A settled store stays so when a record keeps its id and stays in sight.
-/
theorem Settled.setRecord (settled : memory.Settled)
    (found : memory.tables.get? table = some old) (sameId : record.id = old.id)
    (visible : record.hiddenFrom = old.hiddenFrom)
    : (memory.setRecord table record).Settled := by
  have identified := settled.identified.setRecord record found sameId
  refine ⟨settled.online, ?_, identified.distinct, identified.given, settled.registered⟩
  intro other current there
  rcases Index.get?_insert_eq_some_iff.mp there with ⟨rfl, rfl⟩ | ⟨_, before⟩
  · exact visible.trans (settled.visible found)
  · exact settled.visible before

/-- A store has the same whatever it refuses.
-/
@[simp]
theorem holds_accepting (memory : Memory) (holding : Holding)
    : memory.accepting.holds holding = memory.holds holding := by
  cases holding with
  | _ => rfl

/-- A store that accepts everything refuses no name.
-/
@[simp]
theorem rejections_accepting (memory : Memory) (name : String)
    : memory.accepting.rejections.get? name = none :=
  Index.get?_empty name

/-- A settled store stays so when it accepts everything.
-/
theorem Settled.accepting (settled : memory.Settled) : memory.accepting.Settled :=
  ⟨settled.online, settled.visible, settled.distinct, settled.given, settled.registered⟩

/-- A store that was set up by hand has no components, and it is settled if it can be reached.
Witness: induction on how it was set up.
-/
theorem Built.settled (built : Built memory)
    : memory.components = [] ∧ (memory.isOffline = false → memory.Settled) := by
  induction built with
  | empty =>
      have none (table : String) : ({} : Memory).tables.get? table = none := Index.get?_empty table
      refine ⟨rfl, fun online => ⟨online, ?_, ?_, ?_, List.forall_mem_nil _⟩⟩
      all_goals simp [none]
  | publisher namePrefix id built ih =>
      refine ⟨ih.1, fun online => ?_⟩
      have settled := ih.2 online
      exact ⟨online, settled.visible, settled.distinct, settled.given, settled.registered⟩
  | solution name built ih =>
      refine ⟨ih.1, fun online => ?_⟩
      have settled := ih.2 online
      exact ⟨online, settled.visible, settled.distinct, settled.given, settled.registered⟩
  | table name columns built ih => exact ⟨ih.1, fun online => (ih.2 online).withTable name columns⟩
  | rejection name status message built ih =>
      refine ⟨ih.1, fun online => ?_⟩
      have settled := ih.2 online
      exact ⟨online, settled.visible, settled.distinct, settled.given, settled.registered⟩
  | delay checks built ih =>
      refine ⟨ih.1, fun online => ?_⟩
      have settled := ih.2 online
      exact ⟨online, settled.visible, settled.distinct, settled.given, settled.registered⟩
  | offline built ih => exact ⟨ih.1, fun online => Bool.noConfusion online⟩

-----------------------------------------------------------------------------------------
-- Gains
-----------------------------------------------------------------------------------------

/-- A store has become a settled one that has some things besides what it had before, and treats
calls as before.
-/
structure Gains (before after : Memory) (gained : List Holding) : Prop where
  settled : after.Settled
  holds
    : ∀ holding, after.holds holding = true ↔ before.holds holding = true ∨ holding ∈ gained
  publishers : after.publishers = before.publishers
  rejections : after.rejections = before.rejections
  delay : after.delay = before.delay

namespace Gains

variable {before after last : Memory} {gained others : List Holding}

/-- A settled store to which nothing happens gains nothing.
-/
theorem refl (settled : memory.Settled) : Gains memory memory [] :=
  ⟨settled, by simp, rfl, rfl, rfl⟩

/-- What is gained first is gained with what is gained afterwards.
-/
theorem trans (first : Gains before after gained) (second : Gains after last others)
    : Gains before last (gained ++ others) := by
  refine ⟨second.settled, fun holding => ?_, second.publishers.trans first.publishers,
    second.rejections.trans first.rejections, second.delay.trans first.delay⟩
  rw [second.holds, first.holds, List.mem_append, or_assoc]

/-- A settled store gains a solution that it creates.
-/
theorem createSolution (settled : memory.Settled)
    (created : memory.perform (createSolution name) = (.ok (), changed))
    : Gains memory changed [.solution name] := by
  have holds (holding : Holding) : changed.holds holding = true ↔ _ := holds_createSolution created
  obtain ⟨_, rfl⟩ := createSolution_eq_ok_iff.mp created
  refine ⟨⟨settled.online, settled.visible, settled.distinct, settled.given,
    settled.registered⟩, ?_, rfl, rfl, rfl⟩
  intro holding
  rw [holds, List.mem_singleton]

/-- A settled store gains a table that is added in sight, with its first column.
-/
theorem withTable (settled : memory.Settled) (absent : memory.tables.get? table = none)
    (creation : Creation)
    : Gains memory ((memory.withTable table [primary]).note creation)
        [.table table, .column table primary] := by
  have shown := settled.withTable table [primary]
  refine ⟨⟨shown.online, shown.visible, shown.distinct, shown.given, shown.registered⟩, ?_,
    rfl, rfl, rfl⟩
  intro holding
  rw [holds_note, Memory.withTable, holds_addTable absent]
  simp [settled.fresh]

/-- A settled store gains a column that it creates.
-/
theorem createColumn (settled : memory.Settled)
    (created : memory.perform (createColumn table column) = (.ok (), changed))
    : Gains memory changed [.column table column] := by
  have holds (holding : Holding) : changed.holds holding = true ↔ _ := holds_createColumn created
  obtain ⟨_, record, found, _, rfl⟩ := createColumn_eq_ok_iff.mp created
  have kept : (memory.setRecord table (record.withColumn column)).Settled :=
    settled.setRecord found rfl rfl
  refine ⟨⟨kept.online, kept.visible, kept.distinct, kept.given, kept.registered⟩, ?_,
    rfl, rfl, rfl⟩
  intro holding
  rw [holds, List.mem_singleton]

/-- A settled store gains a relationship that it creates, with its lookup.
-/
theorem createRelationship (settled : memory.Settled)
    (created : memory.perform (createRelationship relationship lookup) = (.ok (), changed))
    : Gains memory changed
        [.relationship relationship.name, .column relationship.referencingTable lookup] := by
  have holds (holding : Holding) : changed.holds holding = true ↔ _ :=
    holds_createRelationship created
  obtain ⟨_, _, record, found, rfl⟩ := createRelationship_eq_ok_iff.mp created
  have kept : (memory.setRecord relationship.referencingTable (record.withColumn lookup)).Settled :=
    settled.setRecord found rfl rfl
  refine ⟨⟨kept.online, kept.visible, kept.distinct, kept.given, kept.registered⟩, ?_,
    rfl, rfl, rfl⟩
  intro holding
  rw [holds, List.mem_cons, List.mem_singleton]

/-- A settled store gains the component of the one table whose id is added.
-/
theorem addComponent (settled : memory.Settled)
    (found : memory.tables.get? table = some record)
    (created : memory.perform (addComponent solution record.id) = (.ok (), changed))
    : Gains memory changed [.component solution table] := by
  have holds (holding : Holding) : changed.holds holding = true ↔ _ := holds_addComponent created
  obtain ⟨_, rfl⟩ := addComponent_eq_ok_iff.mp created
  refine ⟨⟨settled.online, settled.visible, settled.distinct, settled.given, ?_⟩, ?_,
    rfl, rfl, rfl⟩
  · intro pair known
    rcases mem_withComponent_iff.mp known with before | rfl
    · exact settled.registered pair before
    · exact settled.given found
  · intro holding
    rw [holds, List.mem_singleton]
    refine or_congr_right ⟨?_, ?_⟩
    · intro waiting
      obtain ⟨other, another, rfl, there, same⟩ := waiting
      rw [settled.distinct there found same]
    · rintro rfl
      exact ⟨table, record, rfl, found, rfl⟩

end Gains

end Memory

end Tablewright.Store
