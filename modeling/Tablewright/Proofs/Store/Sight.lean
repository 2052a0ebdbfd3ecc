import Tablewright.Proofs.Store.Keeping

/-! Sight of a table: for how many more checks it is out of sight. Only checks for the table
itself and attempts to create it change that.
-/

namespace Tablewright.Store

/-- The calls that can change for how long a table is out of sight.
-/
def Call.Touches (table : String) : Call → Prop
  | .tableExists name => name = table
  | .createTable entity _ => entity.logicalName = table
  | _ => False

namespace Memory

/-- The number of checks that a table is still hidden from, if the store has the table.
-/
def hiddenFrom? (memory : Memory) (table : String) : Option Nat :=
  (memory.tables.get? table).map (·.hiddenFrom)

/-- The refusal to make a table that the store has.
-/
def alreadyExists (table : String) : StoreError :=
  .remote 400 ("An entity with the name " ++ table ++ " already exists")

variable {memory changed : Memory} {table name : String} {record : TableRecord}
variable {query : Call}

-----------------------------------------------------------------------------------------
-- What calls change
-----------------------------------------------------------------------------------------

/-- What becomes of a store that is asked something: it stays as it is, a table comes nearer to
being seen, or something is created.
-/
inductive Becomes (memory : Memory) : Call → Memory → Prop
  | same (query : Call) : Becomes memory query memory
  | nearer {table : String} {record : TableRecord}
    (found : memory.tables.get? table = some record)
    : Becomes memory (.tableExists table)
        (memory.setRecord table { record with hiddenFrom := record.hiddenFrom - 1 })
  | solution (solution : SolutionSettings) (publisher : String)
    : Becomes memory (.createSolution solution publisher)
        ((memory.withSolution solution.uniqueName).note (.solution solution.uniqueName))
  | table (entity : Entity) (primary : Attribute)
    : Becomes memory (.createTable entity primary)
        ((memory.addTable entity.logicalName [primary.logicalName] memory.delay).note
          (.table entity.logicalName))
  | column {table : String} {attr : Attribute} {record : TableRecord}
    (found : memory.tables.get? table = some record)
    : Becomes memory (.createColumn table attr)
        ((memory.setRecord table (record.withColumn attr.logicalName)).note
          (.column table attr.logicalName))
  | relationship {link : Relationship} {lookup : Attribute} {record : TableRecord}
    (found : memory.tables.get? link.referencingTable = some record)
    : Becomes memory (.createRelationship link lookup)
        (note (.relationship link.name)
          ((memory.setRecord link.referencingTable
            (record.withColumn lookup.logicalName)).withRelationship link.name))
  | component (solution id : String)
    : Becomes memory (.addComponent solution id)
        ((memory.withComponent solution id).note (.component id))

/-- A check leaves the store as it is or brings the table nearer.
-/
theorem checkTable_cases (memory : Memory) (table : String)
    : (memory.checkTable table).2 = memory
      ∨ ∃ record, memory.tables.get? table = some record
          ∧ (memory.checkTable table).2
            = memory.setRecord table { record with hiddenFrom := record.hiddenFrom - 1 } := by
  rw [checkTable]
  split
  · exact .inl rfl
  · next record found =>
    split
    · exact .inl rfl
    · exact .inr ⟨record, found, rfl⟩

/-- To try to create something leaves the store as it is or does what success does.
-/
theorem Becomes.perform {deed : Deed Unit} (careful : memory.Careful deed)
    (success : ∀ {changed}, memory.perform deed = (.ok (), changed) → Becomes memory query changed)
    : Becomes memory query (memory.perform deed).2 := by
  cases done : memory.perform deed with
  | mk result changed =>
      cases result with
      | error cause => exact careful cause changed done ▸ .same query
      | ok => exact success done

/-- Whatever a store is asked, it becomes one of these.
-/
theorem becomes_respond (memory : Memory) (query : Call)
    : Becomes memory query (memory.respond query).2 := by
  cases offline : memory.isOffline with
  | true =>
      rw [respond_of_offline offline]
      exact .same query
  | false =>
      rw [respond_of_online offline]
      cases query with
      | tableExists table =>
          change Becomes memory _ (memory.checkTable table).2
          rcases memory.checkTable_cases table with same | ⟨record, found, nearer⟩
          · rw [same]
            exact .same _
          · rw [nearer]
            exact .nearer found
      | createSolution solution publisher =>
          refine .perform careful_createSolution fun created => ?_
          obtain ⟨_, rfl⟩ := createSolution_eq_ok_iff.mp created
          exact .solution solution publisher
      | createTable entity primary =>
          refine .perform careful_createTable fun created => ?_
          obtain ⟨_, _, rfl⟩ := createTable_eq_ok_iff.mp created
          exact .table entity primary
      | createColumn table attr =>
          refine .perform careful_createColumn fun created => ?_
          obtain ⟨_, _, found, _, rfl⟩ := createColumn_eq_ok_iff.mp created
          exact .column found
      | createRelationship link lookup =>
          refine .perform careful_createRelationship fun created => ?_
          obtain ⟨_, _, _, found, rfl⟩ := createRelationship_eq_ok_iff.mp created
          exact .relationship found
      | addComponent solution id =>
          refine .perform careful_addComponent fun created => ?_
          obtain ⟨_, rfl⟩ := addComponent_eq_ok_iff.mp created
          exact .component solution id
      | _ => exact .same _

-----------------------------------------------------------------------------------------
-- Checks and creations of the table
-----------------------------------------------------------------------------------------

/-- A table whose record is set is hidden as that says, and all others are as before.
-/
theorem hiddenFrom?_setRecord
    : (memory.setRecord name record).hiddenFrom? table
      = if table = name then some record.hiddenFrom else memory.hiddenFrom? table := by
  rw [hiddenFrom?, setRecord, Index.get?_insert]
  split
  · rfl
  · rfl

/-- A record that is hidden as the one before hides no table any more or less.
-/
theorem hiddenFrom?_setRecord_of_same {old : TableRecord}
    (found : memory.tables.get? name = some old) (same : record.hiddenFrom = old.hiddenFrom)
    : (memory.setRecord name record).hiddenFrom? table = memory.hiddenFrom? table := by
  rw [hiddenFrom?_setRecord]
  split
  · next equal => rw [equal, hiddenFrom?, found, same, Option.map_some]
  · rfl

/-- A check finds a table that is hidden no more, and brings any other one nearer.
-/
theorem checkTable_hiddenFrom? (memory : Memory) (table : String)
    : (memory.checkTable table).1 = (memory.hiddenFrom? table == some 0)
      ∧ (memory.checkTable table).2.hiddenFrom? table
        = (memory.hiddenFrom? table).map (· - 1) := by
  rw [checkTable, hiddenFrom?]
  cases found : memory.tables.get? table with
  | none => simp [hiddenFrom?, found]
  | some record =>
      dsimp only
      split
      · next seen => simp [hiddenFrom?, found, seen]
      · next hidden => simp [hiddenFrom?_setRecord, hidden]

/-- A store that refuses no names makes a table unless it has it, and hides it from the checks
that it hides new tables from.
-/
theorem createTable_hiddenFrom? (primary : String)
    (accepts : memory.rejections.get? table = none)
    : match memory.hiddenFrom? table with
      | none =>
        ∃ changed,
          memory.perform (createTable table primary) = (.ok (), changed)
          ∧ changed.hiddenFrom? table = some memory.delay
      | some _ =>
        memory.perform (createTable table primary) = (.error (alreadyExists table), memory) := by
  rw [hiddenFrom?]
  cases found : memory.tables.get? table with
  | none =>
      refine ⟨_, createTable_eq_ok_iff.mpr ⟨accepts, found, rfl⟩, ?_⟩
      change ((memory.tables.insert table _).get? table).map _ = _
      rw [Index.get?_insert_self, Option.map_some]
  | some record =>
      have there : memory.tables.contains table = true := by rw [Index.contains, found]; rfl
      simp only [Option.map_some, createTable, perform_bind, perform_checkName, accepts,
        Option.elim, perform_get, there, if_true, perform_throw, alreadyExists]

-----------------------------------------------------------------------------------------
-- Calls that do not touch the table
-----------------------------------------------------------------------------------------

/-- A call that does not touch a table hides it from as many checks as before.
-/
theorem hiddenFrom?_respond (apart : ¬ query.Touches table)
    : (memory.respond query).2.hiddenFrom? table = memory.hiddenFrom? table := by
  have becomes := becomes_respond memory query
  generalize (memory.respond query).2 = changed at becomes ⊢
  cases becomes with
  | nearer found => rw [hiddenFrom?_setRecord, if_neg fun same => apart same.symm]
  | table entity primary =>
      exact congrArg (Option.map _) (Index.get?_insert_of_ne _ _ fun same => apart same.symm)
  | column found => exact hiddenFrom?_setRecord_of_same found rfl
  | relationship found => exact hiddenFrom?_setRecord_of_same found rfl
  | _ => rfl

/-- A program that does not touch a table hides it from as many checks as before.
-/
theorem hiddenFrom?_of_run {α : Type} {program : Protocol α} {result : α}
    (apart : program.Asks fun query => ¬ query.Touches table)
    (ended : program.run respond memory = (result, changed))
    : changed.hiddenFrom? table = memory.hiddenFrom? table := by
  induction program generalizing memory with
  | done found =>
      cases ended
      rfl
  | ask query next ih => exact (ih _ (apart.2 _) ended).trans (hiddenFrom?_respond apart.1)

-----------------------------------------------------------------------------------------
-- The terms of a store
-----------------------------------------------------------------------------------------

/-- Two stores deal with calls on the same terms: they can be reached alike, have the same
publishers, refuse the same names and hide new tables from as many checks.
-/
structure SameTerms (before after : Memory) : Prop where
  isOffline : after.isOffline = before.isOffline
  publishers : after.publishers = before.publishers
  rejections : after.rejections = before.rejections
  delay : after.delay = before.delay

namespace SameTerms

variable {before after last : Memory}

/-- A store has its own terms.
-/
theorem refl (memory : Memory) : SameTerms memory memory :=
  ⟨rfl, rfl, rfl, rfl⟩

/-- Terms that stay the same twice stay the same.
-/
theorem trans (first : SameTerms before after) (second : SameTerms after last)
    : SameTerms before last :=
  ⟨second.isOffline.trans first.isOffline, second.publishers.trans first.publishers,
    second.rejections.trans first.rejections, second.delay.trans first.delay⟩

/-- Whatever a store is asked, its terms stay the same.
-/
theorem respond (memory : Memory) (query : Call) : SameTerms memory (memory.respond query).2 := by
  have becomes := becomes_respond memory query
  generalize (memory.respond query).2 = changed at becomes ⊢
  cases becomes with
  | _ => exact ⟨rfl, rfl, rfl, rfl⟩

/-- Whatever a program asks of a store, the terms of the store stay the same.
-/
theorem of_run {α : Type} {program : Protocol α} {result : α}
    (ended : program.run Memory.respond memory = (result, after))
    : SameTerms memory after := by
  have same : SameTerms memory (program.run Memory.respond memory).2 :=
    program.run_preserves (fun between query same => same.trans (respond between query))
      (refl memory)
  rwa [ended] at same

/-- A store that can be reached can be reached later on.
-/
theorem online (same : SameTerms before after) (online : before.isOffline = false)
    : after.isOffline = false :=
  same.isOffline.trans online

/-- A name that is not refused is not refused later on.
-/
theorem accepts (same : SameTerms before after) {name : String}
    (accepts : before.rejections.get? name = none)
    : after.rejections.get? name = none := by
  rw [same.rejections, accepts]

end SameTerms

end Memory

end Tablewright.Store
