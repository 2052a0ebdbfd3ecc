import Tablewright.Proofs.Store.Settling
import Tablewright.Proofs.Store.Sight

/-! Accounts of a store: what each answered call leaves behind, in its records and in its list of
creations, and what any sequence of calls leaves behind.
-/

namespace Tablewright.Store

/-- Something in the records of a store: a table with its id, and a component as it is registered.
-/
inductive Item
  | solution (name : String)
  | table (name id : String)
  | column (table name : String)
  | relationship (name : String)
  | component (solution id : String)
  deriving DecidableEq, Repr

/-- What the store notes when a call succeeds.
-/
def Call.creation? : Call → Option Creation
  | createSolution solution _ => some (.solution solution.uniqueName)
  | createTable entity _ => some (.table entity.logicalName)
  | createColumn table attr => some (.column table attr.logicalName)
  | createRelationship link _ => some (.relationship link.name)
  | addComponent _ id => some (.component id)
  | _ => none

/-- The number of ids that a successful call uses up.
-/
def Call.idsUsed : Call → Nat
  | createTable _ _ => 1
  | _ => 0

/-- A note is made of exactly the calls that make something.
-/
theorem Call.isSome_creation? (query : Call) : query.creation?.isSome = query.isCreate := by
  cases query with
  | _ => rfl

namespace Memory

/-- The records of a store have an item.
-/
def lists (memory : Memory) : Item → Prop
  | .solution name => memory.holds (.solution name) = true
  | .table name id => (memory.tables.get? name).map (·.id) = some id
  | .column table name => memory.holds (.column table name) = true
  | .relationship name => memory.holds (.relationship name) = true
  | .component solution id => (solution, id) ∈ memory.components

/-- What a successful call brings into the records: its own object, a table with its primary name,
and a relationship with its lookup.
-/
def products (memory : Memory) : Call → List Item
  | .createSolution solution _ => [.solution solution.uniqueName]
  | .createTable entity primary =>
    [.table entity.logicalName (idOf (memory.lastId + 1)),
      .column entity.logicalName primary.logicalName]
  | .createColumn table attr => [.column table attr.logicalName]
  | .createRelationship link lookup =>
    [.relationship link.name, .column link.referencingTable lookup.logicalName]
  | .addComponent solution id => [.component solution id]
  | _ => []

/-- The number of checks that a table is hidden from after a successful call: one less after a check
of it, and as many as the store says when it is new.
-/
def hiddenAfter (memory : Memory) (query : Call) (table : String) : Option Nat :=
  match query with
  | .tableExists name =>
    if table = name then (memory.hiddenFrom? table).map (· - 1) else memory.hiddenFrom? table
  | .createTable entity _ =>
    if table = entity.logicalName then some memory.delay else memory.hiddenFrom? table
  | _ => memory.hiddenFrom? table

/-- The accounts of a successful call: one note for what it makes, nothing but that in the records,
and everything else as it was.
-/
structure Accounts (before : Memory) (query : Call) (after : Memory) : Prop where
  creations : after.creations = before.creations ++ query.creation?.toList
  lists : ∀ item, after.lists item ↔ before.lists item ∨ item ∈ before.products query
  hiddenFrom? : ∀ table, after.hiddenFrom? table = before.hiddenAfter query table
  lastId : after.lastId = before.lastId + query.idsUsed
  terms : SameTerms before after

variable {memory before after changed : Memory} {query : Call}

-----------------------------------------------------------------------------------------
-- Accounts of creations
-----------------------------------------------------------------------------------------

/-- A record with the id of the one before leaves all ids as they are.
-/
theorem id_setRecord {table : String} {old : TableRecord} (record : TableRecord)
    (found : memory.tables.get? table = some old) (sameId : record.id = old.id) (name : String)
    : ((memory.setRecord table record).tables.get? name).map (·.id)
      = (memory.tables.get? name).map (·.id) := by
  rw [setRecord, Index.get?_insert]
  split
  · next same => rw [same, found, Option.map_some, Option.map_some, sameId]
  · rfl

namespace Accounts

/-- The accounts of a new solution.
-/
theorem createSolution {solution : SolutionSettings} {publisher : String}
    (created : memory.perform (createSolution solution.uniqueName) = (.ok (), changed))
    : Accounts memory (.createSolution solution publisher) changed := by
  have holds (holding : Holding) : changed.holds holding = true ↔ _ := holds_createSolution created
  obtain ⟨_, made⟩ := createSolution_eq_ok_iff.mp created
  have lists (item : Item)
      : changed.lists item ↔ memory.lists item ∨ item = .solution solution.uniqueName := by
    cases item with
    | solution | column | relationship => simp [Memory.lists, holds]
    | table | component => simp [Memory.lists, made, note, withSolution]
  subst made
  exact ⟨rfl, by simpa [products] using lists, fun _ => rfl, rfl, ⟨rfl, rfl, rfl, rfl⟩⟩

/-- The accounts of a new table: it is not there before.
-/
theorem createTable {entity : Entity} {primary : Attribute}
    (created : memory.perform (createTable entity.logicalName primary.logicalName) = (.ok (), changed))
    : Accounts memory (.createTable entity primary) changed := by
  have holds (holding : Holding) : changed.holds holding = true ↔ _ := holds_createTable created
  obtain ⟨_, absent, made⟩ := createTable_eq_ok_iff.mp created
  have found (name : String)
      : changed.tables.get? name
        = if name = entity.logicalName then
            some ⟨idOf (memory.lastId + 1), nameSet [primary.logicalName], memory.delay⟩
          else
            memory.tables.get? name := by
    rw [made]
    exact Index.get?_insert _ _ _ _
  have lists (item : Item)
      : changed.lists item
        ↔ memory.lists item ∨ item ∈ memory.products (.createTable entity primary) := by
    cases item with
    | solution | column | relationship => simp [Memory.lists, products, holds]
    | table name id =>
        by_cases same : name = entity.logicalName
        · simp [Memory.lists, products, found, same, absent, eq_comm]
        · simp [Memory.lists, products, found, same]
    | component => simp [Memory.lists, products, made, note, addTable]
  have hidden (name : String)
      : changed.hiddenFrom? name = memory.hiddenAfter (.createTable entity primary) name := by
    rw [Memory.hiddenFrom?, found, hiddenAfter]
    split
    · rfl
    · rfl
  subst made
  exact ⟨rfl, lists, hidden, rfl, ⟨rfl, rfl, rfl, rfl⟩⟩

/-- The accounts of a new column.
-/
theorem createColumn {table : String} {attr : Attribute}
    (created : memory.perform (createColumn table attr.logicalName) = (.ok (), changed))
    : Accounts memory (.createColumn table attr) changed := by
  have holds (holding : Holding) : changed.holds holding = true ↔ _ := holds_createColumn created
  obtain ⟨_, record, found, _, made⟩ := createColumn_eq_ok_iff.mp created
  have ids := id_setRecord (record.withColumn attr.logicalName) found rfl
  have lists (item : Item)
      : changed.lists item ↔ memory.lists item ∨ item = .column table attr.logicalName := by
    cases item with
    | solution | column | relationship => simp [Memory.lists, holds]
    | table => simp [Memory.lists, made, note, ids]
    | component => simp [Memory.lists, made, note, setRecord]
  subst made
  exact ⟨rfl, by simpa [products] using lists,
    fun _ => hiddenFrom?_setRecord_of_same found rfl, rfl, ⟨rfl, rfl, rfl, rfl⟩⟩

/-- The accounts of a new relationship.
-/
theorem createRelationship {link : Relationship} {lookup : Attribute}
    (created : memory.perform (createRelationship link lookup.logicalName) = (.ok (), changed))
    : Accounts memory (.createRelationship link lookup) changed := by
  have holds (holding : Holding) : changed.holds holding = true ↔ _ :=
    holds_createRelationship created
  obtain ⟨_, _, record, found, made⟩ := createRelationship_eq_ok_iff.mp created
  have ids := id_setRecord (record.withColumn lookup.logicalName) found rfl
  have lists (item : Item)
      : changed.lists item
        ↔ memory.lists item
          ∨ item = .relationship link.name
          ∨ item = .column link.referencingTable lookup.logicalName := by
    cases item with
    | solution | column | relationship => simp [Memory.lists, holds]
    | table => simp [Memory.lists, made, note, withRelationship, ids]
    | component => simp [Memory.lists, made, note, withRelationship, setRecord]
  subst made
  exact ⟨rfl, by simpa [products] using lists,
    fun _ => hiddenFrom?_setRecord_of_same found rfl, rfl, ⟨rfl, rfl, rfl, rfl⟩⟩

/-- The accounts of a new component. It may be registered already.
-/
theorem addComponent {solution id : String}
    (created : memory.perform (addComponent solution id) = (.ok (), changed))
    : Accounts memory (.addComponent solution id) changed := by
  obtain ⟨_, rfl⟩ := addComponent_eq_ok_iff.mp created
  refine ⟨rfl, fun item => ?_, fun _ => rfl, rfl, ⟨rfl, rfl, rfl, rfl⟩⟩
  cases item with
  | solution | column | relationship | table =>
      simp only [products, List.mem_singleton, reduceCtorEq, or_false]
      rfl
  | component other otherId =>
      simp only [products, List.mem_singleton, Item.component.injEq]
      exact mem_withComponent_iff.trans (by rw [Prod.mk.injEq]; rfl)

/-- The accounts of a check: the table that is looked for comes nearer.
-/
theorem tableExists (memory : Memory) (table : String)
    : Accounts memory (.tableExists table) (memory.checkTable table).2 := by
  have own := (checkTable_hiddenFrom? memory table).2
  have hidden {changed : Memory}
      (own : changed.hiddenFrom? table = (memory.hiddenFrom? table).map (· - 1))
      (others : ∀ name, name ≠ table → changed.hiddenFrom? name = memory.hiddenFrom? name)
      (name : String)
      : changed.hiddenFrom? name = memory.hiddenAfter (.tableExists table) name := by
    rw [hiddenAfter]
    split
    · next same => rw [same, own]
    · next different => exact others name different
  rcases memory.checkTable_cases table with same | ⟨record, found, nearer⟩
  · rw [same] at own ⊢
    exact ⟨by simp [Call.creation?], by simp [products], hidden own fun _ _ => rfl, rfl, .refl _⟩
  · rw [nearer] at own ⊢
    have holds (holding : Holding)
        : (memory.setRecord table { record with hiddenFrom := record.hiddenFrom - 1 }).holds holding
            = true
          ↔ memory.holds holding = true ∨ ∃ column ∈ [], holding = .column table column :=
      holds_setRecord found rfl fun _ => (or_iff_left List.not_mem_nil).symm
    have ids := id_setRecord { record with hiddenFrom := record.hiddenFrom - 1 } found rfl
    refine ⟨by simp [Call.creation?, setRecord], ?_, hidden own ?_, rfl, ⟨rfl, rfl, rfl, rfl⟩⟩
    · intro item
      cases item with
      | solution | column | relationship => simp [Memory.lists, products, holds]
      | table => simp [Memory.lists, products, ids]
      | component => simp [Memory.lists, products, setRecord]
    · intro name different
      rw [hiddenFrom?_setRecord, if_neg different]

/-- The accounts of a call that changes nothing.
-/
theorem unchanged (unnoted : query.creation? = none) (unused : query.idsUsed = 0)
    (unproductive : memory.products query = [])
    (unhidden : ∀ table, memory.hiddenAfter query table = memory.hiddenFrom? table)
    : Accounts memory query memory := by
  refine ⟨?_, fun item => ?_, fun table => (unhidden table).symm, ?_, .refl memory⟩
  · rw [unnoted, Option.toList_none, List.append_nil]
  · rw [unproductive, List.mem_nil_iff, or_false]
  · rw [unused, Nat.add_zero]

/-- One creation is noted for a call that makes something, and none for any other.
-/
theorem length_creations (accounts : Accounts before query after)
    : after.creations.length = before.creations.length + query.isCreate.toNat := by
  rw [accounts.creations, List.length_append, ← query.isSome_creation?]
  cases query.creation? with
  | _ => rfl

end Accounts

-----------------------------------------------------------------------------------------
-- Calls
-----------------------------------------------------------------------------------------

/-- A call that fails leaves the whole store as it is.
-/
theorem eq_of_respond_error {cause : StoreError}
    (failed : memory.respond query = (.error cause, changed))
    : changed = memory := by
  cases offline : memory.isOffline with
  | true =>
      rw [← respond_of_offline offline query, failed]
  | false =>
      rw [respond_of_online offline] at failed
      cases query with
      | createSolution => exact careful_createSolution cause changed failed
      | createTable => exact careful_createTable cause changed failed
      | createColumn => exact careful_createColumn cause changed failed
      | createRelationship => exact careful_createRelationship cause changed failed
      | addComponent => exact careful_addComponent cause changed failed
      | _ => cases congrArg Prod.fst failed

/-- A call that succeeds has its accounts.
-/
theorem accounts_of_respond_ok {result : Result query}
    (answered : memory.respond query = (.ok result, changed))
    : Accounts memory query changed := by
  have direct : memory.answer query = (.ok result, changed) := by
    cases offline : memory.isOffline with
    | true =>
        cases query with
        | pause => exact answered
        | _ => simp [respond, offline] at answered
    | false => rwa [respond_of_online offline] at answered
  cases query with
  | createSolution => exact .createSolution direct
  | createTable => exact .createTable direct
  | createColumn => exact .createColumn direct
  | createRelationship => exact .createRelationship direct
  | addComponent => exact .addComponent direct
  | tableExists table =>
      obtain rfl : (memory.checkTable table).2 = changed := congrArg Prod.snd direct
      exact .tableExists memory table
  | _ =>
      obtain rfl : memory = changed := congrArg Prod.snd direct
      exact .unchanged rfl rfl rfl fun _ => rfl

-----------------------------------------------------------------------------------------
-- Sequences of calls
-----------------------------------------------------------------------------------------

/-- The store after a sequence of calls.
-/
def afterCalls (memory : Memory) (calls : List Call) : Memory :=
  calls.foldl (fun memory query => (memory.respond query).2) memory

/-- What the successful ones of a sequence of calls make.
-/
def made (memory : Memory) : List Call → List Creation
  | [] => []
  | query :: rest =>
    (if (memory.respond query).1.isOk then query.creation?.toList else [])
      ++ made (memory.respond query).2 rest

/-- A store has become one with more in its records and more noted, which treats calls as before.
-/
structure Grows (before after : Memory) : Prop where
  creations : before.creations <+: after.creations
  lists : ∀ {item}, before.lists item → after.lists item
  terms : SameTerms before after

namespace Grows

/-- A store to which nothing happens has what it had.
-/
theorem refl (memory : Memory) : Grows memory memory :=
  ⟨List.prefix_rfl, id, .refl memory⟩

/-- What grows twice has grown.
-/
theorem trans {last : Memory} (first : Grows before after) (second : Grows after last)
    : Grows before last :=
  ⟨first.creations.trans second.creations, second.lists ∘ first.lists,
    first.terms.trans second.terms⟩

/-- Whatever a store is asked, nothing of it is removed.
-/
theorem respond (memory : Memory) (query : Call) : Grows memory (memory.respond query).2 := by
  cases answered : (memory.respond query).1 with
  | error cause =>
      have same : (memory.respond query).2 = memory :=
        eq_of_respond_error (Prod.ext answered rfl)
      rw [same]
      exact refl memory
  | ok result =>
      have accounts : Accounts memory query (memory.respond query).2 :=
        accounts_of_respond_ok (Prod.ext answered rfl)
      refine ⟨?_, fun had => (accounts.lists _).mpr (.inl had), accounts.terms⟩
      rw [accounts.creations]
      exact List.prefix_append _ _

/-- Whatever the calls of a sequence, nothing is removed.
-/
theorem afterCalls (memory : Memory) (calls : List Call)
    : Grows memory (memory.afterCalls calls) := by
  induction calls generalizing memory with
  | nil => exact refl memory
  | cons query rest ih => exact (respond memory query).trans (ih _)

end Grows

/-- Whatever a store is asked, its tables keep ids of their own.
-/
theorem Identified.respond (identified : memory.Identified) (query : Call)
    : (memory.respond query).2.Identified := by
  have becomes := becomes_respond memory query
  generalize (memory.respond query).2 = changed at becomes ⊢
  cases becomes with
  | nearer found => exact identified.setRecord _ found rfl
  | @column table attr record found =>
      have kept := identified.setRecord (record.withColumn attr.logicalName) found rfl
      exact ⟨kept.given, kept.distinct⟩
  | @relationship link lookup record found =>
      have kept := identified.setRecord (record.withColumn lookup.logicalName) found rfl
      exact ⟨kept.given, kept.distinct⟩
  | table entity primary =>
      have added := identified.addTable entity.logicalName [primary.logicalName] memory.delay
      exact ⟨added.given, added.distinct⟩
  | _ => exact ⟨identified.given, identified.distinct⟩

/-- Whatever the calls of a sequence, tables keep ids of their own.
-/
theorem Identified.afterCalls (identified : memory.Identified) (calls : List Call)
    : (memory.afterCalls calls).Identified := by
  induction calls generalizing memory with
  | nil => exact identified
  | cons query rest ih => exact ih (identified.respond query)

/-- The tables of a store that is set up by hand have ids of their own.
-/
theorem Built.identified (built : Built memory) : memory.Identified := by
  induction built with
  | empty => exact .of_no_tables Index.get?_empty
  | table name columns _ ih => exact ih.addTable name columns 0
  | _ => rename_i ih; exact ⟨ih.given, ih.distinct⟩

/-- A store that is set up by hand has made nothing.
-/
theorem Built.creations (built : Built memory) : memory.creations = [] := by
  induction built with
  | empty => rfl
  | _ => assumption

/-- What is noted after a sequence of calls is what was noted before and what the calls made.
-/
theorem creations_afterCalls (memory : Memory) (calls : List Call)
    : (memory.afterCalls calls).creations = memory.creations ++ memory.made calls := by
  induction calls generalizing memory with
  | nil => exact (List.append_nil _).symm
  | cons query rest ih =>
      rw [made, ← List.append_assoc, Memory.afterCalls, List.foldl_cons]
      refine (ih _).trans (congrArg (· ++ _) ?_)
      cases answered : (memory.respond query).1 with
      | error cause =>
          simp [eq_of_respond_error (Prod.ext answered rfl), Except.isOk, Except.toBool]
      | ok result =>
          exact (accounts_of_respond_ok (Prod.ext answered rfl)).creations

/-- After any calls to a store that was set up by hand, a call that fails leaves it as it is, and a
call that succeeds notes once and records what it makes and changes nothing else. All that is
noted are the creations of the successful calls, no call removes anything, and no two tables
share an id.
Witness: all that a creation changes before its last check is to insert a name, and when the check
fails that name was there already; ids are counted up.
-/
theorem Built.accounted (built : Built memory) (calls : List Call)
    : (∀ query cause changed,
        (memory.afterCalls calls).respond query = (.error cause, changed)
        → changed = memory.afterCalls calls)
      ∧ (∀ query result changed,
        (memory.afterCalls calls).respond query = (.ok result, changed)
        → Accounts (memory.afterCalls calls) query changed
          ∧ changed.creations.length
            = (memory.afterCalls calls).creations.length + query.isCreate.toNat)
      ∧ (memory.afterCalls calls).creations = memory.made calls
      ∧ (∀ more, Grows (memory.afterCalls calls) ((memory.afterCalls calls).afterCalls more))
      ∧ (memory.afterCalls calls).Identified := by
  refine ⟨fun query cause changed => eq_of_respond_error, fun query result changed answered => ?_,
    ?_, .afterCalls _, built.identified.afterCalls calls⟩
  · have accounts := accounts_of_respond_ok answered
    exact ⟨accounts, accounts.length_creations⟩
  · rw [creations_afterCalls, built.creations, List.nil_append]

/-- A store that is set up with one table.
-/
def shelf : Memory :=
  ({} : Memory).withTable "book" ["title"]

/-- Calls to the store: a column that is made once, a solution that is not there, and a table.
-/
def shelving : List Call :=
  [
    .createColumn "book" { logicalName := "pages", displayName := "Pages", kind := .integer },
    .createColumn "book" { logicalName := "pages", displayName := "Pages", kind := .integer },
    .addComponent "library" (idOf 1),
    .createTable ⟨"room", "Room", "Rooms", "", "rooms", ⟨.synthesized, "name"⟩, []⟩
      (.naming "name" "Name")
  ]

/-- Two of the calls succeed, and the two tables have ids of their own.
-/
theorem accounted_shelf
    : shelf.Built
      ∧ (shelf.afterCalls shelving).creations = [.column "book" "pages", .table "room"]
      ∧ (shelf.afterCalls shelving).Identified := by
  have built : shelf.Built := .table "book" ["title"] .empty
  obtain ⟨_, _, noted, _, identified⟩ := built.accounted shelving
  exact ⟨built, noted.trans (by decide), identified⟩

end Memory

end Tablewright.Store
