import Tablewright.Proofs.Provision.Schedule
import Tablewright.Proofs.Schema.Coherence

/-! Turns of tasks: the schedule of a coherent schema has every task that the schema asks for,
each of them once, and no task before the tables that it needs.
-/

namespace Tablewright

open Provision

/-- What a compiled schema asks for besides the solution: its tables, their plain columns, its
relationships, and every table as a component.
-/
def CompiledSchema.tasks (compiled : CompiledSchema) : List Task :=
  compiled.entities.map .table
    ++ compiled.entities.flatMap (fun entity => entity.plainAttributes.map (.column entity))
    ++ compiled.relationships.map .relationship
    ++ compiled.entities.map fun entity => .component entity.logicalName

namespace Provision

/-- What tells an item apart from others.
-/
def itemKey (item : ReportItem) : ItemKind × String :=
  (item.kind, item.name)

namespace Task

/-- What tells the items of a task apart from those of others.
-/
def key : Task → ItemKind × String
  | .table entity => (.table, entity.logicalName)
  | .column entity attr => (.column, entity.logicalName ++ "." ++ attr.logicalName)
  | .relationship link => (.relationship, link.name)
  | .component name => (.component, name)

/-- An item of a task has the key of the task.
-/
@[simp]
theorem itemKey_item (task : Task) (outcome : Outcome)
    : itemKey (task.item outcome) = task.key := by
  cases task with
  | _ => rfl

/-- An item of a task says what became of that.
-/
@[simp]
theorem outcome_item (task : Task) (outcome : Outcome) : (task.item outcome).outcome = outcome := by
  cases task with
  | _ => rfl

/-- The tables that have to be present for a task.
-/
def needs : Task → List String
  | .table _ => []
  | .column entity _ => [entity.logicalName]
  | .relationship link => [link.referencedTable, link.referencingTable]
  | .component name => [name]

end Task

variable {compiled : CompiledSchema} {settings : Settings}

-----------------------------------------------------------------------------------------
-- What stands on the schedule
-----------------------------------------------------------------------------------------

/-- What a schema asks for of each kind.
-/
theorem mem_tasks_iff {task : Task}
    : task ∈ compiled.tasks
      ↔ match task with
        | .table entity => entity ∈ compiled.entities
        | .column entity attr => entity ∈ compiled.entities ∧ attr ∈ entity.plainAttributes
        | .relationship link => link ∈ compiled.relationships
        | .component name => ∃ entity ∈ compiled.entities, entity.logicalName = name := by
  cases task with
  | _ => simp [CompiledSchema.tasks]

/-- The agenda of a run is what its tasks try to create.
-/
theorem agenda_eq_map_attempt (settings : Settings)
    : agenda compiled settings
      = .solution settings.solution.uniqueName
        :: (schedule compiled).map (Task.attempt settings) := by
  have links (names : List String)
      : relationshipAgenda compiled names
        = (relationshipTasks compiled names).map (Task.attempt settings) := by
    simp only [relationshipAgenda, relationshipTasks, List.map_map]
    rfl
  have steps : stepAgenda compiled
      = fun step => (stepTasks compiled step).map (Task.attempt settings) := by
    funext step
    rw [stepAgenda, stepTasks]
    cases compiled.entity? step.table with
    | none => rfl
    | some entity =>
        simp only [columnAgenda, links, List.map_cons, List.map_append, List.map_map]
        rfl
  have components : componentAgenda compiled settings.solution.uniqueName
      = (compiled.plan.steps.map fun step => Task.component step.table).map
          (Task.attempt settings) := by
    simp only [componentAgenda, List.map_map]
    rfl
  simp only [agenda, schedule, List.map_append, List.map_flatMap, steps, links, components]

/-- No two tasks of a run try to create the same.
-/
theorem attempts_nodup (wellFormed : compiled.WellFormed) (settings : Settings)
    : ((schedule compiled).map (Task.attempt settings)).Nodup := by
  have agenda := agenda_nodup wellFormed settings
  rw [agenda_eq_map_attempt] at agenda
  exact (List.nodup_cons.mp agenda).2

section Coherent

variable (coherent : compiled.Coherent)
include coherent

/-- Every entity has a step.
-/
theorem exists_step {entity : Entity} (member : entity ∈ compiled.entities)
    : ∃ step ∈ compiled.plan.steps, compiled.entity? step.table = some entity := by
  obtain ⟨tier, follows⟩ := coherent.plan
  obtain ⟨step, taken, same⟩ :=
    follows.mem_tables_iff.mp (List.mem_map_of_mem (f := (·.logicalName)) member)
  exact ⟨step, taken, coherent.entity?_eq_some_iff.mpr ⟨member, same.symm⟩⟩

/-- The relationship found under a name is the one that has it.
-/
theorem relationship?_eq_some_iff {name : String} {link : Relationship}
    : compiled.relationship? name = some link
      ↔ link ∈ compiled.relationships ∧ link.name = name :=
  find?_key_eq_some_iff coherent.relationships

/-- The tasks of some names are those of the relationships that have them.
-/
theorem mem_relationshipTasks_iff {names : List String} {task : Task}
    : task ∈ relationshipTasks compiled names
      ↔ ∃ link ∈ compiled.relationships, link.name ∈ names ∧ task = .relationship link := by
  simp only [relationshipTasks, List.mem_map, List.mem_filterMap,
    relationship?_eq_some_iff coherent]
  constructor
  · intro listed
    obtain ⟨link, ⟨name, given, member, rfl⟩, rfl⟩ := listed
    exact ⟨link, member, given, rfl⟩
  · intro listed
    obtain ⟨link, member, given, rfl⟩ := listed
    exact ⟨link, ⟨_, given, member, rfl⟩, rfl⟩

/-- A step has the relationships of its table that lie on no cycle.
-/
theorem mem_step_relationships_iff {step : Step} (taken : step ∈ compiled.plan.steps)
    {link : Relationship} (member : link ∈ compiled.relationships)
    : link.name ∈ step.relationships
      ↔ link.referencingTable = step.table ∧ ¬ compiled.dependencies.OnCycle link := by
  obtain ⟨tier, follows⟩ := coherent.plan
  have turn := (follows.mem_steps_iff.mp taken).1
  have distinct : compiled.dependencies.tables.Nodup := coherent.entities
  rw [Dependencies.turns_of_nodup _ distinct] at turn
  obtain ⟨table, _, same⟩ := List.mem_map.mp turn
  obtain ⟨rfl, own⟩ := Prod.mk.inj same
  rw [← own, Dependencies.mem_ownRelationships_iff]
  constructor
  · intro placed
    obtain ⟨other, there, references, acyclic, equal⟩ := placed
    obtain rfl := List.inj_on_of_nodup_map coherent.relationships there member equal
    exact ⟨references, acyclic⟩
  · intro references
    exact ⟨link, member, references.1, references.2, rfl⟩

/-- Every relationship has its place in the plan: one on a cycle among those that are put off, and
any other one in the step of its table.
-/
theorem exists_place {link : Relationship} (member : link ∈ compiled.relationships)
    : (∃ step ∈ compiled.plan.steps, link.name ∈ step.relationships)
      ∨ link.name ∈ compiled.plan.deferred := by
  by_cases cyclic : compiled.dependencies.OnCycle link
  · obtain ⟨tier, follows⟩ := coherent.plan
    rw [follows.deferred]
    exact .inr (compiled.dependencies.mem_deferred_iff.mpr ⟨link, member, cyclic, rfl⟩)
  · obtain ⟨entity, listed, _, _, _, source⟩ := coherent.lookups link member
    obtain ⟨step, taken, found⟩ := exists_step coherent listed
    have own : link.referencingTable = step.table :=
      (ColumnName.mk.inj source).1.trans (coherent.entity?_eq_some_iff.mp found).2
    exact .inl ⟨step, taken,
      (mem_step_relationships_iff coherent taken member).mpr ⟨own, cyclic⟩⟩

/-- A step has the tasks of its entity, with the plain columns of that and its relationships on no
cycle.
-/
theorem mem_stepTasks_iff {step : Step} (taken : step ∈ compiled.plan.steps) {task : Task}
    : task ∈ stepTasks compiled step
      ↔ match task with
        | .table entity => compiled.entity? step.table = some entity
        | .column entity attr =>
          compiled.entity? step.table = some entity ∧ attr ∈ entity.plainAttributes
        | .relationship link =>
          link ∈ compiled.relationships
          ∧ link.referencingTable = step.table
          ∧ ¬ compiled.dependencies.OnCycle link
        | .component _ => False := by
  obtain ⟨tier, follows⟩ := coherent.plan
  have known := follows.mem_tables_iff.mpr ⟨step, taken, rfl⟩
  obtain ⟨entity, member, same⟩ := List.mem_map.mp known
  have found : compiled.entity? step.table = some entity :=
    coherent.entity?_eq_some_iff.mpr ⟨member, same⟩
  simp only [stepTasks, found, List.mem_cons, List.mem_append, List.mem_map,
    mem_relationshipTasks_iff coherent, Option.some.injEq]
  cases task with
  | table other => simp [eq_comm]
  | column other attr =>
      simp only [reduceCtorEq, false_or, and_false, exists_false, or_false,
        Task.column.injEq]
      constructor
      · rintro ⟨_, plain, rfl, rfl⟩
        exact ⟨rfl, plain⟩
      · rintro ⟨rfl, plain⟩
        exact ⟨attr, plain, rfl, rfl⟩
  | relationship link =>
      simp only [reduceCtorEq, false_or, and_false, exists_false, Task.relationship.injEq]
      constructor
      · rintro ⟨_, listed, placed, rfl⟩
        exact ⟨listed, (mem_step_relationships_iff coherent taken listed).mp placed⟩
      · intro own
        exact ⟨link, own.1, (mem_step_relationships_iff coherent taken own.1).mpr own.2, rfl⟩
  | component name => simp

/-- Everything on the schedule is asked for.
-/
theorem mem_tasks_of_mem_schedule {task : Task} (listed : task ∈ schedule compiled)
    : task ∈ compiled.tasks := by
  obtain ⟨tier, follows⟩ := coherent.plan
  rw [mem_tasks_iff]
  rcases List.mem_append.mp listed with early | component
  · rcases List.mem_append.mp early with planned | deferred
    · obtain ⟨step, taken, own⟩ := List.mem_flatMap.mp planned
      have own := (mem_stepTasks_iff coherent taken).mp own
      cases task with
      | table entity => exact (coherent.entity?_eq_some_iff.mp own).1
      | column entity attr => exact ⟨(coherent.entity?_eq_some_iff.mp own.1).1, own.2⟩
      | relationship link => exact own.1
      | component name => exact own.elim
    · obtain ⟨link, member, _, rfl⟩ := (mem_relationshipTasks_iff coherent).mp deferred
      exact member
  · obtain ⟨step, taken, rfl⟩ := List.mem_map.mp component
    exact List.mem_map.mp (follows.mem_tables_iff.mpr ⟨step, taken, rfl⟩)

/-- Everything that is asked for stands on the schedule: a relationship on a cycle among those
that were put off, and any other one in the step of its table.
-/
theorem mem_schedule_of_mem_tasks {task : Task} (asked : task ∈ compiled.tasks)
    : task ∈ schedule compiled := by
  have planned {step : Step} (taken : step ∈ compiled.plan.steps)
      (own : task ∈ stepTasks compiled step) : task ∈ schedule compiled :=
    List.mem_append_left _ (List.mem_append_left _ (List.mem_flatMap.mpr ⟨step, taken, own⟩))
  have own := mem_tasks_iff.mp asked
  cases task with
  | table entity =>
      obtain ⟨step, taken, found⟩ := exists_step coherent own
      exact planned taken ((mem_stepTasks_iff coherent taken).mpr found)
  | column entity attr =>
      obtain ⟨step, taken, found⟩ := exists_step coherent own.1
      exact planned taken ((mem_stepTasks_iff coherent taken).mpr ⟨found, own.2⟩)
  | relationship link =>
      rcases exists_place coherent own with ⟨step, taken, placed⟩ | deferred
      · exact planned taken ((mem_stepTasks_iff coherent taken).mpr
          ⟨own, (mem_step_relationships_iff coherent taken own).mp placed⟩)
      · exact List.mem_append_left _ (List.mem_append_right _
          ((mem_relationshipTasks_iff coherent).mpr ⟨link, own, deferred, rfl⟩))
  | component name =>
      obtain ⟨entity, member, rfl⟩ := own
      obtain ⟨step, taken, found⟩ := exists_step coherent member
      refine List.mem_append_right _ (List.mem_map.mpr ⟨step, taken, ?_⟩)
      rw [(coherent.entity?_eq_some_iff.mp found).2]

-----------------------------------------------------------------------------------------
-- Items tell tasks apart
-----------------------------------------------------------------------------------------

/-- Tasks of a schema that have the same key are the same.
-/
theorem task_eq_of_key_eq {task other : Task} (asked : task ∈ compiled.tasks)
    (too : other ∈ compiled.tasks) (same : task.key = other.key)
    : task = other := by
  rw [mem_tasks_iff] at asked too
  have entity_eq {entity another : Entity} (here : entity ∈ compiled.entities)
      (there : another ∈ compiled.entities) (same : entity.logicalName = another.logicalName)
      : entity = another :=
    List.inj_on_of_nodup_map coherent.entities here there same
  cases task with
  | table entity =>
      cases other with
      | table another => rw [entity_eq asked too (Prod.mk.inj same).2]
      | column | relationship | component => cases (Prod.mk.inj same).1
  | column entity attr =>
      cases other with
      | column another column =>
          have member := List.mem_of_mem_filter asked.2
          obtain ⟨tables, columns⟩ := (coherent.tableNames entity asked.1).label_inj
            (coherent.columnNames entity asked.1 attr member) (Prod.mk.inj same).2
          obtain rfl := entity_eq asked.1 too.1 tables
          rw [List.inj_on_of_nodup_map (coherent.attributes entity asked.1) member
            (List.mem_of_mem_filter too.2) columns]
      | table | relationship | component => cases (Prod.mk.inj same).1
  | relationship link =>
      cases other with
      | relationship another =>
          rw [List.inj_on_of_nodup_map coherent.relationships asked too (Prod.mk.inj same).2]
      | table | column | component => cases (Prod.mk.inj same).1
  | component name =>
      cases other with
      | component another => rw [(Prod.mk.inj same).2]
      | table | column | relationship => cases (Prod.mk.inj same).1

/-- No two items of a run's tasks have the same key.
-/
theorem keys_nodup : ((schedule compiled).map Task.key).Nodup := by
  have tasks := List.Nodup.of_map _ (attempts_nodup coherent.toWellFormed {})
  refine tasks.map_on fun task listed other too same => ?_
  exact task_eq_of_key_eq coherent (mem_tasks_of_mem_schedule coherent listed)
    (mem_tasks_of_mem_schedule coherent too) same

/-- A schema asks for nothing twice.
-/
theorem tasks_nodup : compiled.tasks.Nodup := by
  have entities := List.Nodup.of_map _ coherent.entities
  have columns : (compiled.entities.flatMap fun entity =>
      entity.plainAttributes.map (Task.column entity)).Nodup := by
    refine List.nodup_flatMap.mpr ⟨?_, ?_⟩
    · intro entity member
      have attributes := List.Nodup.of_map _ (coherent.attributes entity member)
      exact (attributes.filter _).map fun _ _ same => (Task.column.inj same).2
    · refine entities.imp fun {entity other} different => ?_
      intro task mine yours
      obtain ⟨_, _, rfl⟩ := List.mem_map.mp mine
      obtain ⟨_, _, same⟩ := List.mem_map.mp yours
      exact different (Task.column.inj same).1.symm
  have components : (compiled.entities.map fun entity =>
      Task.component entity.logicalName).Nodup := by
    have named := coherent.entities.map (f := Task.component) fun _ _ => Task.component.inj
    rwa [List.map_map] at named
  have tables := entities.map (f := Task.table) fun _ _ => Task.table.inj
  have links := (List.Nodup.of_map _ coherent.relationships).map (f := Task.relationship)
    fun _ _ => Task.relationship.inj
  simp only [CompiledSchema.tasks, List.nodup_append]
  refine ⟨⟨⟨tables, columns, ?_⟩, links, ?_⟩, components, ?_⟩
  all_goals
    intro task first other later same
    subst same
    simp only [List.mem_append, List.mem_map, List.mem_flatMap] at first later
    aesop

/-- The schedule of a run is what the schema asks for, in some order.
-/
theorem schedule_perm : (schedule compiled).Perm compiled.tasks := by
  have tasks := List.Nodup.of_map _ (attempts_nodup coherent.toWellFormed {})
  exact (List.perm_ext_iff_of_nodup tasks (tasks_nodup coherent)).mpr fun task =>
    ⟨mem_tasks_of_mem_schedule coherent, mem_schedule_of_mem_tasks coherent⟩

-----------------------------------------------------------------------------------------
-- Tables come before what needs them
-----------------------------------------------------------------------------------------

/-- A task of an earlier step needs no table of a later one: relationships refer to tables of lower
tiers.
-/
theorem table_notMem_needs {tier : String → Nat}
    (follows : compiled.dependencies.Follows compiled.plan tier) {step other : Step}
    (taken : step ∈ compiled.plan.steps) (placed : other ∈ compiled.plan.steps)
    (different : step.table ≠ other.table) (ascending : step.tier ≤ other.tier) {task : Task}
    (own : task ∈ stepTasks compiled step)
    : other.table ∉ task.needs := by
  have own := (mem_stepTasks_iff coherent taken).mp own
  cases task with
  | table entity => exact List.not_mem_nil
  | column entity attr =>
      have same := (coherent.entity?_eq_some_iff.mp own.1).2
      simp only [Task.needs, List.mem_singleton, same]
      exact different.symm
  | relationship link =>
      obtain ⟨member, references, acyclic⟩ := own
      simp only [Task.needs, List.mem_cons, List.not_mem_nil, or_false, references, not_or]
      refine ⟨fun same => ?_, different.symm⟩
      have known := follows.mem_tables_iff.mpr ⟨step, taken, rfl⟩
      have there := follows.mem_tables_iff.mpr ⟨other, placed, rfl⟩
      have awaited : other.table ∈ compiled.dependencies.prerequisites step.table :=
        compiled.dependencies.mem_prerequisites_iff.mpr
          ⟨link, member, references, same.symm, there, acyclic⟩
      have lower := follows.tiering.above
        (compiled.dependencies.mem_waits_iff.mpr ⟨known, awaited⟩) known there
      rw [(follows.mem_steps_iff.mp taken).2, (follows.mem_steps_iff.mp placed).2] at ascending
      exact Nat.lt_irrefl _ (Nat.lt_of_lt_of_le lower ascending)
  | component name => exact own.elim

/-- No table stands on the schedule behind a task that needs it.
Witness: within a step the table comes first, across steps tables have different names and ascending
tiers, and behind the steps there are no tables.
-/
theorem schedule_pairwise
    : (schedule compiled).Pairwise fun earlier later =>
        ∀ entity, later = .table entity → entity.logicalName ∉ earlier.needs := by
  obtain ⟨tier, follows⟩ := coherent.plan
  have apart := (List.pairwise_map.mp coherent.steps_nodup).and follows.ascending
  have late {task : Task}
      (member : task ∈ relationshipTasks compiled compiled.plan.deferred
        ++ compiled.plan.steps.map fun step => Task.component step.table) (entity : Entity)
      : task ≠ .table entity := by
    rintro rfl
    rcases List.mem_append.mp member with link | component
    · obtain ⟨_, _, _, same⟩ := (mem_relationshipTasks_iff coherent).mp link
      cases same
    · obtain ⟨_, _, same⟩ := List.mem_map.mp component
      cases same
  rw [schedule, List.append_assoc, List.pairwise_append, List.pairwise_flatMap]
  refine ⟨⟨?_, ?_⟩, ?_, ?_⟩
  · intro step taken
    rw [stepTasks]
    cases compiled.entity? step.table with
    | none => exact .nil
    | some entity =>
        refine List.pairwise_cons.mpr ⟨fun _ _ _ _ => List.not_mem_nil, ?_⟩
        refine List.pairwise_of_forall_mem_list fun _ _ later member other same => ?_
        subst same
        rcases List.mem_append.mp member with column | link
        · obtain ⟨_, _, same⟩ := List.mem_map.mp column
          cases same
        · obtain ⟨_, _, _, same⟩ := (mem_relationshipTasks_iff coherent).mp link
          cases same
  · refine apart.imp_of_mem fun {step other} taken placed order => ?_
    intro task own later there entity same
    subst same
    have found := (mem_stepTasks_iff coherent placed).mp there
    rw [(coherent.entity?_eq_some_iff.mp found).2]
    exact table_notMem_needs coherent follows taken placed order.1 order.2 own
  · exact List.pairwise_of_forall_mem_list fun _ _ later member entity same =>
      absurd same (late member entity)
  · exact fun _ _ later member entity same => absurd same (late member entity)

/-- The tables that a task needs are those of entities.
-/
theorem exists_entity_of_needs {task : Task} (asked : task ∈ compiled.tasks) {table : String}
    (needed : table ∈ task.needs)
    : ∃ entity ∈ compiled.entities, entity.logicalName = table := by
  have own := mem_tasks_iff.mp asked
  cases task with
  | table entity => exact absurd needed List.not_mem_nil
  | column entity attr => exact ⟨entity, own.1, (List.mem_singleton.mp needed).symm⟩
  | relationship link =>
      rcases List.mem_cons.mp needed with rfl | referencing
      · exact coherent.targets link own
      · obtain ⟨entity, member, _, _, _, source⟩ := coherent.lookups link own
        refine ⟨entity, member, ?_⟩
        rw [List.mem_singleton.mp referencing]
        exact (ColumnName.mk.inj source).1.symm
  | component name =>
      rw [List.mem_singleton.mp needed]
      exact own

/-- Every table that a task needs stands on the schedule before it.
-/
theorem exists_table_before {before after : List Task} {task : Task}
    (split : schedule compiled = before ++ task :: after) {table : String}
    (needed : table ∈ task.needs)
    : ∃ entity, entity.logicalName = table ∧ .table entity ∈ before := by
  have listed : task ∈ schedule compiled := by simp [split]
  obtain ⟨entity, member, rfl⟩ :=
    exists_entity_of_needs coherent (mem_tasks_of_mem_schedule coherent listed) needed
  have there : .table entity ∈ schedule compiled :=
    mem_schedule_of_mem_tasks coherent (mem_tasks_iff.mpr member)
  have order := schedule_pairwise coherent
  rw [split] at there order
  have behind := (List.pairwise_cons.mp (List.pairwise_append.mp order).2.1).1
  rcases List.mem_append.mp there with early | late
  · exact ⟨entity, rfl, early⟩
  · rcases List.mem_cons.mp late with same | later
    · rw [← same] at needed
      exact absurd needed List.not_mem_nil
    · exact absurd needed (behind _ later entity rfl)

end Coherent

-----------------------------------------------------------------------------------------
-- The place of a task
-----------------------------------------------------------------------------------------

/-- A task stands among others that are asked for. No two of them have the same key, and the tables
that it needs stand before it.
-/
structure Placed (compiled : CompiledSchema) (before : List Task) (task : Task)
    (after : List Task)
    : Prop where
  asked : ∀ other ∈ before ++ task :: after, other ∈ compiled.tasks
  distinct : ((before ++ task :: after).map Task.key).Nodup
  tables : ∀ table ∈ task.needs, ∃ entity, entity.logicalName = table ∧ .table entity ∈ before

namespace Placed

variable {before after : List Task} {task : Task}

/-- Every task has its place on the schedule.
-/
theorem of_split (coherent : compiled.Coherent)
    (split : schedule compiled = before ++ task :: after)
    : Placed compiled before task after where
  asked := fun _ there => mem_tasks_of_mem_schedule coherent (split ▸ there)
  distinct := split ▸ keys_nodup coherent
  tables := fun _ needed => exists_table_before coherent split needed

variable (placed : Placed compiled before task after)
include placed

/-- A task in its place is asked for.
-/
theorem own : task ∈ compiled.tasks :=
  placed.asked _ (List.mem_append_right _ List.mem_cons_self)

/-- The tasks before a task in its place are asked for.
-/
theorem earlier {other : Task} (early : other ∈ before) : other ∈ compiled.tasks :=
  placed.asked _ (List.mem_append_left _ early)

/-- The key of a task in its place, and those of the tasks after it, differ from those before it.
-/
theorem key_ne {other another : Task} (early : other ∈ before) (late : another ∈ task :: after)
    : other.key ≠ another.key := by
  have distinct := placed.distinct
  rw [List.map_append] at distinct
  exact (List.nodup_append.mp distinct).2.2 _ (List.mem_map_of_mem early) _
    (List.mem_map_of_mem late)

/-- No task before a task in its place has the key of that.
-/
theorem key_notMem_before : task.key ∉ before.map Task.key := by
  intro early
  obtain ⟨other, there, same⟩ := List.mem_map.mp early
  exact placed.key_ne there List.mem_cons_self same

/-- No task after a task in its place has the key of that.
-/
theorem key_notMem_after : task.key ∉ after.map Task.key := by
  have distinct := placed.distinct
  rw [List.map_append, List.map_cons] at distinct
  exact (List.nodup_cons.mp (List.nodup_append.mp distinct).2.1).1

/-- A table that a task in its place needs is not dealt with by that or after it.
-/
theorem table_key_notMem {table : String} (needed : table ∈ task.needs)
    : (ItemKind.table, table) ∉ (task :: after).map Task.key := by
  obtain ⟨entity, rfl, early⟩ := placed.tables _ needed
  intro late
  obtain ⟨other, there, same⟩ := List.mem_map.mp late
  exact placed.key_ne early there same.symm

end Placed

end Provision

end Tablewright
