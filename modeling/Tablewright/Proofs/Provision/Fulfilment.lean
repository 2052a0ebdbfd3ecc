import Tablewright.Proofs.Provision.Foresight
import Tablewright.Proofs.Provision.Order

/-! Fulfilment: on a settled store a run comes to the report that was foreseen, and the store gains
what was foreseen.
-/

namespace Tablewright.Provision

open Store (Holding Memory)
open Store.Memory (Built Gains Settled)

variable {compiled : CompiledSchema} {settings : Settings}
variable {memory middle : Memory} {before rest tasks : List Task} {task : Task} {holding : Holding}

-----------------------------------------------------------------------------------------
-- The report so far
-----------------------------------------------------------------------------------------

section Turn

variable (coherent : compiled.Coherent) (placed : Placed compiled before task rest)
include coherent placed

/-- In the report so far a table has what was foreseen for it, and nothing else.
-/
theorem table_mem_foreseenReport_iff (settings : Settings) (memory : Memory)
    (outcome : Outcome) {entity : Entity} (member : .table entity ∈ before)
    : ⟨.table, entity.logicalName, outcome⟩ ∈ foreseenReport compiled settings memory before
      ↔ foresee compiled settings memory (.table entity) = outcome := by
  simp only [foreseenReport, foreseenItems, List.mem_cons, ReportItem.mk.injEq, reduceCtorEq,
    false_and, false_or, List.mem_map, List.mem_filter]
  constructor
  · intro listed
    obtain ⟨other, ⟨there, _⟩, same⟩ := listed
    cases other with
    | table another =>
        obtain ⟨_, named, rfl⟩ := ReportItem.mk.inj same
        obtain rfl := List.inj_on_of_nodup_map coherent.entities
          (mem_tasks_iff.mp (placed.earlier there)) (mem_tasks_iff.mp (placed.earlier member)) named
        rfl
    | column | relationship | component => cases (ReportItem.mk.inj same).1
  · rintro rfl
    exact ⟨.table entity, ⟨member, rfl⟩, rfl⟩

/-- The tables that a task needs are present at its turn when they are available.
-/
theorem contains_presentTables (settings : Settings) (memory : Memory) {table : String}
    (needed : table ∈ task.needs)
    : (presentTables (foreseenReport compiled settings memory before)).contains table
      = isAvailable memory table := by
  obtain ⟨entity, rfl, early⟩ := placed.tables _ needed
  rw [Bool.eq_iff_iff, List.contains_iff_mem, mem_presentTables_iff,
    ← isPresent_foresee_table compiled settings]
  simp only [table_mem_foreseenReport_iff coherent placed settings memory _ early, exists_eq_left']

/-- A task is exempt at its turn when it will have no item.
-/
theorem isExempt_foreseen
    : isExempt (foreseenReport compiled settings memory before) task
      = !isDue compiled settings memory task := by
  cases task with
  | column entity attr =>
      obtain ⟨other, same, early⟩ :=
        placed.tables _ (List.mem_singleton_self entity.logicalName)
      obtain rfl := List.inj_on_of_nodup_map coherent.entities
        (mem_tasks_iff.mp (placed.earlier early)) (mem_tasks_iff.mp placed.own).1 same
      have created :=
        table_mem_foreseenReport_iff coherent placed settings memory .created early
      simp only [isExempt, isDue, created, Bool.not_not, beq_eq_decide]
  | table | relationship | component => rfl

end Turn

/-- The items of tasks are not that of the solution.
-/
theorem kind_ne_solution_of_mem_foreseenItems {item : ReportItem}
    (member : item ∈ foreseenItems compiled settings memory tasks)
    : item.kind ≠ .solution := by
  obtain ⟨task, _, rfl⟩ := List.mem_map.mp member
  exact task.kind_item_ne_solution _

/-- The solution is present by the report so far when it will be.
-/
theorem solutionIsPresent_foreseen
    : solutionIsPresent (foreseenReport compiled settings memory before)
      = (foreseeSolution settings memory).isPresent := by
  have apart : ∀ item ∈ foreseenItems compiled settings memory before, item.kind ≠ .solution :=
    fun _ => kind_ne_solution_of_mem_foreseenItems
  rw [foreseenReport, ← List.singleton_append, solutionIsPresent_append apart]
  simp [solutionIsPresent]

-----------------------------------------------------------------------------------------
-- The turn of a task
-----------------------------------------------------------------------------------------

/-- Before its turn, what a task looks for has been brought exactly when it comes along with a
table.
-/
theorem goal_mem_foreseenGains_iff (coherent : compiled.Coherent)
    (placed : Placed compiled before task rest)
    : task.goal settings ∈ foreseenGains compiled settings memory before
      ↔ ComesAlong compiled settings memory task := by
  constructor
  · intro gained
    obtain ⟨other, early, _, created, brings⟩ := mem_foreseenGains_iff.mp gained
    have asked := placed.earlier early
    rcases eq_or_primary_of_mem_holdings coherent placed.own asked brings with rfl
      | ⟨entity, rfl, primary⟩
    · exact absurd (List.mem_map_of_mem early) placed.key_notMem_before
    · exact ⟨entity, mem_tasks_iff.mp asked, created, primary⟩
  · intro along
    obtain ⟨entity, member, created, primary⟩ := along
    obtain ⟨other, same, early⟩ := placed.tables _ (Task.mem_needs_of_goal primary)
    obtain rfl := List.inj_on_of_nodup_map coherent.entities
      (mem_tasks_iff.mp (placed.earlier early)) member same
    refine mem_foreseenGains_iff.mpr ⟨_, early, rfl, created, ?_⟩
    rw [primary]
    exact List.mem_cons_of_mem _ List.mem_cons_self

section Dealing

variable (coherent : compiled.Coherent) (placed : Placed compiled before task rest)
variable (gains : Gains memory middle (runGains compiled settings memory before))

include placed gains in
/-- At the turn of a task the store has the tables that it needs if these are available.
-/
theorem holds_needed {table : String} (needed : table ∈ task.needs)
    (available : isAvailable memory table = true)
    : middle.holds (.table table) = true := by
  obtain ⟨entity, rfl, early⟩ := placed.tables _ needed
  rw [gains.holds]
  cases there : memory.holds (.table entity.logicalName) with
  | true => exact .inl rfl
  | false =>
      rw [isAvailable, there, Bool.false_or, Option.isNone_iff_eq_none] at available
      exact .inr (List.mem_append_right _ (mem_foreseenGains_iff.mpr
        ⟨_, early, rfl, judge_eq_created_iff.mpr ⟨there, available⟩, List.mem_cons_self⟩))

include coherent placed gains

/-- At its turn, what a task looks for is there if it was in the beginning or came along with a
table.
-/
theorem holds_goal_iff
    : middle.holds (task.goal settings) = true
      ↔ memory.holds (task.goal settings) = true
        ∨ ComesAlong compiled settings memory task := by
  rw [gains.holds, runGains, List.mem_append, mem_solutionGains_iff,
    goal_mem_foreseenGains_iff coherent placed]
  simp only [task.goal_ne_solution, and_false, false_or]

/-- At its turn, what a task looks for is there if it was in the beginning, unless it comes
along with a table.
-/
theorem holds_goal_eq (alone : ¬ComesAlong compiled settings memory task)
    : middle.holds (task.goal settings) = memory.holds (task.goal settings) := by
  rw [Bool.eq_iff_iff, holds_goal_iff coherent placed gains]
  exact or_iff_left alone

end Dealing

section Kinds

variable (coherent : compiled.Coherent)
variable (gains : Gains memory middle (runGains compiled settings memory before))
include coherent gains

/-- At its turn a table yields what was foreseen for it.
-/
theorem yields_foresee_table {entity : Entity}
    (placed : Placed compiled before (.table entity) rest)
    (prompt : memory.delay < max settings.provision.visibilityAttempts 1)
    : Yields
        (pursue compiled settings (foreseenReport compiled settings memory before)
          (.table entity))
        middle (foresee compiled settings memory (.table entity))
        (Task.holdings settings (.table entity)) := by
  have same : middle.holds (.table entity.logicalName)
      = memory.holds (.table entity.logicalName) :=
    holds_goal_eq coherent placed gains (not_comesAlong fun _ _ => Holding.noConfusion)
  rw [foresee, ← same, ← gains.rejections, Task.holdings,
    ← coherent.creationPrimary_logicalName (mem_tasks_iff.mp placed.own)]
  exact yields_ensureTable gains.settled (gains.delay ▸ prompt)

/-- At its turn a column that will have an item yields what was foreseen for it.
-/
theorem yields_foresee_column {entity : Entity} {attr : Attribute}
    (placed : Placed compiled before (.column entity attr) rest)
    (due : isDue compiled settings memory (.column entity attr) = true)
    : Yields
        (pursue compiled settings (foreseenReport compiled settings memory before)
          (.column entity attr))
        middle (foresee compiled settings memory (.column entity attr))
        (Task.holdings settings (.column entity attr)) := by
  have needed := List.mem_singleton_self entity.logicalName
  rw [pursue, pursueColumn, contains_presentTables coherent placed settings memory needed,
    foresee]
  split
  · next available =>
    have alone : ¬ComesAlong compiled settings memory (.column entity attr) := by
      rw [comesAlong_column_iff coherent placed.own, due]
      exact Bool.noConfusion
    have same : middle.holds (.column entity.logicalName attr.logicalName)
        = memory.holds (.column entity.logicalName attr.logicalName) :=
      holds_goal_eq coherent placed gains alone
    rw [← same, ← gains.rejections]
    exact yields_column gains.settled (holds_needed placed gains needed available)
  · exact yields_pure gains.settled Outcome.noConfusion

/-- At its turn a relationship yields what was foreseen for it.
-/
theorem yields_foresee_relationship {link : Relationship}
    (placed : Placed compiled before (.relationship link) rest)
    : Yields
        (pursue compiled settings (foreseenReport compiled settings memory before)
          (.relationship link))
        middle (foresee compiled settings memory (.relationship link))
        (Task.holdings settings (.relationship link)) := by
  have present {table : String} (needed : table ∈ (Task.relationship link).needs) :=
    contains_presentTables coherent placed settings memory needed
  have referenced : link.referencedTable ∈ (Task.relationship link).needs :=
    List.mem_cons_self
  have referencing : link.referencingTable ∈ (Task.relationship link).needs :=
    List.mem_cons_of_mem _ List.mem_cons_self
  have missing
      : missingTable? (presentTables (foreseenReport compiled settings memory before)) link
        = [link.referencedTable, link.referencingTable].find? fun table =>
            !isAvailable memory table := by
    simp only [missingTable?, List.find?_cons, List.find?_nil, present referenced,
      present referencing]
  rw [pursue, pursueRelationship, missing, foresee]
  cases lacking : [link.referencedTable, link.referencingTable].find? fun table =>
      !isAvailable memory table with
  | some table => exact yields_pure gains.settled Outcome.noConfusion
  | none =>
      obtain ⟨lookup, found, named⟩ := coherent.exists_lookup (mem_tasks_iff.mp placed.own)
      have available := List.find?_eq_none.mp lacking
      simp only [Bool.not_eq_true', Bool.not_eq_false] at available
      have same : middle.holds (.column link.referencingTable link.referencingAttribute)
          = (memory.holds (.column link.referencingTable link.referencingAttribute)
            || comesWithTable compiled memory link) := by
        rw [Bool.eq_iff_iff, Bool.or_eq_true,
          ← comesAlong_relationship_iff coherent settings (available _ referencing)]
        exact holds_goal_iff coherent placed gains
      dsimp only
      rw [found, ← same, ← gains.rejections]
      exact yields_relationship gains.settled
        (holds_needed placed gains referenced (available _ referenced))
        (holds_needed placed gains referencing (available _ referencing)) named

/-- At its turn a component yields what was foreseen for it.
-/
theorem yields_foresee_component {name : String}
    (placed : Placed compiled before (.component name) rest)
    : Yields
        (pursue compiled settings (foreseenReport compiled settings memory before)
          (.component name))
        middle (foresee compiled settings memory (.component name))
        (Task.holdings settings (.component name)) := by
  have needed := List.mem_singleton_self name
  rw [pursue, pursueComponent, solutionIsPresent_foreseen,
    contains_presentTables coherent placed settings memory needed, foresee]
  split
  · exact yields_pure gains.settled Outcome.noConfusion
  next ready =>
  split
  · exact yields_pure gains.settled Outcome.noConfusion
  next available =>
  simp only [Bool.not_eq_true', Bool.not_eq_false] at ready available
  have same : middle.holds (.component settings.solution.uniqueName name)
      = memory.holds (.component settings.solution.uniqueName name) :=
    holds_goal_eq coherent placed gains (not_comesAlong fun _ _ => Holding.noConfusion)
  rw [← same]
  exact yields_component gains.settled (holds_solution_of_gains gains ready)
    (holds_needed placed gains needed available)

/-- At its turn a task that will have an item yields what was foreseen for it.
-/
theorem yields_foresee (placed : Placed compiled before task rest)
    (prompt : memory.delay < max settings.provision.visibilityAttempts 1)
    (due : isDue compiled settings memory task = true)
    : Yields (pursue compiled settings (foreseenReport compiled settings memory before) task)
        middle (foresee compiled settings memory task) (task.holdings settings) := by
  cases task with
  | table entity => exact yields_foresee_table coherent gains placed prompt
  | column entity attr => exact yields_foresee_column coherent gains placed due
  | relationship link => exact yields_foresee_relationship coherent gains placed
  | component name => exact yields_foresee_component coherent gains placed

end Kinds

-----------------------------------------------------------------------------------------
-- Whole runs
-----------------------------------------------------------------------------------------

/-- The report after one more task.
-/
theorem foreseenReport_append_singleton (compiled : CompiledSchema) (settings : Settings)
    (memory : Memory) (before : List Task) (task : Task)
    : foreseenReport compiled settings memory (before ++ [task])
      = foreseenReport compiled settings memory before
        ++ if isDue compiled settings memory task then
            [task.item (foresee compiled settings memory task)]
          else
            [] := by
  rw [foreseenReport, foreseenItems, List.filter_append, List.map_append, ← foreseenItems,
    List.filter_singleton]
  cases isDue compiled settings memory task with
  | _ => rfl

/-- What the store will have gained after one more task.
-/
theorem runGains_append_singleton (compiled : CompiledSchema) (settings : Settings)
    (memory : Memory) (before : List Task) (task : Task)
    : runGains compiled settings memory (before ++ [task])
      = runGains compiled settings memory before
        ++ if isDue compiled settings memory task
            && foresee compiled settings memory task == .created then
            task.holdings settings
          else
            [] := by
  rw [runGains, foreseenGains, List.filter_append, List.flatMap_append, ← foreseenGains,
    List.filter_singleton, ← List.append_assoc, ← runGains]
  split
  · next created => simp [created]
  · next uncreated => simp [uncreated]

/-- The tasks that are left on the schedule have the items that were foreseen, and the store
gains what they bring.
Witness: induction on the tasks that are left, with what the store has gained before each of
them.
-/
theorem run_perform_foreseen (coherent : compiled.Coherent)
    (prompt : memory.delay < max settings.provision.visibilityAttempts 1) {left : List Task}
    (split : schedule compiled = before ++ left)
    (gains : Gains memory middle (runGains compiled settings memory before))
    : ∃ after,
        (perform compiled settings left (foreseenReport compiled settings memory before)).run
            Memory.respond middle
          = (foreseenItems compiled settings memory left, after)
        ∧ Gains memory after (runGains compiled settings memory (before ++ left)) := by
  induction left generalizing before middle with
  | nil => exact ⟨middle, rfl, by rwa [List.append_nil]⟩
  | cons task rest ih =>
      have placed := Placed.of_split coherent split
      have onward : schedule compiled = (before ++ [task]) ++ rest := by simp [split]
      have items := foreseenReport_append_singleton compiled settings memory before task
      have brought := runGains_append_singleton compiled settings memory before task
      rw [perform, isExempt_foreseen coherent placed]
      cases due : isDue compiled settings memory task with
      | false =>
          rw [due, if_neg Bool.false_ne_true, List.append_nil] at items
          rw [due, Bool.false_and, if_neg Bool.false_ne_true, List.append_nil] at brought
          obtain ⟨after, ended, gained⟩ := ih onward (by rwa [brought])
          rw [items] at ended
          refine ⟨after, ?_, by simpa using gained⟩
          rw [Bool.not_false, if_pos rfl, ended, foreseenItems, foreseenItems,
            List.filter_cons_of_neg (by simp [due])]
      | true =>
          obtain ⟨between, pursued, yielded⟩ := yields_foresee coherent gains placed prompt due
          rw [due, if_pos rfl] at items
          simp only [due, Bool.true_and, beq_iff_eq] at brought
          have gainsOnward : Gains memory between
              (runGains compiled settings memory (before ++ [task])) := by
            rw [brought]
            exact gains.trans yielded
          obtain ⟨after, ended, gained⟩ := ih onward gainsOnward
          rw [items] at ended
          refine ⟨after, ?_, by simpa using gained⟩
          rw [Bool.not_true, if_neg Bool.false_ne_true, Dialogue.run_bind, pursued,
            Dialogue.run_bind, ended, foreseenItems, foreseenItems,
            List.filter_cons_of_pos due]
          rfl

/-- The solution is skipped, refused, or created for the publisher that the store has.
-/
theorem run_ensureSolution_foreseen (settled : memory.Settled)
    (ready
      : memory.solutions.contains settings.solution.uniqueName = true
        ∨ memory.publishers.contains settings.publisher.namePrefix = true)
    : ∃ after,
        (ensureSolution settings).run Memory.respond memory
          = (.ok (foreseeSolution settings memory), after)
        ∧ Gains memory after (solutionGains settings memory) := by
  rw [ensureSolution, run_call_bind settled.online]
  rw [solutionGains, foreseeSolution, Memory.holds]
  cases there : memory.solutions.contains settings.solution.uniqueName with
  | true =>
      refine ⟨memory, ?_, .refl settled⟩
      simp only [Memory.answer, there]
      rfl
  | false =>
      rw [there] at ready
      obtain ⟨publisher, found⟩ := Option.isSome_iff_exists.mp
        (ready.resolve_left Bool.false_ne_true)
      simp only [Memory.answer, there, run_call_bind settled.online, found]
      cases refused : memory.rejections.get? settings.solution.uniqueName with
      | some cause =>
          have failed : memory.perform (Memory.createSolution settings.solution.uniqueName)
              = (.error cause, memory) :=
            Store.Memory.perform_checkName_bind refused
          refine ⟨memory, ?_, .refl settled⟩
          simp only [failed]
          rfl
      | none =>
          have created := Store.Memory.createSolution_eq_ok_iff.mpr ⟨refused, rfl⟩
          refine ⟨_, ?_, Gains.createSolution settled created⟩
          simp only [created]
          rfl

/-- On a settled store that has the solution or a publisher for it, and shows new tables in
time, a run comes to the report that was foreseen, and the store gains what is created.
-/
theorem run_of_settled (coherent : compiled.Coherent) (settled : memory.Settled)
    (ready
      : memory.solutions.contains settings.solution.uniqueName = true
        ∨ memory.publishers.contains settings.publisher.namePrefix = true)
    (prompt : memory.delay < max settings.provision.visibilityAttempts 1)
    : ∃ after,
        (run compiled settings).run Memory.respond memory
          = (.ok ⟨foreseenReport compiled settings memory (schedule compiled)⟩, after)
        ∧ Gains memory after (runGains compiled settings memory (schedule compiled)) := by
  obtain ⟨middle, ensured, gains⟩ := run_ensureSolution_foreseen settled ready
  rw [← List.append_nil (solutionGains settings memory)] at gains
  obtain ⟨after, performed, gained⟩ :=
    run_perform_foreseen coherent prompt (List.nil_append _).symm gains
  exact ⟨after, (run_eq_ok_iff coherent.toWellFormed).mpr
    ⟨settled.online, _, middle, _, ensured, performed, rfl⟩, gained⟩

/-- A report has items of the solution and of tasks that are due.
-/
theorem mem_foreseenReport_iff (coherent : compiled.Coherent) {item : ReportItem}
    : item ∈ foreseenReport compiled settings memory (schedule compiled)
      ↔ item = ⟨.solution, settings.solution.uniqueName, foreseeSolution settings memory⟩
        ∨ ∃ task ∈ compiled.tasks,
            isDue compiled settings memory task = true
            ∧ item = task.item (foresee compiled settings memory task) := by
  simp only [foreseenReport, foreseenItems, List.mem_cons, List.mem_map, List.mem_filter,
    (schedule_perm coherent).mem_iff, and_assoc, eq_comm]

/-- What a run brings is what the solution and the tasks bring that it creates.
-/
theorem mem_runGains_iff (coherent : compiled.Coherent)
    : holding ∈ runGains compiled settings memory (schedule compiled)
      ↔ (foreseeSolution settings memory = .created
          ∧ holding = .solution settings.solution.uniqueName)
        ∨ ∃ task ∈ compiled.tasks,
            IsCreated compiled settings memory task ∧ holding ∈ task.holdings settings := by
  rw [runGains, List.mem_append, mem_solutionGains_iff, mem_foreseenGains_iff]
  simp only [(schedule_perm coherent).mem_iff, IsCreated, and_assoc]

/-- The solution has the item that was foreseen, and no other.
-/
theorem solution_mem_foreseenReport_iff (coherent : compiled.Coherent) {outcome : Outcome}
    : ⟨.solution, settings.solution.uniqueName, outcome⟩
        ∈ foreseenReport compiled settings memory (schedule compiled)
      ↔ foreseeSolution settings memory = outcome := by
  rw [mem_foreseenReport_iff coherent]
  constructor
  · intro listed
    rcases listed with own | ⟨task, _, _, other⟩
    · exact (ReportItem.mk.inj own).2.2.symm
    · exact absurd (congrArg ReportItem.kind other).symm (task.kind_item_ne_solution _)
  · rintro rfl
    exact .inl rfl

/-- A task has the item that was foreseen if it was due, and no other.
-/
theorem item_mem_foreseenReport_iff (coherent : compiled.Coherent)
    (asked : task ∈ compiled.tasks) {outcome : Outcome}
    : task.item outcome ∈ foreseenReport compiled settings memory (schedule compiled)
      ↔ isDue compiled settings memory task = true
        ∧ foresee compiled settings memory task = outcome := by
  rw [mem_foreseenReport_iff coherent]
  constructor
  · intro listed
    rcases listed with own | ⟨other, too, due, same⟩
    · exact absurd (congrArg ReportItem.kind own) (task.kind_item_ne_solution outcome)
    · have keys := congrArg itemKey same
      rw [Task.itemKey_item, Task.itemKey_item] at keys
      obtain rfl := task_eq_of_key_eq coherent asked too keys
      have outcomes := congrArg ReportItem.outcome same
      rw [Task.outcome_item, Task.outcome_item] at outcomes
      exact ⟨due, outcomes.symm⟩
  · intro foreseen
    obtain ⟨due, rfl⟩ := foreseen
    exact .inr ⟨task, asked, due, rfl⟩

/-- On a store that was set up by hand and can be reached, that has the solution or a publisher
for it, and shows new tables in time, the report of a run is the one that was foreseen, without
components that were there. Afterwards the store has what it had before and what was created
with all that comes with it.
Witness: such a store is settled, and each task in its turn yields what was foreseen for it.
-/
theorem run_foreseen {schema : Schema} {publisherPrefix : String}
    (compiles : schema.compile publisherPrefix = .ok compiled) (built : Built memory)
    (online : memory.isOffline = false)
    (ready
      : memory.solutions.contains settings.solution.uniqueName = true
        ∨ memory.publishers.contains settings.publisher.namePrefix = true)
    (prompt : memory.delay < max 1 settings.provision.visibilityAttempts)
    : ∃ report after,
        (run compiled settings).run Memory.respond memory = (.ok report, after)
        ∧ report.items.Perm
            (⟨.solution, settings.solution.uniqueName, foreseeSolution settings memory⟩
              :: (compiled.tasks.filter (isDue compiled settings memory)).map fun task =>
                task.item (foresee compiled settings memory task))
        ∧ (∀ name, foresee compiled settings memory (.component name) ≠ .skipped)
        ∧ ∀ holding,
            after.holds holding = true
            ↔ memory.holds holding = true
              ∨ (⟨.solution, settings.solution.uniqueName, .created⟩ ∈ report.items
                ∧ holding = .solution settings.solution.uniqueName)
              ∨ ∃ task ∈ compiled.tasks,
                  task.item .created ∈ report.items ∧ holding ∈ task.holdings settings := by
  have coherent := CompiledSchema.coherent_of_compile compiles
  obtain ⟨none, settled⟩ := built.settled
  rw [Nat.max_comm] at prompt
  obtain ⟨after, ended, gains⟩ := run_of_settled coherent (settled online) ready prompt
  refine ⟨_, after, ended, ?_, ?_, ?_⟩
  · exact (((schedule_perm coherent).filter _).map _).cons _
  · intro name foreseen
    have unregistered : memory.holds (.component settings.solution.uniqueName name) = false := by
      rw [← Bool.not_eq_true, Store.Memory.holds_component_iff]
      simp [none]
    rw [foresee, unregistered] at foreseen
    split at foreseen
    · cases foreseen
    split at foreseen
    · cases foreseen
    · cases foreseen
  · intro holding
    rw [gains.holds, mem_runGains_iff coherent, solution_mem_foreseenReport_iff coherent]
    refine or_congr_right (or_congr_right (exists_congr fun task => ?_))
    refine and_congr_right fun asked => and_congr_left fun _ => ?_
    exact (item_mem_foreseenReport_iff coherent asked).symm

/-- A store that has persons and refuses labels. New tables are hidden from the first checks.
-/
def unlabelled : Memory :=
  { ((previewStore {}).withTable "person" ["teamid"]).rejecting "label" 403 "no labels" with
    delay := 3 }

/-- It was set up by hand.
-/
theorem built_unlabelled : Built unlabelled :=
  .delay 3 (.rejection _ _ _ (.table _ _ (.publisher _ _ .empty)))

/-- What becomes of staffing where no label can be made: a team comes with its own, a person remains
without.
-/
theorem run_foreseen_unlabelled
    : staffing.compile "x" = .ok staffed
      ∧ Built unlabelled
      ∧ ∃ report after,
          (run staffed {}).run Memory.respond unlabelled = (.ok report, after)
          ∧ report.items.Perm
              [
                ⟨.solution, "SimQuipTables", .created⟩,
                ⟨.table, "person", .skipped⟩,
                ⟨.table, "team", .created⟩,
                ⟨.column, "person.label", .failed (.remote 403 "no labels")⟩,
                ⟨.relationship, "x_team_person_teamid", .skipped⟩,
                ⟨.relationship, "x_person_team_leadid", .created⟩,
                ⟨.component, "person", .created⟩,
                ⟨.component, "team", .created⟩
              ]
          ∧ (∀ name, foresee staffed {} unlabelled (.component name) ≠ .skipped)
          ∧ ∀ holding,
              after.holds holding = true
              ↔ unlabelled.holds holding = true
                ∨ (⟨.solution, "SimQuipTables", .created⟩ ∈ report.items
                  ∧ holding = .solution "SimQuipTables")
                ∨ ∃ task ∈ staffed.tasks,
                    task.item .created ∈ report.items ∧ holding ∈ task.holdings {} := by
  obtain ⟨report, after, ended, items, unskipped, holds⟩ :=
    @run_foreseen staffed {} unlabelled staffing "x" staffing_compiles built_unlabelled rfl
      (.inr (by decide +kernel)) (by decide +kernel)
  refine ⟨staffing_compiles, built_unlabelled, report, after, ended, items.trans (.of_eq ?_),
    unskipped, holds⟩
  decide +kernel

end Tablewright.Provision
