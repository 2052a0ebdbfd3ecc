import Tablewright.Proofs.Provision.Yields

/-! Foresight: what a settled store has and refuses in the beginning tells what will become of every
task, and what the store will gain by it.
-/

namespace Tablewright.Provision

open Store (Holding Memory)
open Store.Memory (Gains)

-----------------------------------------------------------------------------------------
-- Outcomes that can be foreseen
-----------------------------------------------------------------------------------------

/-- A table is there, or it will be made.
-/
def isAvailable (memory : Memory) (table : String) : Bool :=
  memory.holds (.table table) || (memory.rejections.get? table).isNone

/-- The lookup of a relationship is the primary name of its table, and the table will come with it.
-/
def comesWithTable (compiled : CompiledSchema) (memory : Memory) (link : Relationship) : Bool :=
  !memory.holds (.table link.referencingTable)
    && (compiled.entity? link.referencingTable).any fun entity =>
      entity.primary.name == link.referencingAttribute

/-- What will become of the solution.
-/
def foreseeSolution (settings : Settings) (memory : Memory) : Outcome :=
  judge (memory.holds (.solution settings.solution.uniqueName))
    (memory.rejections.get? settings.solution.uniqueName)

/-- What will become of a task.
-/
def foresee (compiled : CompiledSchema) (settings : Settings) (memory : Memory) : Task → Outcome
  | .table entity =>
    judge (memory.holds (.table entity.logicalName)) (memory.rejections.get? entity.logicalName)
  | .column entity attr =>
    if isAvailable memory entity.logicalName then
      judge (memory.holds (.column entity.logicalName attr.logicalName))
        (memory.rejections.get? attr.logicalName)
    else
      .blocked (.noTable entity.logicalName)
  | .relationship link =>
    match [link.referencedTable, link.referencingTable].find? fun table =>
      !isAvailable memory table with
    | some table => .blocked (.noTable table)
    | none =>
      judge
        (memory.holds (.column link.referencingTable link.referencingAttribute)
          || comesWithTable compiled memory link)
        (memory.rejections.get? link.name)
  | .component name =>
    if !(foreseeSolution settings memory).isPresent then
      .blocked .noSolution
    else if !isAvailable memory name then
      .blocked (.noTable name)
    else
      judge (memory.holds (.component settings.solution.uniqueName name)) none

/-- A task will have an item: all have but the primary names of tables that will be new.
-/
def isDue (compiled : CompiledSchema) (settings : Settings) (memory : Memory) : Task → Bool
  | .column entity attr =>
    !(attr.isPrimaryName && foresee compiled settings memory (.table entity) == .created)
  | _ => true

/-- What a store has once a task has created what it stands for. A new table comes with its primary
name, and a relationship with its lookup.
-/
def Task.holdings (settings : Settings) : Task → List Holding
  | .table entity =>
    [.table entity.logicalName, .column entity.logicalName entity.primary.name]
  | .column entity attr => [.column entity.logicalName attr.logicalName]
  | .relationship link =>
    [.relationship link.name, .column link.referencingTable link.referencingAttribute]
  | .component name => [.component settings.solution.uniqueName name]

/-- The items that tasks will have.
-/
def foreseenItems (compiled : CompiledSchema) (settings : Settings) (memory : Memory)
    (tasks : List Task)
    : List ReportItem :=
  (tasks.filter (isDue compiled settings memory)).map fun task =>
    task.item (foresee compiled settings memory task)

/-- The report once some tasks have been dealt with.
-/
def foreseenReport (compiled : CompiledSchema) (settings : Settings) (memory : Memory)
    (tasks : List Task)
    : List ReportItem :=
  ⟨.solution, settings.solution.uniqueName, foreseeSolution settings memory⟩
    :: foreseenItems compiled settings memory tasks

/-- What the store will gain by the solution.
-/
def solutionGains (settings : Settings) (memory : Memory) : List Holding :=
  if foreseeSolution settings memory = .created then
    [.solution settings.solution.uniqueName]
  else
    []

/-- What the store will gain by tasks.
-/
def foreseenGains (compiled : CompiledSchema) (settings : Settings) (memory : Memory)
    (tasks : List Task)
    : List Holding :=
  (tasks.filter fun task =>
    isDue compiled settings memory task
      && foresee compiled settings memory task == .created).flatMap
    (Task.holdings settings)

/-- What the store will have gained once some tasks have been dealt with.
-/
def runGains (compiled : CompiledSchema) (settings : Settings) (memory : Memory)
    (tasks : List Task)
    : List Holding :=
  solutionGains settings memory ++ foreseenGains compiled settings memory tasks

/-- What a run looks for on behalf of a task.
-/
def Task.goal (settings : Settings) : Task → Holding
  | .table entity => .table entity.logicalName
  | .column entity attr => .column entity.logicalName attr.logicalName
  | .relationship link => .column link.referencingTable link.referencingAttribute
  | .component name => .component settings.solution.uniqueName name

/-- What a run looks for on behalf of a task is the primary name of a table that will be new.
-/
def ComesAlong (compiled : CompiledSchema) (settings : Settings) (memory : Memory) (task : Task)
    : Prop :=
  ∃ entity ∈ compiled.entities,
    foresee compiled settings memory (.table entity) = .created
    ∧ task.goal settings = .column entity.logicalName entity.primary.name

/-- A run will have an item for a task, which says that it was created.
-/
def IsCreated (compiled : CompiledSchema) (settings : Settings) (memory : Memory) (task : Task)
    : Prop :=
  isDue compiled settings memory task = true
  ∧ foresee compiled settings memory task = .created

variable {compiled : CompiledSchema} {settings : Settings}
variable {memory middle : Memory} {tasks : List Task} {task : Task} {holding : Holding}

/-- An available table will be present.
-/
theorem isPresent_foresee_table (compiled : CompiledSchema) (settings : Settings)
    (memory : Memory) (entity : Entity)
    : (foresee compiled settings memory (.table entity)).isPresent
      = isAvailable memory entity.logicalName := by
  rw [foresee, isPresent_judge, isAvailable]

/-- What tasks bring is what those of them bring that will be created.
-/
theorem mem_foreseenGains_iff
    : holding ∈ foreseenGains compiled settings memory tasks
      ↔ ∃ task ∈ tasks,
          isDue compiled settings memory task = true
          ∧ foresee compiled settings memory task = .created
          ∧ holding ∈ task.holdings settings := by
  simp only [foreseenGains, List.mem_flatMap, List.mem_filter, Bool.and_eq_true, beq_iff_eq,
    and_assoc]

/-- The solution brings nothing but itself.
-/
theorem mem_solutionGains_iff
    : holding ∈ solutionGains settings memory
      ↔ foreseeSolution settings memory = .created
        ∧ holding = .solution settings.solution.uniqueName := by
  rw [solutionGains]
  split
  · next created => simp [created]
  · next uncreated => simp [uncreated]

/-- Which tasks bring what.
-/
theorem Task.mem_holdings_iff
    : holding ∈ task.holdings settings
      ↔ match holding with
        | .solution _ => False
        | .table name => ∃ entity, task = .table entity ∧ entity.logicalName = name
        | .column owner name =>
          (∃ entity,
            task = .table entity ∧ entity.logicalName = owner ∧ entity.primary.name = name)
          ∨ (∃ entity attr,
            task = .column entity attr
            ∧ entity.logicalName = owner
            ∧ attr.logicalName = name)
          ∨ ∃ link, task = .relationship link ∧ link.source = ⟨owner, name⟩
        | .relationship name => ∃ link, task = .relationship link ∧ link.name = name
        | .component solution name =>
          settings.solution.uniqueName = solution ∧ task = .component name := by
  cases task with
  | _ =>
      cases holding with
      | _ => simp [holdings, Relationship.source, eq_comm]

/-- The store has the solution when that is present, whatever else it has gained.
-/
theorem holds_solution_of_gains
    (gains : Gains memory middle (runGains compiled settings memory tasks))
    (ready : (foreseeSolution settings memory).isPresent = true)
    : middle.holds (.solution settings.solution.uniqueName) = true := by
  rw [gains.holds, runGains, List.mem_append, mem_solutionGains_iff]
  rw [foreseeSolution, isPresent_judge, Bool.or_eq_true, Option.isNone_iff_eq_none] at ready
  cases there : memory.holds (.solution settings.solution.uniqueName) with
  | true => exact .inl rfl
  | false =>
      rw [there] at ready
      have unrefused := ready.resolve_left Bool.false_ne_true
      exact .inr (.inl ⟨judge_eq_created_iff.mpr ⟨there, unrefused⟩, rfl⟩)

-----------------------------------------------------------------------------------------
-- What brings what a task looks for
-----------------------------------------------------------------------------------------

/-- A task brings what it looks for.
-/
theorem Task.goal_mem_holdings (task : Task) : task.goal settings ∈ task.holdings settings := by
  cases task with
  | _ => simp [goal, holdings]

/-- No task looks for the solution.
-/
theorem Task.goal_ne_solution (task : Task) (name : String)
    : task.goal settings ≠ .solution name := by
  cases task with
  | _ => exact Holding.noConfusion

/-- A task that looks for a column needs the table of that.
-/
theorem Task.mem_needs_of_goal {owner name : String}
    (goal : task.goal settings = .column owner name)
    : owner ∈ task.needs := by
  cases task with
  | table | component => cases goal
  | column | relationship =>
      rw [← (Holding.column.inj goal).1]
      simp [needs]

/-- What is not a column does not come along with a table.
-/
theorem not_comesAlong (apart : ∀ owner name, task.goal settings ≠ .column owner name)
    : ¬ComesAlong compiled settings memory task := by
  intro along
  obtain ⟨entity, _, _, goal⟩ := along
  exact apart _ _ goal

/-- The primary name of a new table comes without an item of its own.
-/
theorem comesAlong_column_iff (coherent : compiled.Coherent) {entity : Entity}
    {attr : Attribute} (asked : .column entity attr ∈ compiled.tasks)
    : ComesAlong compiled settings memory (.column entity attr)
      ↔ isDue compiled settings memory (.column entity attr) = false := by
  obtain ⟨listed, plain⟩ := mem_tasks_iff.mp asked
  have primary := coherent.primary entity listed attr (List.mem_of_mem_filter plain)
  rw [isDue, Bool.not_eq_false', Bool.and_eq_true, beq_iff_eq, primary]
  constructor
  · intro along
    obtain ⟨other, there, created, goal⟩ := along
    obtain ⟨same, named⟩ := Holding.column.inj goal
    obtain rfl := List.inj_on_of_nodup_map coherent.entities listed there same
    exact ⟨named, created⟩
  · intro exempt
    refine ⟨entity, listed, exempt.2, ?_⟩
    rw [Task.goal, exempt.1]

/-- Where the table of a relationship is available, the lookup comes along when it is the
primary name of that and the table is new.
-/
theorem comesAlong_relationship_iff (coherent : compiled.Coherent) (settings : Settings)
    {link : Relationship}
    (available : isAvailable memory link.referencingTable = true)
    : ComesAlong compiled settings memory (.relationship link)
      ↔ comesWithTable compiled memory link = true := by
  rw [comesWithTable, Bool.and_eq_true, Bool.not_eq_true', Option.any_eq_true]
  constructor
  · intro along
    obtain ⟨entity, member, created, goal⟩ := along
    obtain ⟨same, named⟩ := Holding.column.inj goal
    rw [same]
    refine ⟨(judge_eq_created_iff.mp created).1, entity, ?_, beq_iff_eq.mpr named.symm⟩
    exact coherent.entity?_eq_some_iff.mpr ⟨member, rfl⟩
  · intro along
    obtain ⟨absent, entity, found, named⟩ := along
    obtain ⟨member, same⟩ := coherent.entity?_eq_some_iff.mp found
    rw [isAvailable, absent, Bool.false_or, Option.isNone_iff_eq_none] at available
    refine ⟨entity, member, ?_, ?_⟩
    · rw [foresee, same]
      exact judge_eq_created_iff.mpr ⟨absent, available⟩
    · rw [Task.goal, ← same, beq_iff_eq.mp named]

/-- What a task looks for is brought by that task alone, unless it is the primary name of a table.
-/
theorem eq_or_primary_of_mem_holdings (coherent : compiled.Coherent) {other : Task}
    (asked : task ∈ compiled.tasks) (too : other ∈ compiled.tasks)
    (brings : task.goal settings ∈ other.holdings settings)
    : other = task
      ∨ ∃ entity,
          other = .table entity
          ∧ task.goal settings = .column entity.logicalName entity.primary.name := by
  have own := mem_tasks_iff.mp asked
  have cause := Task.mem_holdings_iff.mp brings
  cases task with
  | table entity =>
      obtain ⟨another, rfl, same⟩ := cause
      rw [List.inj_on_of_nodup_map coherent.entities (mem_tasks_iff.mp too) own same]
      exact .inl rfl
  | column entity attr =>
      rcases cause with ⟨another, rfl, same, named⟩ | ⟨another, column, rfl, same, named⟩
        | ⟨link, rfl, source⟩
      · exact .inr ⟨another, rfl, by rw [Task.goal, same, named]⟩
      · have there := mem_tasks_iff.mp too
        obtain rfl := List.inj_on_of_nodup_map coherent.entities there.1 own.1 same
        obtain rfl := List.inj_on_of_nodup_map (coherent.attributes another own.1)
          (List.mem_of_mem_filter there.2) (List.mem_of_mem_filter own.2) named
        exact .inl rfl
      · exact absurd source (coherent.source_ne_of_plain own.1 own.2 (mem_tasks_iff.mp too))
  | relationship link =>
      rcases cause with ⟨another, rfl, same, named⟩ | ⟨another, column, rfl, same, named⟩
        | ⟨another, rfl, source⟩
      · exact .inr ⟨another, rfl, by rw [Task.goal, same, named]⟩
      · have there := mem_tasks_iff.mp too
        refine absurd ?_ (coherent.source_ne_of_plain there.1 there.2 own)
        rw [Relationship.source, same, named]
      · rw [coherent.eq_of_source_eq (mem_tasks_iff.mp too) own source]
        exact .inl rfl
  | component name =>
      exact .inl cause.2

-----------------------------------------------------------------------------------------
-- What is created
-----------------------------------------------------------------------------------------

/-- A task that does not come along with a table has an item.
-/
theorem isDue_of_not_comesAlong (coherent : compiled.Coherent) (asked : task ∈ compiled.tasks)
    (alone : ¬ComesAlong compiled settings memory task)
    : isDue compiled settings memory task = true := by
  cases task with
  | column entity attr =>
      rw [comesAlong_column_iff coherent asked, Bool.not_eq_false] at alone
      exact alone
  | table | relationship | component => rfl

/-- A task that has an item is blocked, or the tables that it needs are available and its item says
whether it was there.
-/
theorem foresee_cases (coherent : compiled.Coherent) (asked : task ∈ compiled.tasks)
    (due : isDue compiled settings memory task = true)
    : (∃ obstacle, foresee compiled settings memory task = .blocked obstacle)
      ∨ (∀ table ∈ task.needs, isAvailable memory table = true)
        ∧ ∃ isThere refusal,
            foresee compiled settings memory task = judge isThere refusal
            ∧ (isThere = true
              ↔ memory.holds (task.goal settings) = true
                ∨ ComesAlong compiled settings memory task) := by
  cases task with
  | table entity =>
      have alone : ¬ComesAlong compiled settings memory (.table entity) :=
        not_comesAlong fun _ _ => Holding.noConfusion
      exact .inr ⟨List.forall_mem_nil _, _, _, rfl, (or_iff_left alone).symm⟩
  | column entity attr =>
      rw [foresee, comesAlong_column_iff coherent asked, due]
      cases available : isAvailable memory entity.logicalName with
      | false => exact .inl ⟨_, rfl⟩
      | true =>
          refine .inr ⟨?_, _, _, rfl, by simp [Task.goal]⟩
          intro table needed
          rw [List.mem_singleton.mp needed, available]
  | relationship link =>
      rw [foresee]
      cases lacking : [link.referencedTable, link.referencingTable].find? fun table =>
          !isAvailable memory table with
      | some table => exact .inl ⟨_, rfl⟩
      | none =>
          have available := List.find?_eq_none.mp lacking
          simp only [Bool.not_eq_true', Bool.not_eq_false] at available
          refine .inr ⟨available, _, _, rfl, ?_⟩
          rw [Bool.or_eq_true, comesAlong_relationship_iff coherent settings
            (available _ (List.mem_cons_of_mem _ List.mem_cons_self))]
          rfl
  | component name =>
      rw [foresee]
      split
      · exact .inl ⟨_, rfl⟩
      split
      · exact .inl ⟨_, rfl⟩
      next available =>
        rw [Bool.not_eq_true', Bool.not_eq_false] at available
        have alone : ¬ComesAlong compiled settings memory (.component name) :=
          not_comesAlong fun _ _ => Holding.noConfusion
        refine .inr ⟨?_, _, _, rfl, (or_iff_left alone).symm⟩
        intro table needed
        rw [List.mem_singleton.mp needed, available]

/-- What is created is not there, does not come along, and has the tables that it needs.
-/
theorem IsCreated.elim (coherent : compiled.Coherent) (asked : task ∈ compiled.tasks)
    (created : IsCreated compiled settings memory task)
    : memory.holds (task.goal settings) = false
      ∧ ¬ComesAlong compiled settings memory task
      ∧ ∀ table ∈ task.needs, isAvailable memory table = true := by
  rcases foresee_cases coherent asked created.1 with ⟨_, blocked⟩
    | ⟨available, _, _, judged, there⟩
  · cases blocked.symm.trans created.2
  · have absent := (judge_eq_created_iff.mp (judged.symm.trans created.2)).1
    rw [absent, iff_comm, iff_false_right Bool.false_ne_true, not_or, Bool.not_eq_true] at there
    exact ⟨there.1, there.2, available⟩

/-- What is skipped is there, or it comes along.
-/
theorem holds_or_comesAlong_of_skipped (coherent : compiled.Coherent)
    (asked : task ∈ compiled.tasks) (due : isDue compiled settings memory task = true)
    (skipped : foresee compiled settings memory task = .skipped)
    : memory.holds (task.goal settings) = true ∨ ComesAlong compiled settings memory task := by
  rcases foresee_cases coherent asked due with ⟨_, blocked⟩ | ⟨_, _, _, judged, there⟩
  · cases blocked.symm.trans skipped
  · exact there.mp (judge_eq_skipped_iff.mp (judged.symm.trans skipped))

end Tablewright.Provision
