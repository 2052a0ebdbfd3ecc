import Tablewright.Proofs.Provision.Agenda
import Tablewright.Proofs.Runs

/-! The schedule of a run: one list of tasks, each of which becomes one item of the report. What
a run does about a task depends on nothing but the report so far.
-/

namespace Tablewright.Provision

open Dialogue (Course)
open Store (Call Protocol call)

-----------------------------------------------------------------------------------------
-- Tasks
-----------------------------------------------------------------------------------------

/-- Something that a run deals with once it knows about the solution.
-/
inductive Task
  | table (entity : Entity)
  | column (entity : Entity) (attr : Attribute)
  | relationship (link : Relationship)
  | component (name : String)
  deriving DecidableEq

namespace Task

/-- The item of a task.
-/
def item : Task → Outcome → ReportItem
  | .table entity, outcome => ⟨.table, entity.logicalName, outcome⟩
  | .column entity attr, outcome => columnItem entity attr outcome
  | .relationship link, outcome => ⟨.relationship, link.name, outcome⟩
  | .component name, outcome => ⟨.component, name, outcome⟩

/-- What a task tries to create, if anything.
-/
def attempt (settings : Settings) : Task → Attempt
  | .table entity => .table entity.logicalName
  | .column entity attr => .column entity.logicalName attr.logicalName
  | .relationship link => .relationship link.name
  | .component name => .component settings.solution.uniqueName (some name)

end Task

/-- The tasks of relationships, by their names.
-/
def relationshipTasks (compiled : CompiledSchema) (names : List String) : List Task :=
  (names.filterMap compiled.relationship?).map .relationship

/-- The tasks of a step: its table, then the table's columns, then the relationships of the step.
-/
def stepTasks (compiled : CompiledSchema) (step : Step) : List Task :=
  match compiled.entity? step.table with
  | none => []
  | some entity =>
    .table entity
      :: (entity.plainAttributes.map (.column entity)
        ++ relationshipTasks compiled step.relationships)

/-- The tasks of a run in their order: those of the steps, the relationships that were put off, and
the components.
-/
def schedule (compiled : CompiledSchema) : List Task :=
  compiled.plan.steps.flatMap (stepTasks compiled)
    ++ relationshipTasks compiled compiled.plan.deferred
    ++ compiled.plan.steps.map fun step => .component step.table

-----------------------------------------------------------------------------------------
-- Dealing with tasks
-----------------------------------------------------------------------------------------

/-- The tables that are present by a report, the latest first.
-/
def presentTables (report : List ReportItem) : List String :=
  ((report.filter fun item => item.kind == .table && item.outcome.isPresent).map
    (·.name)).reverse

/-- The solution is present by a report.
-/
def solutionIsPresent (report : List ReportItem) : Bool :=
  report.any fun item => item.kind == .solution && item.outcome.isPresent

/-- The task needs no item: a new table has its primary name already.
-/
def isExempt (report : List ReportItem) : Task → Bool
  | .column entity attr =>
    attr.isPrimaryName && decide (⟨.table, entity.logicalName, .created⟩ ∈ report)
  | _ => false

/-- Makes a column of a table that is present unless it is there.
-/
def pursueColumn (available : List String) (entity : Entity) (attr : Attribute)
    : Protocol Outcome :=
  if available.contains entity.logicalName then
    ensure (call (.columnExists entity.logicalName attr.logicalName))
      (call (.createColumn entity.logicalName attr))
  else
    return .blocked (.noTable entity.logicalName)

/-- Makes a relationship of tables that are present unless its lookup is there.
-/
def pursueRelationship (compiled : CompiledSchema) (available : List String)
    (relationship : Relationship)
    : Protocol Outcome :=
  match missingTable? available relationship with
  | some table => return .blocked (.noTable table)
  | none =>
    match compiled.lookup? relationship with
    | none => return .blocked (.noLookup relationship.referencingAttribute)
    | some lookup =>
      ensure
        (call (.columnExists relationship.referencingTable relationship.referencingAttribute))
        (call (.createRelationship relationship lookup))

/-- Makes a present table a component of a present solution unless it is one.
-/
def pursueComponent (settings : Settings) (solutionIsThere : Bool) (available : List String)
    (table : String)
    : Protocol Outcome :=
  if !solutionIsThere then
    return .blocked .noSolution
  else if !available.contains table then
    return .blocked (.noTable table)
  else
    addTable settings.solution.uniqueName table

/-- What is done about a task after a report so far.
-/
def pursue (compiled : CompiledSchema) (settings : Settings) (report : List ReportItem)
    : Task → Protocol Outcome
  | .table entity => ensureTable settings.provision entity
  | .column entity attr => pursueColumn (presentTables report) entity attr
  | .relationship relationship =>
    pursueRelationship compiled (presentTables report) relationship
  | .component table =>
    pursueComponent settings (solutionIsPresent report) (presentTables report) table

/-- Deals with tasks one after the other after a report so far, and gives the items that they add to
it.
-/
def perform (compiled : CompiledSchema) (settings : Settings)
    : List Task → List ReportItem → Protocol (List ReportItem)
  | [], _ => return []
  | task :: rest, report =>
    if isExempt report task then
      perform compiled settings rest report
    else do
      let outcome ← pursue compiled settings report task
      let items ← perform compiled settings rest (report ++ [task.item outcome])
      return task.item outcome :: items

variable {compiled : CompiledSchema} {settings : Settings} {report : List ReportItem}

/-- Tasks in a row are dealt with in a row.
-/
theorem perform_append (first later : List Task) (report : List ReportItem)
    : perform compiled settings (first ++ later) report
      = do
        let items ← perform compiled settings first report
        let others ← perform compiled settings later (report ++ items)
        return items ++ others := by
  induction first generalizing report with
  | nil => simp [perform]
  | cons task rest ih =>
      simp only [List.cons_append, perform]
      split
      · exact ih report
      · simp only [ih, bind_assoc, pure_bind, List.append_assoc, List.cons_append,
          List.nil_append]

/-- Every item that tasks add to a report is the item of one of them.
-/
theorem exists_task_of_course_perform {tasks : List Task} {history : History}
    {items : List ReportItem}
    (course : Course (perform compiled settings tasks report) history items)
    {item : ReportItem} (member : item ∈ items)
    : ∃ task ∈ tasks, ∃ outcome, item = task.item outcome := by
  induction tasks generalizing report history items with
  | nil =>
      obtain ⟨_, rfl⟩ := Dialogue.course_pure_iff.mp course
      cases member
  | cons task rest ih =>
      rw [perform] at course
      split at course
      · obtain ⟨other, listed, outcome, same⟩ := ih course member
        exact ⟨other, List.mem_cons_of_mem _ listed, outcome, same⟩
      · obtain ⟨_, outcome, _, _, continued, _⟩ := Dialogue.course_bind_iff.mp course
        obtain ⟨others, onward, rfl⟩ := Dialogue.course_bind_pure_iff.mp continued
        rcases List.mem_cons.mp member with rfl | later
        · exact ⟨task, List.mem_cons_self, outcome, rfl⟩
        · obtain ⟨other, listed, found, same⟩ := ih onward later
          exact ⟨other, List.mem_cons_of_mem _ listed, found, same⟩

/-- The item of a task is not that of the solution.
-/
theorem Task.kind_item_ne_solution (task : Task) (outcome : Outcome)
    : (task.item outcome).kind ≠ .solution := by
  cases task with
  | _ => exact ItemKind.noConfusion

/-- No task adds an item of the solution.
-/
theorem kind_ne_solution_of_course_perform {tasks : List Task} {history : History}
    {items : List ReportItem}
    (course : Course (perform compiled settings tasks report) history items)
    : ∀ item ∈ items, item.kind ≠ .solution := by
  intro item member
  obtain ⟨task, _, outcome, rfl⟩ := exists_task_of_course_perform course member
  exact task.kind_item_ne_solution outcome

-----------------------------------------------------------------------------------------
-- Reports
-----------------------------------------------------------------------------------------

/-- What is not present has failed or is blocked.
-/
theorem isPresent_eq_false_iff {outcome : Outcome}
    : outcome.isPresent = false ↔ outcome.isFailed = true ∨ outcome.isBlocked = true := by
  cases outcome with
  | _ => simp [Outcome.isPresent, Outcome.isFailed, Outcome.isBlocked]

/-- A report is clean when everything in it is present.
-/
theorem isClean_iff {report : Report}
    : report.isClean = true ↔ ∀ item ∈ report.items, item.outcome.isPresent = true := by
  simp only [Report.isClean, Report.failed, Report.blocked, Report.count, Bool.and_eq_true,
    beq_iff_eq, List.countP_eq_zero, ← forall_and, ← not_or, ← isPresent_eq_false_iff,
    Bool.not_eq_false]

/-- The item is neither that of the solution nor that of a table.
-/
def IsDetail (item : ReportItem) : Prop :=
  item.kind ≠ .solution ∧ item.kind ≠ .table

/-- A table is present exactly when some item says so.
-/
theorem mem_presentTables_iff {table : String}
    : table ∈ presentTables report
      ↔ ∃ outcome, ⟨.table, table, outcome⟩ ∈ report ∧ outcome.isPresent = true := by
  simp only [presentTables, List.mem_reverse, List.mem_map, List.mem_filter, Bool.and_eq_true,
    beq_iff_eq]
  constructor
  · intro listed
    obtain ⟨⟨kind, name, outcome⟩, ⟨member, rfl, present⟩, rfl⟩ := listed
    exact ⟨outcome, member, present⟩
  · intro reported
    obtain ⟨outcome, member, present⟩ := reported
    exact ⟨_, ⟨member, rfl, present⟩, rfl⟩

/-- A table that is reported is present from then on, if it is.
-/
theorem presentTables_append_table (report : List ReportItem) (table : String)
    (outcome : Outcome)
    : presentTables (report ++ [⟨.table, table, outcome⟩])
      = if outcome.isPresent then table :: presentTables report else presentTables report := by
  rw [presentTables, List.filter_append]
  cases present : outcome.isPresent with
  | _ => simp [present, presentTables]

/-- Details do not change which tables are present.
-/
theorem presentTables_append_details {details : List ReportItem}
    (plain : ∀ item ∈ details, IsDetail item)
    : presentTables (report ++ details) = presentTables report := by
  have none : details.filter (fun item => item.kind == .table && item.outcome.isPresent) = [] := by
    refine List.filter_eq_nil_iff.mpr fun item member => ?_
    simp [(plain item member).2]
  simp [presentTables, none]

/-- Items of anything but the solution do not change whether that is present.
-/
theorem solutionIsPresent_append {others : List ReportItem}
    (apart : ∀ item ∈ others, item.kind ≠ .solution)
    : solutionIsPresent (report ++ others) = solutionIsPresent report := by
  have none
      : (others.any fun item => item.kind == .solution && item.outcome.isPresent) = false := by
    refine List.any_eq_false.mpr fun item member => ?_
    simp [apart item member]
  simp [solutionIsPresent, none]

end Tablewright.Provision
