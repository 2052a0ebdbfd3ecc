import Tablewright.Proofs.Provision.Parts
import Tablewright.Proofs.Provision.Schedule

/-! A run deals with its schedule: after the solution, the nested rounds over steps, columns,
relationships and components come to dealing with one list of tasks.
-/

namespace Tablewright.Provision

open Dialogue (Course)
open Store (Call Protocol call)

variable {compiled : CompiledSchema} {settings : Settings} {report : List ReportItem}

-----------------------------------------------------------------------------------------
-- Tasks of one kind
-----------------------------------------------------------------------------------------

/-- Tasks that add nothing but details, and for which details change nothing, can be dealt with each
for itself.
Witness: induction on the list, with the details that were added before an element.
-/
theorem perform_map {α : Type} {task : α → Task} {part : α → Protocol Outcome}
    {keep : α → Bool} {list : List α}
    (plain : ∀ element outcome, IsDetail ((task element).item outcome))
    (same
      : ∀ details,
          (∀ item ∈ details, IsDetail item)
          → ∀ element ∈ list,
              isExempt (report ++ details) (task element) = !keep element
              ∧ (keep element = true
                  → pursue compiled settings (report ++ details) (task element) = part element))
    : perform compiled settings (list.map task) report
      = each (fun element => (task element).item <$> part element) (list.filter keep) := by
  induction list generalizing report with
  | nil => rfl
  | cons element rest ih =>
      obtain ⟨exempt, pursued⟩ := same [] (List.forall_mem_nil _) element List.mem_cons_self
      rw [List.append_nil] at exempt pursued
      rw [List.map_cons, perform, exempt]
      cases kept : keep element with
      | false =>
          rw [Bool.not_false, if_pos rfl, List.filter_cons_of_neg (by simp [kept])]
          exact ih fun details others other member =>
            same details others other (List.mem_cons_of_mem _ member)
      | true =>
          rw [Bool.not_true, if_neg Bool.false_ne_true, List.filter_cons_of_pos kept, each,
            pursued kept, bind_map_left]
          refine bind_congr fun outcome => ?_
          rw [ih]
          intro details others other member
          rw [List.append_assoc]
          refine same _ ?_ other (List.mem_cons_of_mem _ member)
          exact List.forall_mem_append.mpr
            ⟨List.forall_mem_singleton.mpr (plain element outcome), others⟩

/-- The relationships of some names are the tasks of these.
-/
theorem ensureRelationships_eq_perform (settings : Settings) (names : List String)
    : ensureRelationships compiled (presentTables report) names
      = perform compiled settings (relationshipTasks compiled names) report := by
  have deal : ensureRelationship compiled (presentTables report)
      = fun link =>
        (Task.relationship link).item
          <$> pursueRelationship compiled (presentTables report) link := by
    funext link
    rw [ensureRelationship, pursueRelationship]
    cases missingTable? (presentTables report) link with
    | some table => rfl
    | none =>
        cases compiled.lookup? link with
        | none => rfl
        | some lookup => exact (map_eq_pure_bind _ _).symm
  rw [ensureRelationships, deal, relationshipTasks, perform_map, List.filter_true]
  · exact fun _ _ => ⟨ItemKind.noConfusion, ItemKind.noConfusion⟩
  · intro details plain link _
    exact ⟨rfl, fun _ => by rw [pursue, presentTables_append_details plain]⟩

/-- The components of some tables are the tasks of these.
-/
theorem ensureComponents_eq_perform (tables : List String)
    : each (ensureComponent settings (solutionIsPresent report) (presentTables report)) tables
      = perform compiled settings (tables.map .component) report := by
  have deal : ensureComponent settings (solutionIsPresent report) (presentTables report)
      = fun table =>
        (Task.component table).item
          <$> pursueComponent settings (solutionIsPresent report) (presentTables report) table := by
    funext table
    rw [ensureComponent, pursueComponent]
    split
    · rfl
    split
    · rfl
    · exact (map_eq_pure_bind _ _).symm
  rw [deal, perform_map, List.filter_true]
  · exact fun _ _ => ⟨ItemKind.noConfusion, ItemKind.noConfusion⟩
  · intro details plain table _
    refine ⟨rfl, fun _ => ?_⟩
    rw [pursue, presentTables_append_details plain,
      solutionIsPresent_append fun item member => (plain item member).1]

-----------------------------------------------------------------------------------------
-- The columns of a table
-----------------------------------------------------------------------------------------

/-- Results that need nothing to be done are given as they are.
-/
theorem each_pure {α β : Type} (result : α → β) (list : List α)
    : each (fun element => (pure (result element) : Protocol β)) list
      = pure (list.map result) := by
  induction list with
  | nil => rfl
  | cons element rest ih => rw [each, ih, List.map_cons, pure_bind, pure_bind]

section Columns

variable {entity : Entity} {outcome : Outcome} {details : List ReportItem}

/-- A table that was reported once has the outcome of that item.
-/
theorem mem_reported_table_iff (outcome : Outcome)
    (fresh : ∀ item ∈ report, item.kind = .table → item.name ≠ entity.logicalName)
    (plain : ∀ item ∈ details, IsDetail item) (other : Outcome)
    : ⟨.table, entity.logicalName, other⟩
        ∈ report ++ [⟨.table, entity.logicalName, outcome⟩] ++ details
      ↔ other = outcome := by
  constructor
  · intro member
    rcases List.mem_append.mp member with before | detail
    · rcases List.mem_append.mp before with earlier | last
      · exact absurd rfl (fresh _ earlier rfl)
      · exact (ReportItem.mk.inj (List.mem_singleton.mp last)).2.2
    · exact absurd rfl (plain _ detail).2
  · rintro rfl
    simp

/-- The columns of a table are the tasks of these, when details change nothing for those that
are kept and all others are exempt.
-/
theorem perform_columns (keep : Attribute → Bool)
    (fresh : ∀ item ∈ report, item.kind = .table → item.name ≠ entity.logicalName)
    (kept : ∀ attr, keep attr = !(attr.isPrimaryName && decide (Outcome.created = outcome)))
    : perform compiled settings (entity.plainAttributes.map (.column entity))
        (report ++ [⟨.table, entity.logicalName, outcome⟩])
      = each
          (fun attr =>
            columnItem entity attr
              <$> pursueColumn
                (presentTables (report ++ [⟨.table, entity.logicalName, outcome⟩])) entity attr)
          (entity.plainAttributes.filter keep) := by
  refine perform_map (fun _ _ => ⟨ItemKind.noConfusion, ItemKind.noConfusion⟩) ?_
  intro details plain attr _
  constructor
  · simp only [isExempt, mem_reported_table_iff outcome fresh plain, kept, Bool.not_not]
  · intro _
    rw [pursue, presentTables_append_details plain]

/-- The columns of a table that has just been reported are the tasks of these.
-/
theorem ensureColumns_eq_perform (compiled : CompiledSchema) (settings : Settings)
    (fresh : ∀ item ∈ report, item.kind = .table → item.name ≠ entity.logicalName)
    : ensureColumns entity outcome
      = perform compiled settings (entity.plainAttributes.map (.column entity))
          (report ++ [⟨.table, entity.logicalName, outcome⟩]) := by
  have available
      : (presentTables (report ++ [⟨.table, entity.logicalName, outcome⟩])).contains
          entity.logicalName
        = outcome.isPresent := by
    have reported := mem_reported_table_iff outcome fresh (List.forall_mem_nil _)
    rw [List.append_nil] at reported
    rw [Bool.eq_iff_iff, List.contains_iff_mem, mem_presentTables_iff]
    simp only [reported, exists_eq_left]
  cases outcome with
  | created =>
      rw [perform_columns (fun attr => !attr.isPrimaryName) fresh (by simp)]
      refine congrArg (each · _) (funext fun attr => ?_)
      simp only [pursueColumn, available, Outcome.isPresent, if_true]
      exact (map_eq_pure_bind _ _).symm
  | skipped =>
      rw [perform_columns (fun _ => true) fresh (by simp), List.filter_true]
      refine congrArg (each · _) (funext fun attr => ?_)
      simp only [pursueColumn, available, Outcome.isPresent, if_true]
      exact (map_eq_pure_bind _ _).symm
  | failed | blocked =>
      rw [perform_columns (fun _ => true) fresh (by simp), List.filter_true]
      simp only [pursueColumn, available, Outcome.isPresent, Bool.false_eq_true, if_false]
      exact (each_pure _ _).symm

end Columns

-----------------------------------------------------------------------------------------
-- Steps and whole runs
-----------------------------------------------------------------------------------------

/-- The tasks of columns and relationships add details.
-/
theorem isDetail_of_course_perform {tasks : List Task} {history : History}
    {items : List ReportItem}
    (plain : ∀ task ∈ tasks, ∀ outcome, IsDetail (task.item outcome))
    (course : Course (perform compiled settings tasks report) history items)
    : ∀ item ∈ items, IsDetail item := by
  intro item member
  obtain ⟨task, listed, outcome, rfl⟩ := exists_task_of_course_perform course member
  exact plain task listed outcome

/-- The items of columns are details.
-/
theorem isDetail_columnTasks {entity : Entity}
    : ∀ task ∈ entity.plainAttributes.map (Task.column entity), ∀ outcome,
        IsDetail (task.item outcome) := by
  intro task listed outcome
  obtain ⟨attr, _, rfl⟩ := List.mem_map.mp listed
  exact ⟨ItemKind.noConfusion, ItemKind.noConfusion⟩

/-- The items of relationships are details.
-/
theorem isDetail_relationshipTasks {names : List String}
    : ∀ task ∈ relationshipTasks compiled names, ∀ outcome, IsDetail (task.item outcome) := by
  intro task listed outcome
  obtain ⟨link, _, rfl⟩ := List.mem_map.mp listed
  exact ⟨ItemKind.noConfusion, ItemKind.noConfusion⟩

/-- The steps deal with their tasks, and the tables that are available afterwards are those that are
present by the report.
Witness: induction on the steps; no table of a later step is reported before its turn.
-/
theorem takeSteps_eq_perform (report : List ReportItem) {steps : List Step}
    (distinct : (steps.map (·.table)).Nodup)
    (fresh : ∀ step ∈ steps, ∀ item ∈ report, item.kind = .table → item.name ≠ step.table)
    : takeSteps compiled settings (presentTables report) steps
      = do
        let items ← perform compiled settings (steps.flatMap (stepTasks compiled)) report
        return (items, presentTables (report ++ items)) := by
  induction steps generalizing report with
  | nil => simp [takeSteps, perform]
  | cons step rest ih =>
      rw [List.map_cons, List.nodup_cons] at distinct
      obtain ⟨before, later⟩ := List.forall_mem_cons.mp fresh
      rw [takeSteps, List.flatMap_cons, stepTasks]
      cases found : compiled.entity? step.table with
      | none => exact ih _ distinct.2 later
      | some entity =>
          have same : entity.logicalName = step.table := by simpa using List.find?_some found
          rw [← same] at before
          simp only [List.cons_append, perform, isExempt, Bool.false_eq_true, if_false, pursue,
            perform_append, bind_assoc, pure_bind]
          refine bind_congr fun outcome => ?_
          rw [← presentTables_append_table,
            ensureColumns_eq_perform compiled settings before]
          refine Dialogue.bind_congr_of_course fun {_ columns} filled => ?_
          have plainColumns := isDetail_of_course_perform isDetail_columnTasks filled
          rw [← presentTables_append_details plainColumns,
            ensureRelationships_eq_perform settings]
          refine Dialogue.bind_congr_of_course fun {_ relationships} related => ?_
          have plainLinks := isDetail_of_course_perform isDetail_relationshipTasks related
          have freshLater : ∀ other ∈ rest, ∀ item ∈ report
              ++ [⟨.table, entity.logicalName, outcome⟩] ++ columns ++ relationships,
              item.kind = .table → item.name ≠ other.table := by
            intro other member item reported isTable
            simp only [List.mem_append, List.mem_singleton] at reported
            rcases reported with ((earlier | rfl) | column) | link
            · exact later other member item earlier isTable
            · intro equal
              exact distinct.1 (List.mem_map.mpr ⟨other, member, by rw [← equal, ← same]⟩)
            · exact absurd isTable (plainColumns item column).2
            · exact absurd isTable (plainLinks item link).2
          rw [← presentTables_append_details plainLinks, ih _ distinct.2 freshLater]
          simp only [Task.item, bind_assoc, pure_bind, List.append_assoc, List.cons_append,
            List.nil_append]

/-- A run deals with its schedule once the store has been reached and the solution been dealt with.
-/
theorem run_eq_perform (wellFormed : compiled.WellFormed) (settings : Settings)
    : run compiled settings
      = do
        match ← call .whoAmI with
        | .error cause => return .error (.unreachable cause)
        | .ok _ =>
          match ← ensureSolution settings with
          | .error error => return .error error
          | .ok outcome =>
            let solution : ReportItem := ⟨.solution, settings.solution.uniqueName, outcome⟩
            let items ← perform compiled settings (schedule compiled) [solution]
            return .ok ⟨solution :: items⟩ := by
  rw [run]
  refine bind_congr fun user => ?_
  cases user with
  | error cause => rfl
  | ok name =>
      refine bind_congr fun result => ?_
      cases result with
      | error error => rfl
      | ok outcome =>
          have steps : takeSteps compiled settings [] compiled.plan.steps = _ :=
            takeSteps_eq_perform [⟨.solution, settings.solution.uniqueName, outcome⟩]
              wellFormed.steps_nodup
              fun step _ item reported isTable => by
                cases List.mem_singleton.mp reported
                cases isTable
          have ready : outcome.isPresent
              = solutionIsPresent [⟨.solution, settings.solution.uniqueName, outcome⟩] := by
            simp [solutionIsPresent]
          rw [schedule]
          simp only [steps, ready, perform_append, bind_assoc, pure_bind, List.append_assoc]
          refine Dialogue.bind_congr_of_course fun {_ items} taken => ?_
          rw [ensureRelationships_eq_perform settings]
          refine Dialogue.bind_congr_of_course fun {_ deferred} related => ?_
          have plain := isDetail_of_course_perform isDetail_relationshipTasks related
          rw [← presentTables_append_details plain,
            ← solutionIsPresent_append (kind_ne_solution_of_course_perform taken),
            ← solutionIsPresent_append (kind_ne_solution_of_course_perform related),
            ensureComponents_eq_perform, List.map_map]
          simp only [List.append_assoc]
          rfl

end Tablewright.Provision
