import Tablewright.Proofs.Provision.Order
import Tablewright.Proofs.Provision.Performance
import Tablewright.Proofs.Provision.Reckoning

/-! Accounts of runs: whatever a store answers, the report of a run has one item for everything
that the schema asks for, and says of it what the history bears out.
-/

namespace Tablewright.Provision

open Dialogue (Course)

variable {compiled : CompiledSchema} {settings : Settings} {task : Task} {history : History}

-----------------------------------------------------------------------------------------
-- Accounts of whole runs
-----------------------------------------------------------------------------------------

/-- A run that comes to a report has reached the store, dealt with the solution, and then with its
schedule.
-/
theorem course_run_ok (wellFormed : compiled.WellFormed) {report : Report}
    (course : Course (run compiled settings) history (.ok report))
    : ∃ user first outcome later items,
        Course (ensureSolution settings) first (.ok outcome)
        ∧ Course
            (perform compiled settings (schedule compiled)
              [⟨.solution, settings.solution.uniqueName, outcome⟩])
            later items
        ∧ history = ⟨.whoAmI, .ok user⟩ :: (first ++ later)
        ∧ report.items = ⟨.solution, settings.solution.uniqueName, outcome⟩ :: items := by
  rw [run_eq_perform wellFormed] at course
  obtain ⟨user, _, greeted, rfl⟩ := course_call_bind_iff.mp course
  cases user with
  | error cause => cases (Dialogue.course_pure_iff.mp greeted).2
  | ok user =>
      obtain ⟨first, solution, _, ensured, continued, rfl⟩ := Dialogue.course_bind_iff.mp greeted
      cases solution with
      | error error => cases (Dialogue.course_pure_iff.mp continued).2
      | ok outcome =>
          obtain ⟨items, performed, same⟩ := Dialogue.course_bind_pure_iff.mp continued
          cases same
          exact ⟨user, first, outcome, _, items, ensured, performed, rfl, rfl⟩

/-- The topic of the solution is that of no task.
-/
theorem solutionTopic_ne (task : Task)
    : (solutionTopic settings).sought ≠ (task.topic settings).sought
      ∧ (solutionTopic settings).attempt ≠ (task.topic settings).attempt := by
  cases task with
  | _ => exact ⟨Attempt.noConfusion, Attempt.noConfusion⟩

/-- A task tells its items apart from those of the solution.
-/
theorem Task.key_ne_solution (task : Task) (name : String) : task.key ≠ (.solution, name) := by
  cases task with
  | _ => exact fun same => ItemKind.noConfusion (Prod.mk.inj same).1

section Finished

variable {report : Report}
variable (coherent : compiled.Coherent)
variable (course : Course (run compiled settings) history (.ok report))
include coherent course

/-- After a run a task is exempt, and neither the report nor the history says anything about it,
or it has an account.
-/
theorem account_of_course_run (asked : task ∈ compiled.tasks)
    : (isExempt report.items task = true
        ∧ (∀ outcome, task.item outcome ∉ report.items)
        ∧ (task.topic settings).dossier [] history = [])
      ∨ (isExempt report.items task = false
        ∧ ∃ outcome, Account settings [] history report.items task outcome) := by
  obtain ⟨user, first, outcome, later, items, ensured, performed, rfl, reported⟩ :=
    course_run_ok coherent.toWellFormed course
  have solution := recounts_ensureSolution [⟨.whoAmI, .ok user⟩] ensured
  have dossier : (task.topic settings).dossier [] (⟨.whoAmI, .ok user⟩ :: (first ++ later))
      = (task.topic settings).dossier ([⟨.whoAmI, .ok user⟩] ++ first) later := by
    rw [dossier_cons_of_idle rfl rfl, List.nil_append, dossier_append,
      solution.confined.dossier_eq_nil (solutionTopic_ne task).1.symm
        (solutionTopic_ne task).2.symm, List.nil_append]
  have account := account_of_course_perform ([⟨.whoAmI, .ok user⟩] ++ first) coherent
    (List.forall_mem_singleton.mpr rfl) (mem_schedule_of_mem_tasks coherent asked) performed
  rw [List.singleton_append, ← reported, ← dossier] at account
  rcases account with exempt | ⟨due, outcome, own⟩
  · exact .inl exempt
  · refine .inr ⟨due, outcome, own.item, ?_, ?_, own.blocked, own.lookup⟩
    · rw [dossier]
      exact own.created
    · rw [dossier]
      exact own.skipped

/-- What is said to have become of a task is what its account says.
-/
theorem account_of_item_mem {outcome : Outcome} (asked : task ∈ compiled.tasks)
    (member : task.item outcome ∈ report.items)
    : Account settings [] history report.items task outcome := by
  rcases account_of_course_run coherent course asked with ⟨_, absent, _⟩ | ⟨_, other, account⟩
  · exact absurd member (absent outcome)
  · obtain rfl := (account.item outcome).mp member
    exact account

/-- A table that is not present is one whose item says that it failed.
-/
theorem absent_iff_failed {entity : Entity} (listed : entity ∈ compiled.entities)
    : entity.logicalName ∉ presentTables report.items
      ↔ ∃ cause, ⟨.table, entity.logicalName, .failed cause⟩ ∈ report.items := by
  have asked : .table entity ∈ compiled.tasks := mem_tasks_iff.mpr listed
  rcases account_of_course_run coherent course asked with ⟨exempt, _⟩ | ⟨_, outcome, account⟩
  · cases exempt
  have unblocked : ¬ outcome.isBlocked = true := by
    rw [account.blocked fun _ => Task.noConfusion]
    simp [Task.needs]
  have item (other : Outcome)
      : ⟨.table, entity.logicalName, other⟩ ∈ report.items ↔ other = outcome :=
    account.item other
  simp only [mem_presentTables_iff, item, exists_eq_left]
  cases outcome with
  | blocked obstacle => exact absurd rfl unblocked
  | created | skipped | failed => simp [Outcome.isPresent]

/-- A task other than a component is blocked exactly when a table that it needs has failed.
-/
theorem blocked_iff_failed {outcome : Outcome} (asked : task ∈ compiled.tasks)
    (plain : ∀ name, task ≠ .component name) (member : task.item outcome ∈ report.items)
    : outcome.isBlocked = true
      ↔ ∃ table ∈ task.needs, ∃ cause, ⟨.table, table, .failed cause⟩ ∈ report.items := by
  rw [(account_of_item_mem coherent course asked member).blocked plain]
  refine exists_congr fun table => and_congr_right fun needed => ?_
  obtain ⟨entity, listed, rfl⟩ := exists_entity_of_needs coherent asked needed
  exact absent_iff_failed coherent course listed

/-- The items of a run are those of the solution and of the tasks that are not exempt.
-/
theorem items_perm
    : (report.items.map itemKey).Perm
        ((.solution, settings.solution.uniqueName)
          :: (compiled.tasks.filter fun task => !isExempt report.items task).map Task.key) := by
  obtain ⟨_, _, outcome, _, items, _, performed, _, reported⟩ :=
    course_run_ok coherent.toWellFormed course
  have tasks : (compiled.tasks.map Task.key).Nodup :=
    ((schedule_perm coherent).map _).nodup_iff.mp (keys_nodup coherent)
  have distinct := (keys_nodup coherent).sublist (map_itemKey_sublist performed)
  have others := tasks.sublist
    ((List.filter_sublist (p := fun task => !isExempt report.items task)).map Task.key)
  have keys : report.items.map itemKey
      = (.solution, settings.solution.uniqueName) :: items.map itemKey := by
    rw [reported]
    rfl
  rw [keys]
  refine ((List.perm_ext_iff_of_nodup distinct others).mpr fun key => ?_).cons _
  simp only [List.mem_map, List.mem_filter, Bool.not_eq_true']
  constructor
  · intro listed
    obtain ⟨item, member, rfl⟩ := listed
    obtain ⟨task, scheduled, outcome, rfl⟩ := exists_task_of_course_perform performed member
    have asked := mem_tasks_of_mem_schedule coherent scheduled
    refine ⟨task, ⟨asked, ?_⟩, (task.itemKey_item outcome).symm⟩
    rcases account_of_course_run coherent course asked with ⟨_, absent, _⟩ | ⟨due, _⟩
    · refine absurd ?_ (absent outcome)
      rw [reported]
      exact List.mem_cons_of_mem _ member
    · exact due
  · intro due
    obtain ⟨task, ⟨asked, due⟩, rfl⟩ := due
    rcases account_of_course_run coherent course asked with ⟨exempt, _⟩ | ⟨_, outcome, account⟩
    · rw [exempt] at due
      cases due
    · have member := (account.item outcome).mpr rfl
      rw [reported] at member
      rcases List.mem_cons.mp member with same | member
      · exact absurd (congrArg itemKey same)
          (task.itemKey_item outcome ▸ task.key_ne_solution _)
      · exact ⟨_, member, task.itemKey_item outcome⟩

/-- No two items of a run have the same key.
-/
theorem items_nodup : (report.items.map itemKey).Nodup := by
  have tasks : (compiled.tasks.map Task.key).Nodup :=
    ((schedule_perm coherent).map _).nodup_iff.mp (keys_nodup coherent)
  refine (items_perm coherent course).nodup_iff.mpr (List.nodup_cons.mpr ⟨?_, ?_⟩)
  · intro member
    obtain ⟨task, _, same⟩ := List.mem_map.mp member
    exact task.key_ne_solution _ same
  · exact tasks.sublist (List.filter_sublist.map Task.key)

/-- The history of a run bears out what its report says about the solution.
-/
theorem solution_account
    : (⟨.solution, settings.solution.uniqueName, .created⟩ ∈ report.items
        ↔ made false ((solutionTopic settings).dossier [] history) = true)
      ∧ (⟨.solution, settings.solution.uniqueName, .skipped⟩ ∈ report.items
        ↔ found ((solutionTopic settings).dossier [] history) = true) := by
  obtain ⟨user, first, outcome, later, items, ensured, performed, rfl, reported⟩ :=
    course_run_ok coherent.toWellFormed course
  have recounts := recounts_ensureSolution [⟨.whoAmI, .ok user⟩] ensured
  have dossier : (solutionTopic settings).dossier [] (⟨.whoAmI, .ok user⟩ :: (first ++ later))
      = (solutionTopic settings).dossier [⟨.whoAmI, .ok user⟩] first := by
    rw [dossier_cons_of_idle rfl rfl, List.nil_append, dossier_append,
      dossier_eq_nil_of_course_perform (fun task _ => solutionTopic_ne task) performed,
      List.append_nil]
  have item (other : Outcome)
      : ⟨.solution, settings.solution.uniqueName, other⟩ ∈ report.items ↔ outcome = other := by
    rw [reported, List.mem_cons]
    constructor
    · intro said
      rcases said with same | late
      · exact (ReportItem.mk.inj same).2.2.symm
      · exact absurd rfl (kind_ne_solution_of_course_perform performed _ late)
    · rintro rfl
      exact .inl rfl
  rw [item, item, dossier]
  exact ⟨recounts.created, recounts.skipped⟩

/-- Nothing is blocked for want of a lookup.
-/
theorem ne_noLookup_of_course_run
    : ∀ item ∈ report.items, ∀ column, item.outcome ≠ .blocked (.noLookup column) := by
  intro item member column
  obtain ⟨_, _, outcome, _, items, ensured, performed, _, reported⟩ :=
    course_run_ok coherent.toWellFormed course
  have reports := member
  rw [reported] at member
  rcases List.mem_cons.mp member with rfl | later
  · intro same
    have unblocked := not_blocked_of_course_ensureSolution ensured
    rw [show outcome = .blocked (.noLookup column) from same] at unblocked
    cases unblocked
  · obtain ⟨task, scheduled, outcome, rfl⟩ := exists_task_of_course_perform performed later
    have own := account_of_item_mem coherent course (mem_tasks_of_mem_schedule coherent scheduled)
      reports
    cases task with
    | _ => exact own.lookup column

end Finished

/-- A report accounts for a run. It has one item for the solution and for every task, but for the
primary names of new tables; an item says that something was made or found exactly when the history
does; columns are blocked by their own table only, and relationships by the tables at their ends.
-/
structure Accounts (compiled : CompiledSchema) (settings : Settings) (history : History)
    (report : Report)
    : Prop where
  items
    : (report.items.map itemKey).Perm
        ((.solution, settings.solution.uniqueName)
          :: (compiled.tasks.filter fun task => !isExempt report.items task).map Task.key)
  once : (report.items.map itemKey).Nodup
  solutionCreated
    : ⟨.solution, settings.solution.uniqueName, .created⟩ ∈ report.items
      ↔ made false ((solutionTopic settings).dossier [] history) = true
  solutionSkipped
    : ⟨.solution, settings.solution.uniqueName, .skipped⟩ ∈ report.items
      ↔ found ((solutionTopic settings).dossier [] history) = true
  created
    : ∀ task ∈ compiled.tasks,
        task.item .created ∈ report.items
        ↔ made task.isAwaited ((task.topic settings).dossier [] history) = true
  skipped
    : ∀ task ∈ compiled.tasks,
        task.item .skipped ∈ report.items
        ↔ found ((task.topic settings).dossier [] history) = true
  tables
    : ∀ entity ∈ compiled.entities,
        ∀ outcome, ⟨.table, entity.logicalName, outcome⟩ ∈ report.items
          → outcome.isBlocked = false
  columns
    : ∀ entity ∈ compiled.entities,
        ∀ attr ∈ entity.plainAttributes,
          ∀ outcome, columnItem entity attr outcome ∈ report.items
            → (outcome.isBlocked = true
              ↔ ∃ cause, ⟨.table, entity.logicalName, .failed cause⟩ ∈ report.items)
  relationships
    : ∀ link ∈ compiled.relationships,
        ∀ outcome, ⟨.relationship, link.name, outcome⟩ ∈ report.items
          → (outcome.isBlocked = true
            ↔ ∃ table ∈ [link.referencedTable, link.referencingTable],
                ∃ cause, ⟨.table, table, .failed cause⟩ ∈ report.items)
  lookups : ∀ item ∈ report.items, ∀ column, item.outcome ≠ .blocked (.noLookup column)

/-- Whatever a store answers, a report of a compiled schema's run accounts for it.
Witness: every task has an account in the end, unless it is exempt.
-/
theorem run_accounts {schema : Schema} {publisherPrefix : String} {report : Report}
    (compiles : schema.compile publisherPrefix = .ok compiled)
    (course : Course (run compiled settings) history (.ok report))
    : Accounts compiled settings history report := by
  have coherent := CompiledSchema.coherent_of_compile compiles
  obtain ⟨solutionCreated, solutionSkipped⟩ := solution_account coherent course
  refine ⟨items_perm coherent course, items_nodup coherent course, solutionCreated,
    solutionSkipped, ?_, ?_, ?_, ?_, ?_, ?_⟩
  · intro task asked
    rcases account_of_course_run coherent course asked with ⟨_, absent, quiet⟩
      | ⟨_, outcome, account⟩
    · rw [quiet]
      exact iff_of_false (absent _) Bool.false_ne_true
    · rw [account.item, eq_comm]
      exact account.created
  · intro task asked
    rcases account_of_course_run coherent course asked with ⟨_, absent, quiet⟩
      | ⟨_, outcome, account⟩
    · rw [quiet]
      exact iff_of_false (absent _) Bool.false_ne_true
    · rw [account.item, eq_comm]
      exact account.skipped
  · intro entity listed outcome member
    have asked : .table entity ∈ compiled.tasks := mem_tasks_iff.mpr listed
    have blocked := blocked_iff_failed coherent course asked (fun _ => Task.noConfusion) member
    simpa [Task.needs] using blocked
  · intro entity listed attr plain outcome member
    have asked : .column entity attr ∈ compiled.tasks := mem_tasks_iff.mpr ⟨listed, plain⟩
    have blocked := blocked_iff_failed coherent course asked (fun _ => Task.noConfusion) member
    simpa [Task.needs] using blocked
  · intro link listed outcome member
    have asked : .relationship link ∈ compiled.tasks := mem_tasks_iff.mpr listed
    exact blocked_iff_failed coherent course asked (fun _ => Task.noConfusion) member
  · exact ne_noLookup_of_course_run coherent course

/-- A store that has a publisher only and refuses to make teams.
-/
def teamless : Store.Memory :=
  (previewStore {}).rejecting "team" 403 "no teams"

/-- What becomes of staffing where no team can be made.
-/
def teamlessReport : Report where
  items := [
    ⟨.solution, "SimQuipTables", .created⟩,
    ⟨.table, "person", .created⟩,
    ⟨.table, "team", .failed (.remote 403 "no teams")⟩,
    ⟨.column, "team.label", .blocked (.noTable "team")⟩,
    ⟨.relationship, "x_team_person_teamid", .blocked (.noTable "team")⟩,
    ⟨.relationship, "x_person_team_leadid", .blocked (.noTable "team")⟩,
    ⟨.component, "person", .created⟩,
    ⟨.component, "team", .blocked (.noTable "team")⟩
  ]

/-- The run for staffing is accounted for where no team can be made.
-/
theorem run_accounts_teamless
    : staffing.compile "x" = .ok staffed
      ∧ ((run staffed {}).run Store.Memory.respond teamless).1 = .ok teamlessReport
      ∧ Accounts staffed {} ((run staffed {}).transcript Store.Memory.respond teamless)
          teamlessReport := by
  have reported : ((run staffed {}).run Store.Memory.respond teamless).1 = .ok teamlessReport := by
    decide +kernel
  refine ⟨staffing_compiles, reported, run_accounts staffing_compiles ?_⟩
  rw [← reported]
  exact Dialogue.course_transcript _ _ _

end Tablewright.Provision
