import Tablewright.Proofs.Provision.Fulfilment

/-! Resumption: a run after one that was refused something makes what that did not make, and
nothing else. Both together make what one run makes that is refused nothing.
-/

namespace Tablewright.Provision

open Store (Holding Memory)
open Store.Memory (Built Gains Settled)

variable {compiled : CompiledSchema} {settings : Settings}
variable {memory interrupted : Memory} {task : Task} {holding : Holding}

-----------------------------------------------------------------------------------------
-- Runs that are refused nothing
-----------------------------------------------------------------------------------------

/-- A store that accepts everything makes every table available.
-/
theorem isAvailable_accepting (memory : Memory) (table : String)
    : isAvailable memory.accepting table = true := by
  rw [isAvailable, Store.Memory.rejections_accepting, Option.isNone_none, Bool.or_true]

/-- A store that accepts everything has the solution in the end.
-/
theorem isPresent_foreseeSolution_accepting (settings : Settings) (memory : Memory)
    : (foreseeSolution settings memory.accepting).isPresent = true := by
  rw [foreseeSolution, isPresent_judge, Store.Memory.rejections_accepting, Option.isNone_none,
    Bool.or_true]

/-- With a store that accepts everything, every task comes to be present.
-/
theorem isPresent_foresee_accepting (compiled : CompiledSchema) (settings : Settings)
    (memory : Memory) (task : Task)
    : (foresee compiled settings memory.accepting task).isPresent = true := by
  cases task with
  | table entity => rw [isPresent_foresee_table, isAvailable_accepting]
  | column entity attr =>
      rw [foresee, isAvailable_accepting, if_pos rfl, isPresent_judge,
        Store.Memory.rejections_accepting, Option.isNone_none, Bool.or_true]
  | relationship link =>
      have none : [link.referencedTable, link.referencingTable].find?
          (fun table => !isAvailable memory.accepting table) = none := by
        simp [isAvailable_accepting]
      rw [foresee, none]
      simp [isPresent_judge]
  | component name =>
      rw [foresee, isPresent_foreseeSolution_accepting, isAvailable_accepting]
      simp [isPresent_judge]

/-- With a store that accepts everything, a task is created exactly when what it looks for is
not there and does not come along.
-/
theorem isCreated_accepting_iff (coherent : compiled.Coherent) (asked : task ∈ compiled.tasks)
    : IsCreated compiled settings memory.accepting task
      ↔ memory.holds (task.goal settings) = false
        ∧ ¬ComesAlong compiled settings memory.accepting task := by
  constructor
  · intro created
    obtain ⟨absent, alone, _⟩ := created.elim coherent asked
    exact ⟨by rwa [Store.Memory.holds_accepting] at absent, alone⟩
  · intro wanted
    obtain ⟨absent, alone⟩ := wanted
    have due := isDue_of_not_comesAlong coherent asked alone
    refine ⟨due, ?_⟩
    have present := isPresent_foresee_accepting compiled settings memory task
    cases foreseen : foresee compiled settings memory.accepting task with
    | created => rfl
    | skipped =>
        have there := holds_or_comesAlong_of_skipped coherent asked due foreseen
        rw [Store.Memory.holds_accepting, absent] at there
        exact absurd (there.resolve_left Bool.false_ne_true) alone
    | failed | blocked =>
        rw [foreseen] at present
        cases present

/-- What a run creates is created as well when nothing is refused.
-/
theorem IsCreated.accepting (coherent : compiled.Coherent) (asked : task ∈ compiled.tasks)
    (created : IsCreated compiled settings memory task)
    : IsCreated compiled settings memory.accepting task := by
  obtain ⟨absent, alone, available⟩ := created.elim coherent asked
  refine (isCreated_accepting_iff coherent asked).mpr ⟨absent, fun along => alone ?_⟩
  obtain ⟨entity, member, fresh, goal⟩ := along
  rw [foresee, judge_eq_created_iff, Store.Memory.holds_accepting] at fresh
  have unrefused := available _ (Task.mem_needs_of_goal goal)
  rw [isAvailable, fresh.1, Bool.false_or, Option.isNone_iff_eq_none] at unrefused
  exact ⟨entity, member, judge_eq_created_iff.mpr ⟨fresh.1, unrefused⟩, goal⟩

-----------------------------------------------------------------------------------------
-- Runs after runs
-----------------------------------------------------------------------------------------

/-- After a run, what a task looks for is there if it was before, if the task was created, or if
it came along with a table.
-/
theorem holds_goal_afterwards_iff (coherent : compiled.Coherent)
    (asked : task ∈ compiled.tasks)
    (gains : Gains memory interrupted (runGains compiled settings memory (schedule compiled)))
    : interrupted.holds (task.goal settings) = true
      ↔ memory.holds (task.goal settings) = true
        ∨ IsCreated compiled settings memory task
        ∨ ComesAlong compiled settings memory task := by
  rw [gains.holds, mem_runGains_iff coherent]
  simp only [task.goal_ne_solution, and_false, false_or]
  refine or_congr_right ⟨?_, ?_⟩
  · intro gained
    obtain ⟨other, too, created, brings⟩ := gained
    rcases eq_or_primary_of_mem_holdings coherent asked too brings with rfl
      | ⟨entity, rfl, primary⟩
    · exact .inl created
    · exact .inr ⟨entity, mem_tasks_iff.mp too, created.2, primary⟩
  · intro brought
    rcases brought with created | ⟨entity, member, created, primary⟩
    · exact ⟨task, asked, created, task.goal_mem_holdings⟩
    · refine ⟨.table entity, mem_tasks_iff.mpr member, ⟨rfl, created⟩, ?_⟩
      rw [primary]
      exact List.mem_cons_of_mem _ List.mem_cons_self

section Resumed

variable (coherent : compiled.Coherent)
variable (gains : Gains memory interrupted (runGains compiled settings memory (schedule compiled)))
include coherent gains

/-- A table is created by the second run if it would have been created by a run that is refused
nothing, and was not by the first.
-/
theorem table_isCreated_resumed_iff {entity : Entity} (member : entity ∈ compiled.entities)
    : IsCreated compiled settings interrupted.accepting (.table entity)
      ↔ IsCreated compiled settings memory.accepting (.table entity)
        ∧ ¬IsCreated compiled settings memory (.table entity) := by
  have asked : .table entity ∈ compiled.tasks := mem_tasks_iff.mpr member
  have alone (other : Memory) : ¬ComesAlong compiled settings other (.table entity) :=
    not_comesAlong fun _ _ => Holding.noConfusion
  rw [isCreated_accepting_iff coherent asked, isCreated_accepting_iff coherent asked,
    ← Bool.not_eq_true, ← Bool.not_eq_true, holds_goal_afterwards_iff coherent asked gains]
  simp only [alone, or_false, not_or, not_false_eq_true, and_true]

/-- What comes along when nothing is refused comes along with the first run or with the second.
-/
theorem comesAlong_accepting_iff
    : ComesAlong compiled settings memory.accepting task
      ↔ ComesAlong compiled settings memory task
        ∨ ComesAlong compiled settings interrupted.accepting task := by
  constructor
  · intro along
    obtain ⟨entity, member, created, goal⟩ := along
    by_cases before : IsCreated compiled settings memory (.table entity)
    · exact .inl ⟨entity, member, before.2, goal⟩
    · have again := (table_isCreated_resumed_iff coherent gains member).mpr ⟨⟨rfl, created⟩, before⟩
      exact .inr ⟨entity, member, again.2, goal⟩
  · intro along
    rcases along with ⟨entity, member, created, goal⟩ | ⟨entity, member, created, goal⟩
    · have early : IsCreated compiled settings memory (.table entity) := ⟨rfl, created⟩
      have wanted := early.accepting coherent (mem_tasks_iff.mpr member)
      exact ⟨entity, member, wanted.2, goal⟩
    · have wanted := ((table_isCreated_resumed_iff coherent gains member).mp ⟨rfl, created⟩).1
      exact ⟨entity, member, wanted.2, goal⟩

/-- A task is created by the second run exactly when it would have been created by a run that is
refused nothing, and was not by the first.
-/
theorem isCreated_resumed_iff (asked : task ∈ compiled.tasks)
    : IsCreated compiled settings interrupted.accepting task
      ↔ IsCreated compiled settings memory.accepting task
        ∧ ¬IsCreated compiled settings memory task := by
  rw [isCreated_accepting_iff coherent asked, isCreated_accepting_iff coherent asked,
    ← Bool.not_eq_true, ← Bool.not_eq_true, holds_goal_afterwards_iff coherent asked gains,
    comesAlong_accepting_iff coherent gains]
  tauto

/-- Of two runs, the first or the second creates a task exactly when one run does that is
refused nothing.
-/
theorem isCreated_or_resumed_iff (asked : task ∈ compiled.tasks)
    : IsCreated compiled settings memory task
        ∨ IsCreated compiled settings interrupted.accepting task
      ↔ IsCreated compiled settings memory.accepting task := by
  rw [isCreated_resumed_iff coherent gains asked]
  constructor
  · rintro (early | ⟨wanted, _⟩)
    · exact early.accepting coherent asked
    · exact wanted
  · intro wanted
    by_cases early : IsCreated compiled settings memory task
    · exact .inl early
    · exact .inr ⟨wanted, early⟩

/-- The same goes for the solution.
-/
theorem foreseeSolution_resumed_iff
    : foreseeSolution settings memory = .created
        ∨ foreseeSolution settings interrupted.accepting = .created
      ↔ foreseeSolution settings memory.accepting = .created := by
  have there : interrupted.holds (.solution settings.solution.uniqueName) = true
      ↔ memory.holds (.solution settings.solution.uniqueName) = true
        ∨ foreseeSolution settings memory = .created := by
    rw [gains.holds, mem_runGains_iff coherent]
    refine or_congr_right ⟨fun gained => ?_, fun created => .inl ⟨created, rfl⟩⟩
    rcases gained with ⟨created, _⟩ | ⟨_, _, _, brings⟩
    · exact created
    · exact (Task.mem_holdings_iff.mp brings).elim
  simp only [foreseeSolution, judge_eq_created_iff, Store.Memory.holds_accepting,
    Store.Memory.rejections_accepting, ← Bool.not_eq_true] at there ⊢
  rw [there]
  tauto

/-- After two runs of which the second is refused nothing, the store has what it has after one
run that is refused nothing.
-/
theorem holds_resumed {completed undisturbed : Memory}
    (again
      : Gains interrupted.accepting completed
          (runGains compiled settings interrupted.accepting (schedule compiled)))
    (alone
      : Gains memory.accepting undisturbed
          (runGains compiled settings memory.accepting (schedule compiled)))
    : completed.holds holding = undisturbed.holds holding := by
  rw [Bool.eq_iff_iff, again.holds, alone.holds, Store.Memory.holds_accepting,
    Store.Memory.holds_accepting, gains.holds, mem_runGains_iff coherent, mem_runGains_iff coherent,
    mem_runGains_iff coherent, ← foreseeSolution_resumed_iff coherent gains, or_assoc]
  have tasks
      : (∃ task ∈ compiled.tasks,
          IsCreated compiled settings memory.accepting task ∧ holding ∈ task.holdings settings)
        ↔ (∃ task ∈ compiled.tasks,
            IsCreated compiled settings memory task ∧ holding ∈ task.holdings settings)
          ∨ ∃ task ∈ compiled.tasks,
              IsCreated compiled settings interrupted.accepting task
              ∧ holding ∈ task.holdings settings := by
    simp only [← exists_or, ← and_or_left, ← or_and_right]
    refine exists_congr fun task => and_congr_right fun asked => and_congr_left fun _ => ?_
    exact (isCreated_or_resumed_iff coherent gains asked).symm
  rw [tasks, or_and_right, or_or_or_comm]

end Resumed

-----------------------------------------------------------------------------------------
-- Reports of runs after runs
-----------------------------------------------------------------------------------------

/-- A run that is refused nothing has a clean report.
-/
theorem isClean_foreseenReport_accepting (coherent : compiled.Coherent)
    : (Report.mk (foreseenReport compiled settings memory.accepting (schedule compiled))).isClean
      = true := by
  refine isClean_iff.mpr fun item member => ?_
  rcases (mem_foreseenReport_iff coherent).mp member with rfl | ⟨task, _, _, rfl⟩
  · exact isPresent_foreseeSolution_accepting settings memory
  · rw [Task.outcome_item]
    exact isPresent_foresee_accepting compiled settings memory task

section Reports

variable (coherent : compiled.Coherent)
variable (gains : Gains memory interrupted (runGains compiled settings memory (schedule compiled)))
include coherent gains

/-- What a task looks for is there after a run by whose report the task is present.
-/
theorem holds_goal_of_present (asked : task ∈ compiled.tasks)
    (due : isDue compiled settings memory task = true)
    (present : (foresee compiled settings memory task).isPresent = true)
    : interrupted.holds (task.goal settings) = true := by
  refine (holds_goal_afterwards_iff coherent asked gains).mpr ?_
  cases foreseen : foresee compiled settings memory task with
  | created => exact .inr (.inl ⟨due, foreseen⟩)
  | skipped =>
      exact (holds_or_comesAlong_of_skipped coherent asked due foreseen).imp_right .inr
  | failed | blocked =>
      rw [foreseen] at present
      cases present

/-- What the second run creates has an item in the first report, and is not present by that.
-/
theorem absent_of_created_resumed {item : ReportItem}
    (member
      : item ∈ foreseenReport compiled settings interrupted.accepting (schedule compiled))
    (created : item.outcome = .created)
    : ∃ earlier ∈ foreseenReport compiled settings memory (schedule compiled),
        itemKey earlier = itemKey item ∧ earlier.outcome.isPresent = false := by
  rcases (mem_foreseenReport_iff coherent).mp member with rfl | ⟨task, asked, due, rfl⟩
  · refine ⟨_, (mem_foreseenReport_iff coherent).mpr (.inl rfl), rfl, ?_⟩
    dsimp only at created
    rw [foreseeSolution, judge_eq_created_iff, Store.Memory.holds_accepting,
      ← Bool.not_eq_true] at created
    exact Bool.eq_false_iff.mpr fun present => created.1 (holds_solution_of_gains gains present)
  · rw [Task.outcome_item] at created
    have absent := (IsCreated.elim coherent asked ⟨due, created⟩).1
    rw [Store.Memory.holds_accepting, ← Bool.not_eq_true] at absent
    have alone : ¬ComesAlong compiled settings memory task := fun along =>
      absent ((holds_goal_afterwards_iff coherent asked gains).mpr (.inr (.inr along)))
    have early := isDue_of_not_comesAlong coherent asked alone
    refine ⟨_, (mem_foreseenReport_iff coherent).mpr (.inr ⟨task, asked, early, rfl⟩), ?_, ?_⟩
    · rw [Task.itemKey_item, Task.itemKey_item]
    · rw [Task.outcome_item, Bool.eq_false_iff]
      exact fun present => absent (holds_goal_of_present coherent gains asked early present)

/-- What is present by the first report is skipped by the second one, if that has an item for it.
-/
theorem skipped_of_present_resumed {earlier item : ReportItem}
    (before : earlier ∈ foreseenReport compiled settings memory (schedule compiled))
    (present : earlier.outcome.isPresent = true)
    (member
      : item ∈ foreseenReport compiled settings interrupted.accepting (schedule compiled))
    (same : itemKey item = itemKey earlier)
    : item.outcome = .skipped := by
  rcases (mem_foreseenReport_iff coherent).mp before with rfl | ⟨task, asked, due, rfl⟩
  · rcases (mem_foreseenReport_iff coherent).mp member with rfl | ⟨other, _, _, rfl⟩
    · dsimp only
      rw [foreseeSolution, judge_eq_skipped_iff, Store.Memory.holds_accepting]
      exact holds_solution_of_gains gains present
    · exact absurd (Prod.mk.inj same).1 (other.kind_item_ne_solution _)
  · rcases (mem_foreseenReport_iff coherent).mp member with rfl | ⟨other, too, again, rfl⟩
    · exact absurd (Prod.mk.inj same).1.symm (task.kind_item_ne_solution _)
    · rw [Task.itemKey_item, Task.itemKey_item] at same
      obtain rfl := task_eq_of_key_eq coherent too asked same
      rw [Task.outcome_item] at present ⊢
      have there := holds_goal_of_present coherent gains asked due present
      have later := isPresent_foresee_accepting compiled settings interrupted other
      cases foreseen : foresee compiled settings interrupted.accepting other with
      | skipped => rfl
      | created =>
          have absent := (IsCreated.elim coherent asked ⟨again, foreseen⟩).1
          rw [Store.Memory.holds_accepting, there] at absent
          cases absent
      | failed | blocked =>
          rw [foreseen] at later
          cases later

end Reports

/-- On a store that was set up by hand and can be reached, that has the solution or a publisher
for it, and shows new tables in time, a run may be refused any names. A second run that is
refused nothing has a clean report. What it creates had failed or been blocked before, and what
was present before it skips. Afterwards the store has what it has after one run that is refused
nothing.
Witness: the second run creates a task exactly when the undisturbed one does and the first one
did not.
-/
theorem run_resumes {schema : Schema} {publisherPrefix : String}
    (compiles : schema.compile publisherPrefix = .ok compiled) (built : Built memory)
    (online : memory.isOffline = false)
    (ready
      : memory.solutions.contains settings.solution.uniqueName = true
        ∨ memory.publishers.contains settings.publisher.namePrefix = true)
    (prompt : memory.delay < max 1 settings.provision.visibilityAttempts)
    : ∃ first interrupted second completed only undisturbed,
        (run compiled settings).run Memory.respond memory = (.ok first, interrupted)
        ∧ (run compiled settings).run Memory.respond interrupted.accepting
          = (.ok second, completed)
        ∧ (run compiled settings).run Memory.respond memory.accepting = (.ok only, undisturbed)
        ∧ second.isClean = true
        ∧ (∀ item ∈ second.items,
            item.outcome = .created
            → ∃ earlier ∈ first.items,
                itemKey earlier = itemKey item
                ∧ (earlier.outcome.isFailed = true ∨ earlier.outcome.isBlocked = true))
        ∧ (∀ earlier ∈ first.items,
            earlier.outcome.isPresent = true
            → ∀ item ∈ second.items,
                itemKey item = itemKey earlier → item.outcome = .skipped)
        ∧ ∀ holding, completed.holds holding = undisturbed.holds holding := by
  have coherent := CompiledSchema.coherent_of_compile compiles
  have settled := built.settled.2 online
  rw [Nat.max_comm] at prompt
  obtain ⟨interrupted, begun, gains⟩ := run_of_settled coherent settled ready prompt
  have stillReady : interrupted.solutions.contains settings.solution.uniqueName = true
      ∨ interrupted.publishers.contains settings.publisher.namePrefix = true := by
    refine ready.imp (fun there => ?_) fun known => gains.publishers ▸ known
    exact (gains.holds (.solution _)).mpr (.inl there)
  obtain ⟨completed, resumed, again⟩ := run_of_settled coherent
    gains.settled.accepting stillReady (gains.delay.trans_lt prompt)
  obtain ⟨undisturbed, ran, alone⟩ := run_of_settled coherent settled.accepting ready prompt
  refine ⟨_, interrupted, _, completed, _, undisturbed, begun, resumed, ran,
    isClean_foreseenReport_accepting coherent, ?_, ?_, ?_⟩
  · intro item member created
    obtain ⟨earlier, before, same, absent⟩ :=
      absent_of_created_resumed coherent gains member created
    exact ⟨earlier, before, same, isPresent_eq_false_iff.mp absent⟩
  · intro earlier before present item member same
    exact skipped_of_present_resumed coherent gains before present member same
  · exact fun _ => holds_resumed coherent gains again alone

/-- A run for staffing after one that could make no label finds everything but the label of a
person.
-/
theorem run_resumes_unlabelled
    : staffing.compile "x" = .ok staffed
      ∧ Built unlabelled
      ∧ ∃ first interrupted second completed only undisturbed,
          (run staffed {}).run Memory.respond unlabelled = (.ok first, interrupted)
          ∧ (run staffed {}).run Memory.respond interrupted.accepting = (.ok second, completed)
          ∧ (run staffed {}).run Memory.respond unlabelled.accepting = (.ok only, undisturbed)
          ∧ second.isClean = true
          ∧ (∀ item ∈ second.items,
              item.outcome = .created
              → ∃ earlier ∈ first.items,
                  itemKey earlier = itemKey item
                  ∧ (earlier.outcome.isFailed = true ∨ earlier.outcome.isBlocked = true))
          ∧ (∀ earlier ∈ first.items,
              earlier.outcome.isPresent = true
              → ∀ item ∈ second.items,
                  itemKey item = itemKey earlier → item.outcome = .skipped)
          ∧ ∀ holding, completed.holds holding = undisturbed.holds holding :=
  ⟨staffing_compiles, built_unlabelled,
    run_resumes staffing_compiles built_unlabelled rfl (.inr (by decide +kernel))
      (by decide +kernel)⟩

/-- The label of a person is the only thing that is created then. -/
example
    : ((run staffed {}).run Memory.respond
        ((run staffed {}).run Memory.respond unlabelled).2.accepting).1
      = .ok ⟨[
          ⟨.solution, "SimQuipTables", .skipped⟩,
          ⟨.table, "person", .skipped⟩,
          ⟨.column, "person.label", .created⟩,
          ⟨.table, "team", .skipped⟩,
          ⟨.column, "team.label", .skipped⟩,
          ⟨.relationship, "x_team_person_teamid", .skipped⟩,
          ⟨.relationship, "x_person_team_leadid", .skipped⟩,
          ⟨.component, "person", .skipped⟩,
          ⟨.component, "team", .skipped⟩
        ]⟩ := by
  decide +kernel

end Tablewright.Provision
