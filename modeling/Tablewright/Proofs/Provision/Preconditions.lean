import Tablewright.Proofs.Provision.Accounts
import Tablewright.Proofs.Provision.Calls

/-! The preconditions of a run. A run ends without a report exactly when the store cannot be
reached or has no publisher for a new solution, and then it has created nothing. Whatever else a
store answers, the run comes to everything that the schema asks for and reports on it.
-/

namespace Tablewright.Provision

open Dialogue (Course)
open Store (Answer Call Protocol call)

variable {compiled : CompiledSchema} {settings : Settings} {history : History}
variable {error other : PreconditionError} {task : Task}

-----------------------------------------------------------------------------------------
-- Unmet preconditions
-----------------------------------------------------------------------------------------

/-- A history has the answers that a precondition is not met by: the store was not reached, or
the solution was missing and its publisher could not be looked for or was missing, too.
-/
inductive Unmet (settings : Settings) (history : History) : PreconditionError → Prop
  | unreachable {cause : StoreError} (reached : ⟨.whoAmI, .error cause⟩ ∈ history)
    : Unmet settings history (.unreachable cause)
  | publisherLookup {cause : StoreError}
    (absent : ⟨.solutionExists settings.solution.uniqueName, .ok false⟩ ∈ history)
    (searched : ⟨.findPublisher settings.publisher.namePrefix, .error cause⟩ ∈ history)
    : Unmet settings history (.publisherLookup cause)
  | publisherNotFound
    (absent : ⟨.solutionExists settings.solution.uniqueName, .ok false⟩ ∈ history)
    (searched : ⟨.findPublisher settings.publisher.namePrefix, .ok none⟩ ∈ history)
    : Unmet settings history (.publisherNotFound settings.publisher.namePrefix)

/-- The whole history of a run that ends with an error.
-/
inductive Halted (settings : Settings) : History → PreconditionError → Prop
  | unreachable (cause : StoreError)
    : Halted settings [⟨.whoAmI, .error cause⟩] (.unreachable cause)
  | publisherLookup (user : String) (cause : StoreError)
    : Halted settings
        [⟨.whoAmI, .ok user⟩, ⟨.solutionExists settings.solution.uniqueName, .ok false⟩,
          ⟨.findPublisher settings.publisher.namePrefix, .error cause⟩]
        (.publisherLookup cause)
  | publisherNotFound (user : String)
    : Halted settings
        [⟨.whoAmI, .ok user⟩, ⟨.solutionExists settings.solution.uniqueName, .ok false⟩,
          ⟨.findPublisher settings.publisher.namePrefix, .ok none⟩]
        (.publisherNotFound settings.publisher.namePrefix)

/-- What halts a run is an unmet precondition.
-/
theorem Halted.unmet (halted : Halted settings history error) : Unmet settings history error := by
  cases halted with
  | unreachable cause => exact .unreachable (.head _)
  | publisherLookup user cause => exact .publisherLookup (.tail _ (.head _)) (by simp)
  | publisherNotFound user => exact .publisherNotFound (.tail _ (.head _)) (by simp)

/-- Only one precondition is unmet when a run halts.
-/
theorem Halted.eq_of_unmet (halted : Halted settings history error)
    (unmet : Unmet settings history other)
    : error = other := by
  cases halted with
  | unreachable cause =>
      cases unmet with
      | unreachable reached =>
          cases List.mem_singleton.mp reached
          rfl
      | publisherLookup absent | publisherNotFound absent => simp at absent
  | publisherLookup user cause =>
      cases unmet with
      | unreachable reached => simp at reached
      | publisherLookup _ searched =>
          obtain rfl : _ = cause := by simpa using searched
          rfl
      | publisherNotFound _ searched => simp at searched
  | publisherNotFound user =>
      cases unmet with
      | unreachable reached => simp at reached
      | publisherLookup _ searched => simp at searched
      | publisherNotFound => rfl

/-- Nothing is created before a run halts.
-/
theorem Halted.creates_nothing (halted : Halted settings history error)
    : ∀ exchange ∈ history, exchange.question.isCreate = false := by
  cases halted with
  | _ => simp [Call.isCreate]

-----------------------------------------------------------------------------------------
-- The opening of a run
-----------------------------------------------------------------------------------------

/-- A run that ends with an error has halted.
Witness: once the solution has been dealt with, nothing but a report can come of the run.
-/
theorem halted_of_course_run (wellFormed : compiled.WellFormed)
    (course : Course (run compiled settings) history (.error error))
    : Halted settings history error := by
  rw [run_eq_perform wellFormed] at course
  obtain ⟨user, _, greeted, rfl⟩ := course_call_bind_iff.mp course
  cases user with
  | error cause =>
      obtain ⟨rfl, same⟩ := Dialogue.course_pure_iff.mp greeted
      cases same
      exact .unreachable cause
  | ok user =>
      obtain ⟨first, solution, later, ensured, continued, rfl⟩ :=
        Dialogue.course_bind_iff.mp greeted
      cases solution with
      | ok outcome =>
          obtain ⟨_, _, impossible⟩ := Dialogue.course_bind_pure_iff.mp continued
          cases impossible
      | error found =>
          obtain ⟨rfl, same⟩ := Dialogue.course_pure_iff.mp continued
          cases same
          rw [List.append_nil]
          cases settles_of_course ensured with
          | publisherLookup cause => exact .publisherLookup user cause
          | publisherNotFound => exact .publisherNotFound user

-----------------------------------------------------------------------------------------
-- Runs that come to a report
-----------------------------------------------------------------------------------------

/-- An exchange that a run does not go on after.
-/
inductive Fatal (settings : Settings) : Dialogue.Exchange Call Answer → Prop
  | unreachable (cause : StoreError) : Fatal settings ⟨.whoAmI, .error cause⟩
  | publisherLookup (cause : StoreError)
    : Fatal settings ⟨.findPublisher settings.publisher.namePrefix, .error cause⟩
  | publisherNotFound
    : Fatal settings ⟨.findPublisher settings.publisher.namePrefix, .ok none⟩

/-- A precondition is unmet only after a fatal exchange.
-/
theorem Unmet.exists_fatal (unmet : Unmet settings history error)
    : ∃ exchange ∈ history, Fatal settings exchange := by
  cases unmet with
  | unreachable reached => exact ⟨_, reached, .unreachable _⟩
  | publisherLookup _ searched => exact ⟨_, searched, .publisherLookup _⟩
  | publisherNotFound _ searched => exact ⟨_, searched, .publisherNotFound⟩

/-- Once the solution has been dealt with, nothing fatal has been answered.
-/
theorem not_fatal_of_course_ensureSolution {outcome : Outcome}
    (ensured : Course (ensureSolution settings) history (.ok outcome))
    : ∀ exchange ∈ history, ¬ Fatal settings exchange := by
  intro exchange member fatal
  cases settles_of_course ensured with
  | unanswered | present =>
      cases List.mem_singleton.mp member
      cases fatal
  | made publisher answer =>
      simp only [List.mem_cons, List.not_mem_nil, or_false] at member
      rcases member with rfl | rfl | rfl
      · cases fatal
      · cases fatal
      · cases fatal

/-- Nothing that is answered while tasks are dealt with is fatal.
-/
theorem not_fatal_of_course_perform {tasks : List Task} {report items : List ReportItem}
    (performed : Course (perform compiled settings tasks report) history items)
    : ∀ exchange ∈ history, ¬ Fatal settings exchange := by
  intro exchange member fatal
  obtain ⟨task, _, serves⟩ := (asks_perform tasks report).of_course performed exchange member
  cases fatal with
  | _ => cases serves

/-- A run that comes to a report has met no fatal answer.
-/
theorem not_fatal_of_course_run (wellFormed : compiled.WellFormed) {report : Report}
    (course : Course (run compiled settings) history (.ok report))
    : ∀ exchange ∈ history, ¬ Fatal settings exchange := by
  obtain ⟨_, first, _, later, _, ensured, performed, rfl, _⟩ := course_run_ok wellFormed course
  refine List.forall_mem_cons.mpr ⟨nofun, List.forall_mem_append.mpr ⟨?_, ?_⟩⟩
  · exact not_fatal_of_course_ensureSolution ensured
  · exact not_fatal_of_course_perform performed

-----------------------------------------------------------------------------------------
-- Visits
-----------------------------------------------------------------------------------------

/-- The call that a visit to a task begins with.
-/
def Task.check : Task → Call
  | .table entity => .tableExists entity.logicalName
  | .column entity attr => .columnExists entity.logicalName attr.logicalName
  | .relationship link => .columnExists link.referencingTable link.referencingAttribute
  | .component name => .tableId name

/-- Something that a task depends on is not present by a report: one of its tables or, for a
component, the solution.
-/
def Task.Lacks (report : List ReportItem) (task : Task) : Prop :=
  (∃ table ∈ task.needs, table ∉ presentTables report)
  ∨ (∃ name, task = .component name) ∧ solutionIsPresent report = false

/-- A run has visited a task: the task was looked for, unless it is reported as blocked by
something that is not present, and there is an item of it.
-/
def Visited (history : History) (report : List ReportItem) (task : Task) : Prop :=
  ∃ outcome,
    task.item outcome ∈ report
    ∧ ((∃ answer, ⟨task.check, answer⟩ ∈ history)
      ∨ (outcome.isBlocked = true ∧ task.Lacks report))

/-- A call is among the exchanges of what begins with it.
-/
theorem exists_answer_of_course {α : Type} {query : Call} {next : Answer query → Protocol α}
    {result : α} (course : Course (call query >>= next) history result)
    : ∃ answer, ⟨query, answer⟩ ∈ history := by
  obtain ⟨answer, _, _, rfl⟩ := course_call_bind_iff.mp course
  exact ⟨answer, List.mem_cons_self⟩

/-- A task is looked for when its turn has come, or blocked by something that is not present.
-/
theorem checked_of_course_pursue (coherent : compiled.Coherent) (asked : task ∈ compiled.tasks)
    {report : List ReportItem} {outcome : Outcome}
    (course : Course (pursue compiled settings report task) history outcome)
    : (∃ answer, ⟨task.check, answer⟩ ∈ history)
      ∨ (outcome.isBlocked = true ∧ task.Lacks report) := by
  have own := mem_tasks_iff.mp asked
  cases task with
  | table entity => exact .inl (exists_answer_of_course course)
  | column entity attr =>
      rw [pursue, pursueColumn] at course
      split at course
      · exact .inl (exists_answer_of_course course)
      · rename_i absent
        obtain ⟨_, rfl⟩ := Dialogue.course_pure_iff.mp course
        exact .inr ⟨rfl, .inl ⟨_, List.mem_singleton_self _, by simpa using absent⟩⟩
  | relationship link =>
      rw [pursue, pursueRelationship] at course
      obtain ⟨lookup, found, _⟩ := coherent.exists_lookup own
      cases missing : missingTable? (presentTables report) link with
      | none =>
          simp only [missing, found] at course
          exact .inl (exists_answer_of_course course)
      | some table =>
          simp only [missing] at course
          obtain ⟨_, rfl⟩ := Dialogue.course_pure_iff.mp course
          have absent : table ∉ presentTables report := by
            simpa using List.find?_some missing
          exact .inr ⟨rfl, .inl ⟨table, List.mem_of_find?_eq_some missing, absent⟩⟩
  | component name =>
      rw [pursue, pursueComponent] at course
      split at course
      · rename_i absent
        obtain ⟨_, rfl⟩ := Dialogue.course_pure_iff.mp course
        exact .inr ⟨rfl, .inr ⟨⟨name, rfl⟩, by simpa using absent⟩⟩
      split at course
      · rename_i absent
        obtain ⟨_, rfl⟩ := Dialogue.course_pure_iff.mp course
        exact .inr ⟨rfl, .inl ⟨name, List.mem_singleton_self _, by simpa using absent⟩⟩
      · exact .inl (exists_answer_of_course course)

/-- Items of other tasks than the solution and the tables that a task needs do not change what the
task lacks.
-/
theorem lacks_append_iff {report items : List ReportItem}
    (tables : ∀ table ∈ task.needs, ∀ outcome, ⟨.table, table, outcome⟩ ∉ items)
    (others : ∀ item ∈ items, item.kind ≠ .solution)
    : task.Lacks (report ++ items) ↔ task.Lacks report := by
  refine or_congr (exists_congr fun table => and_congr_right fun needed => ?_) ?_
  · rw [mem_presentTables_append (tables table needed)]
  · rw [solutionIsPresent_append others]

/-- A task on the schedule is visited unless it is exempt.
Witness: what it needs is dealt with before its turn, and reported once.
-/
theorem visited_of_course_perform (coherent : compiled.Coherent) {report items : List ReportItem}
    (asked : task ∈ compiled.tasks) (due : ∀ report, isExempt report task = false)
    (course : Course (perform compiled settings (schedule compiled) report) history items)
    : Visited history (report ++ items) task := by
  obtain ⟨before, after, split⟩ :=
    List.append_of_mem (mem_schedule_of_mem_tasks coherent asked)
  have placed := Placed.of_split coherent split
  rw [split] at course
  have others := kind_ne_solution_of_course_perform course
  cases turn_of_course_perform course with
  | exempt _ exempt _ =>
      rw [due] at exempt
      cases exempt
  | @dealt first own later earlier rest outcome begun _ pursued ended =>
      refine ⟨outcome, by simp, ?_⟩
      rcases checked_of_course_pursue coherent asked pursued with
        ⟨answer, called⟩ | ⟨blocked, lacks⟩
      · exact .inl ⟨answer, by simp [called]⟩
      · have keys := map_itemKey_sublist_cons task outcome ended
        rw [← List.append_assoc report, lacks_append_iff fun _ needed =>
          table_notMem_of_sublist placed needed keys]
        · exact .inr ⟨blocked, lacks⟩
        · exact (List.forall_mem_append.mp others).2

-----------------------------------------------------------------------------------------
-- Conclusions
-----------------------------------------------------------------------------------------

/-- How a run ends. It ends with an error exactly when the precondition of that is unmet, and then
nothing was created; otherwise it ends with a report and has visited every table, relationship
and component.
-/
structure Concluded (compiled : CompiledSchema) (settings : Settings) (history : History)
    (result : Except PreconditionError Report)
    : Prop where
  halted : ∀ error, result = .error error ↔ Unmet settings history error
  untouched
    : ∀ error, result = .error error
        → ∀ exchange ∈ history, exchange.question.isCreate = false
  finished
    : (∀ error, ¬ Unmet settings history error)
        → ∃ report, result = .ok report
          ∧ (∀ entity ∈ compiled.entities, Visited history report.items (.table entity))
          ∧ (∀ link ∈ compiled.relationships, Visited history report.items (.relationship link))
          ∧ ∀ entity ∈ compiled.entities,
              Visited history report.items (.component entity.logicalName)

/-- A run that comes to a report has visited every task that cannot be exempt.
-/
theorem visited_of_course_run (coherent : compiled.Coherent) {report : Report}
    (course : Course (run compiled settings) history (.ok report))
    (asked : task ∈ compiled.tasks) (due : ∀ report, isExempt report task = false)
    : Visited history report.items task := by
  obtain ⟨_, first, _, later, _, _, performed, rfl, reported⟩ :=
    course_run_ok coherent.toWellFormed course
  obtain ⟨outcome, listed, checked⟩ := visited_of_course_perform coherent asked due performed
  rw [reported]
  refine ⟨outcome, listed, checked.imp_left fun looked => ?_⟩
  obtain ⟨answer, called⟩ := looked
  exact ⟨answer, List.mem_cons_of_mem _ (List.mem_append_right _ called)⟩

/-- Whatever a store answers, the run of a compiled schema concludes: it is given up for an unmet
precondition only, before anything is created, and after any other answers goes on to the end.
Witness: the courses that end with an error are known as a whole, and those that end with a report
have no fatal exchange.
-/
theorem run_concludes {schema : Schema} {publisherPrefix : String}
    (compiles : schema.compile publisherPrefix = .ok compiled) (settings : Settings)
    {σ : Type} (respond : σ → (query : Call) → Answer query × σ) (world : σ)
    : Concluded compiled settings ((run compiled settings).transcript respond world)
        ((run compiled settings).run respond world).1 := by
  have coherent := CompiledSchema.coherent_of_compile compiles
  have course := Dialogue.course_transcript respond (run compiled settings) world
  generalize (run compiled settings).transcript respond world = history at course
  generalize ((run compiled settings).run respond world).1 = result at course
  cases result with
  | error error =>
      have halted := halted_of_course_run coherent.toWellFormed course
      refine ⟨fun other => ⟨?_, ?_⟩, fun _ _ => halted.creates_nothing, fun met => ?_⟩
      · rintro ⟨⟩
        exact halted.unmet
      · intro unmet
        rw [halted.eq_of_unmet unmet]
      · exact absurd halted.unmet (met error)
  | ok report =>
      have met (error : PreconditionError) : ¬ Unmet settings history error := by
        intro unmet
        obtain ⟨exchange, member, fatal⟩ := unmet.exists_fatal
        exact not_fatal_of_course_run coherent.toWellFormed course exchange member fatal
      refine ⟨fun error => iff_of_false nofun (met error), nofun, fun _ => ⟨report, rfl, ?_⟩⟩
      have visited {task : Task} (asked : task ∈ compiled.tasks)
          (due : ∀ items, isExempt items task = false) : Visited history report.items task :=
        visited_of_course_run coherent course asked due
      refine ⟨fun entity listed => ?_, fun link listed => ?_, fun entity listed => ?_⟩
      · exact visited (mem_tasks_iff.mpr listed) fun _ => rfl
      · exact visited (mem_tasks_iff.mpr listed) fun _ => rfl
      · exact visited (mem_tasks_iff.mpr ⟨entity, listed, rfl⟩) fun _ => rfl

/-- Staffing cannot be provisioned on a store that has no publisher, and nothing is left behind.
-/
theorem run_concludes_unpublished
    : staffing.compile "x" = .ok staffed
      ∧ ((run staffed {}).run Store.Memory.respond ({} : Store.Memory)).1
        = .error (.publisherNotFound ({} : Settings).publisher.namePrefix)
      ∧ Concluded staffed {} ((run staffed {}).transcript Store.Memory.respond {})
          ((run staffed {}).run Store.Memory.respond {}).1 :=
  ⟨staffing_compiles, by decide +kernel, run_concludes staffing_compiles {} _ _⟩

end Tablewright.Provision
