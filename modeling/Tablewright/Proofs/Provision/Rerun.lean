import Tablewright.Proofs.Provision.Effects
import Tablewright.Proofs.Provision.Order
import Tablewright.Proofs.Provision.Turns

/-! Repeated runs. When everything was present at the end of a run, the next one finds
everything and leaves the store as it is.
-/

namespace Tablewright.Provision

open Store (Answer Call Holding Keeps Memory Protocol call)

variable {compiled : CompiledSchema} {settings : Settings} {report : List ReportItem}
variable {memory between after : Memory} {outcome : Outcome} {task : Task}

-----------------------------------------------------------------------------------------
-- What stands after a run
-----------------------------------------------------------------------------------------

/-- What a run looks for on behalf of a task is there. Tables have to be in sight besides.
-/
def Stands (settings : Settings) (memory : Memory) : Task → Prop
  | .table entity => memory.shows entity.logicalName = true
  | .column entity attr => memory.holds (.column entity.logicalName attr.logicalName) = true
  | .relationship link =>
    memory.holds (.column link.referencingTable link.referencingAttribute) = true
  | .component name => memory.holds (.component settings.solution.uniqueName name) = true

/-- What stands is kept.
-/
theorem Stands.kept (stands : Stands settings memory task) (keeps : Keeps memory after)
    : Stands settings after task := by
  cases task with
  | table entity => exact keeps.shows stands
  | column | relationship | component => exact keeps.holds stands

/-- A table was made with success when it was created and came in sight.
-/
theorem run_createTable_ok {entity : Entity} (online : memory.isOffline = false)
    (made
      : (createTable settings.provision entity).run Memory.respond memory = (.ok (), after))
    : ∃ changed,
        memory.perform
            (Memory.createTable entity.logicalName entity.creationPrimary.logicalName)
          = (.ok (), changed)
        ∧ after.shows entity.logicalName = true
        ∧ Keeps changed after := by
  rw [createTable, run_call_bind online] at made
  have keeps := Keeps.respond memory (.createTable entity entity.creationPrimary)
  rw [Store.Memory.respond_of_online online] at keeps
  simp only [Memory.answer] at keeps made
  generalize memory.perform
    (Memory.createTable entity.logicalName entity.creationPrimary.logicalName) = done at keeps made ⊢
  obtain ⟨result, changed⟩ := done
  cases result with
  | error cause => cases made
  | ok => exact ⟨changed, rfl, shows_of_run_awaitTable (keeps.online online) made, .of_run made⟩

/-- A table that is present after its turn is in sight, and a new one has its primary name.
-/
theorem stands_of_run_ensureTable {entity : Entity} (online : memory.isOffline = false)
    (ended
      : (ensureTable settings.provision entity).run Memory.respond memory = (outcome, after))
    (present : outcome.isPresent = true)
    : after.shows entity.logicalName = true
      ∧ (outcome = .created
          → after.holds (.column entity.logicalName entity.creationPrimary.logicalName)
            = true) := by
  rcases run_ensure_present ended present with ⟨looked, rfl⟩ | ⟨between, looked, made, rfl⟩
  · rw [run_call online] at looked
    obtain ⟨there, rfl⟩ := Prod.mk.inj looked
    have inSight : memory.shows entity.logicalName = true := by
      rw [← Store.Memory.checkTable_fst]
      exact Except.ok.inj there
    exact ⟨(Keeps.checkTable memory _).shows inSight, Outcome.noConfusion⟩
  · obtain ⟨changed, created, inSight, keeps⟩ :=
      run_createTable_ok ((Keeps.of_run looked).online online) made
    refine ⟨inSight, fun _ => keeps.holds ?_⟩
    exact (Store.Memory.holds_createTable created).mpr (.inr (.inr (.inl rfl)))

/-- What is looked for by asking for a column and made by one call is there when it is present.
-/
theorem holds_of_run_ensure_column {table column : String}
    {make : Protocol (Except StoreError Unit)} (online : memory.isOffline = false)
    (made
      : make.run Memory.respond memory = (.ok (), after)
          → after.holds (.column table column) = true)
    (ended
      : (ensure (call (.columnExists table column)) make).run Memory.respond memory
        = (outcome, after))
    (present : outcome.isPresent = true)
    : after.holds (.column table column) = true := by
  rcases run_ensure_present ended present with ⟨looked, rfl⟩ | ⟨between, looked, making, rfl⟩
  · rw [run_call online] at looked
    obtain ⟨there, rfl⟩ := Prod.mk.inj looked
    exact Except.ok.inj there
  · rw [run_call online] at looked
    obtain ⟨_, rfl⟩ := Prod.mk.inj looked
    exact made making

/-- A component that is present after its turn is there.
-/
theorem holds_of_run_addTable {solution table : String} (online : memory.isOffline = false)
    (ended : (addTable solution table).run Memory.respond memory = (outcome, after))
    (present : outcome.isPresent = true)
    : after.holds (.component solution table) = true := by
  rw [addTable, run_call_bind online] at ended
  cases found : memory.tables.get? table with
  | none =>
      simp only [Memory.answer, found, Option.map_none] at ended
      cases ended
      cases present
  | some record =>
      simp only [Memory.answer, found, Option.map_some] at ended
      rcases run_ensure_present ended present with ⟨looked, rfl⟩ | ⟨between, looked, making, rfl⟩
      · rw [run_call online] at looked
        obtain ⟨there, rfl⟩ := Prod.mk.inj looked
        have registered := of_decide_eq_true (Except.ok.inj there)
        exact Store.Memory.holds_component_iff.mpr ⟨record, found, registered⟩
      · rw [run_call online] at looked
        obtain ⟨_, rfl⟩ := Prod.mk.inj looked
        rw [run_call online] at making
        exact (Store.Memory.holds_addComponent making).mpr
          (.inr ⟨table, record, rfl, found, rfl⟩)

/-- A task that is present after its turn stands.
-/
theorem stands_of_run_pursue (coherent : compiled.Coherent) (online : memory.isOffline = false)
    (asked : task ∈ compiled.tasks)
    (ended
      : (pursue compiled settings report task).run Memory.respond memory = (outcome, after))
    (present : outcome.isPresent = true)
    : Stands settings after task := by
  cases task with
  | table entity => exact (stands_of_run_ensureTable online ended present).1
  | column entity attr =>
      rw [pursue, pursueColumn] at ended
      split at ended
      · refine holds_of_run_ensure_column online (fun making => ?_) ended present
        rw [run_call online] at making
        exact (Store.Memory.holds_createColumn making).mpr (.inr rfl)
      · cases ended
        cases present
  | relationship link =>
      rw [pursue, pursueRelationship] at ended
      obtain ⟨lookup, found, named⟩ := coherent.exists_lookup (mem_tasks_iff.mp asked)
      cases missing : missingTable? (presentTables report) link with
      | some table =>
          simp only [missing] at ended
          cases ended
          cases present
      | none =>
          simp only [missing, found] at ended
          refine holds_of_run_ensure_column online (fun making => ?_) ended present
          rw [run_call online] at making
          rw [← named]
          exact (Store.Memory.holds_createRelationship making).mpr (.inr (.inr rfl))
  | component name =>
      rw [pursue, pursueComponent] at ended
      split at ended
      · cases ended
        cases present
      split at ended
      · cases ended
        cases present
      exact holds_of_run_addTable online ended present

/-- The solution that is present after its turn is there.
-/
theorem holds_of_run_ensureSolution (online : memory.isOffline = false)
    (ended : (ensureSolution settings).run Memory.respond memory = (.ok outcome, after))
    (present : outcome.isPresent = true)
    : after.holds (.solution settings.solution.uniqueName) = true := by
  rw [ensureSolution, run_call_bind online] at ended
  cases there : memory.solutions.contains settings.solution.uniqueName with
  | true =>
      simp only [Memory.answer, there] at ended
      cases ended
      exact there
  | false =>
      simp only [Memory.answer, there, run_call_bind online] at ended
      cases publisher : memory.publishers.get? settings.publisher.namePrefix with
      | none =>
          simp only [publisher] at ended
          cases ended
      | some id =>
          simp only [publisher, run_call_bind online] at ended
          cases created : memory.perform (Memory.createSolution settings.solution.uniqueName) with
          | mk result changed =>
              simp only [Memory.answer, created] at ended
              cases result with
              | error cause =>
                  cases ended
                  cases present
              | ok =>
                  cases ended
                  exact (Store.Memory.holds_createSolution created).mpr (.inr rfl)

/-- New tables have their primary names.
-/
def Named (compiled : CompiledSchema) (report : List ReportItem) (memory : Memory) : Prop :=
  ∀ entity ∈ compiled.entities,
    ⟨.table, entity.logicalName, .created⟩ ∈ report
    → memory.holds (.column entity.logicalName entity.primary.name) = true

/-- A task that is exempt stands.
-/
theorem Named.stands (coherent : compiled.Coherent) (named : Named compiled report memory)
    (asked : task ∈ compiled.tasks) (exempt : isExempt report task = true)
    : Stands settings memory task := by
  cases task with
  | column entity attr =>
      obtain ⟨listed, plain⟩ := mem_tasks_iff.mp asked
      simp only [isExempt, Bool.and_eq_true, decide_eq_true_eq] at exempt
      have name := (coherent.primary entity listed attr (List.mem_of_mem_filter plain)).mp exempt.1
      rw [Stands, name]
      exact named entity listed exempt.2
  | table | relationship | component => cases exempt

/-- New tables have their primary names after a further turn.
-/
theorem Named.next (coherent : compiled.Coherent) (named : Named compiled report memory)
    (online : memory.isOffline = false) (asked : task ∈ compiled.tasks)
    (ended
      : (pursue compiled settings report task).run Memory.respond memory = (outcome, after))
    : Named compiled (report ++ [task.item outcome]) after := by
  intro entity listed reported
  rcases List.mem_append.mp reported with earlier | now
  · exact (Keeps.of_run ended).holds (named entity listed earlier)
  · have item := List.mem_singleton.mp now
    cases task with
    | table other =>
        obtain ⟨_, same, rfl⟩ := ReportItem.mk.inj item
        obtain rfl :=
          List.inj_on_of_nodup_map coherent.entities listed (mem_tasks_iff.mp asked) same
        rw [← coherent.creationPrimary_logicalName listed]
        exact (stands_of_run_ensureTable online ended rfl).2 rfl
    | column | relationship | component => cases (ReportItem.mk.inj item).1

/-- When all items of tasks are present, all these tasks stand afterwards.
Witness: induction on the tasks; what stands after its turn is kept, and what is exempt stands.
-/
theorem stands_of_run_perform (coherent : compiled.Coherent) {tasks : List Task}
    {items : List ReportItem} (online : memory.isOffline = false)
    (asked : ∀ task ∈ tasks, task ∈ compiled.tasks) (named : Named compiled report memory)
    (ended
      : (perform compiled settings tasks report).run Memory.respond memory = (items, after))
    (present : ∀ item ∈ items, item.outcome.isPresent = true)
    : ∀ task ∈ tasks, Stands settings after task := by
  induction tasks generalizing memory report items with
  | nil => exact List.forall_mem_nil _
  | cons task rest ih =>
      obtain ⟨own, others⟩ := List.forall_mem_cons.mp asked
      rw [perform] at ended
      cases exempt : isExempt report task with
      | true =>
          rw [exempt, if_pos rfl] at ended
          refine List.forall_mem_cons.mpr ⟨?_, ih online others named ended present⟩
          exact (named.stands coherent own exempt).kept (.of_run ended)
      | false =>
          rw [exempt, if_neg Bool.false_ne_true, Dialogue.run_bind] at ended
          rcases pursued : (pursue compiled settings report task).run Memory.respond memory
            with ⟨outcome, between⟩
          rw [pursued, Dialogue.run_bind, Dialogue.run_pure] at ended
          obtain ⟨rfl, same⟩ := Prod.mk.inj ended
          obtain ⟨first, later⟩ := List.forall_mem_cons.mp present
          have onward : (perform compiled settings rest (report ++ [task.item outcome])).run
              Memory.respond between = (_, after) :=
            Prod.ext rfl same
          have keeps : Keeps memory between := .of_run pursued
          have there : outcome.isPresent = true := by
            cases task with
            | _ => exact first
          refine List.forall_mem_cons.mpr ⟨?_, ?_⟩
          · exact (stands_of_run_pursue coherent online own pursued there).kept (.of_run onward)
          · exact ih (keeps.online online) others (named.next coherent online own pursued) onward
              later

-----------------------------------------------------------------------------------------
-- Programs that leave a store as it is
-----------------------------------------------------------------------------------------

/-- On a store a program gives a result, creates nothing and leaves the store as it is.
-/
structure Idles {α : Type} (program : Protocol α) (memory : Memory) (result : α) : Prop where
  run : program.run Memory.respond memory = (result, memory)
  quiet
    : ∀ exchange ∈ program.transcript Memory.respond memory, exchange.question.isCreate = false

namespace Idles

variable {α β : Type}

/-- What is over leaves a store as it is.
-/
theorem pure (result : α) : Idles (Pure.pure result) memory result :=
  ⟨rfl, List.forall_mem_nil _⟩

/-- Programs in a row leave a store as it is when each of them does.
-/
theorem bind {program : Protocol α} {next : α → Protocol β} {found : α} {result : β}
    (first : Idles program memory found) (second : Idles (next found) memory result)
    : Idles (program >>= next) memory result := by
  refine ⟨?_, ?_⟩
  · rw [Dialogue.run_bind, first.run]
    exact second.run
  · rw [Dialogue.transcript_bind, first.run]
    exact List.forall_mem_append.mpr ⟨first.quiet, second.quiet⟩

/-- A call that creates nothing and whose answer does not change a store leaves it as it is.
-/
theorem call {query : Call} {answer : Answer query} (online : memory.isOffline = false)
    (creates : query.isCreate = false) (answered : memory.answer query = (answer, memory))
    : Idles (Store.call query) memory answer :=
  ⟨(run_call online query).trans answered, List.forall_mem_singleton.mpr creates⟩

/-- What is found is skipped.
-/
theorem ensure {isThere : Protocol (Except StoreError Bool)}
    {make : Protocol (Except StoreError Unit)} (found : Idles isThere memory (.ok true))
    : Idles (ensure isThere make) memory .skipped :=
  found.bind (.pure _)

end Idles

/-- A task that stands, and whose tables are present by the report, is skipped.
-/
theorem idles_pursue (coherent : compiled.Coherent) (online : memory.isOffline = false)
    (asked : task ∈ compiled.tasks) (stands : Stands settings memory task)
    (tables : ∀ table ∈ task.needs, table ∈ presentTables report)
    (solution : solutionIsPresent report = true)
    : Idles (pursue compiled settings report task) memory .skipped := by
  have column {table column : String} (there : memory.holds (.column table column) = true)
      : Idles (call (.columnExists table column)) memory (.ok true) :=
    .call online rfl (Prod.ext (congrArg Except.ok there) rfl)
  cases task with
  | table entity =>
      refine .ensure (.call online rfl ?_)
      simp only [Memory.answer, Store.Memory.checkTable_of_shows stands]
  | column entity attr =>
      have there := List.contains_iff_mem.mpr (tables _ (List.mem_singleton_self _))
      rw [pursue, pursueColumn, there, if_pos rfl]
      exact .ensure (column stands)
  | relationship link =>
      obtain ⟨lookup, found, _⟩ := coherent.exists_lookup (mem_tasks_iff.mp asked)
      have none : missingTable? (presentTables report) link = none :=
        missingTable?_eq_none_iff.mpr
          ⟨tables _ List.mem_cons_self, tables _ (List.mem_cons_of_mem _ List.mem_cons_self)⟩
      simp only [pursue, pursueRelationship, none, found]
      exact .ensure (column stands)
  | component name =>
      have there := List.contains_iff_mem.mpr (tables _ (List.mem_singleton_self _))
      obtain ⟨record, found, registered⟩ := Store.Memory.holds_component_iff.mp stands
      rw [pursue, pursueComponent, solution, there, Bool.not_true, if_neg Bool.false_ne_true,
        if_neg Bool.false_ne_true]
      have asks : Idles (call (.tableId name)) memory (.ok (some record.id)) :=
        .call online rfl (by simp [Memory.answer, found])
      exact asks.bind (.ensure (.call online rfl (by simp [Memory.answer, registered])))

/-- The tasks that are left on the schedule are all skipped when everything stands and
everything before them was skipped.
Witness: induction on the tasks that are left; the tables that one needs are among those before
it.
-/
theorem idles_perform (coherent : compiled.Coherent) (online : memory.isOffline = false)
    (stands : ∀ task ∈ schedule compiled, Stands settings memory task)
    {before left : List Task} (split : schedule compiled = before ++ left)
    (skipped : ∀ item ∈ report, item.outcome = .skipped)
    (reported : ∀ task ∈ before, task.item .skipped ∈ report)
    (solution : solutionIsPresent report = true)
    : Idles (perform compiled settings left report) memory (left.map (·.item .skipped)) := by
  induction left generalizing before report with
  | nil => exact .pure _
  | cons task rest ih =>
      have listed : task ∈ schedule compiled := by simp [split]
      have due : isExempt report task = false := by
        cases task with
        | column entity attr =>
            rw [isExempt, Bool.and_eq_false_iff, decide_eq_false_iff_not]
            exact .inr fun created => Outcome.noConfusion (skipped _ created)
        | table | relationship | component => rfl
      have tables : ∀ table ∈ task.needs, table ∈ presentTables report := by
        intro table needed
        obtain ⟨entity, rfl, early⟩ := exists_table_before coherent split needed
        exact mem_presentTables_iff.mpr ⟨.skipped, reported _ early, rfl⟩
      have pursued := idles_pursue coherent online
        (mem_tasks_of_mem_schedule coherent listed) (stands task listed) tables solution
      rw [perform, due, if_neg Bool.false_ne_true]
      refine pursued.bind (Idles.bind ?_ (.pure _))
      have onward : schedule compiled = (before ++ [task]) ++ rest := by simp [split]
      refine ih onward ?_ ?_ ?_
      · refine List.forall_mem_append.mpr ⟨skipped, List.forall_mem_singleton.mpr ?_⟩
        cases task with
        | _ => rfl
      · refine List.forall_mem_append.mpr ⟨fun other early => ?_, ?_⟩
        · exact List.mem_append_left _ (reported other early)
        · exact List.forall_mem_singleton.mpr (List.mem_append_right _ (List.mem_singleton_self _))
      · rw [solutionIsPresent, List.any_append, ← solutionIsPresent, solution, Bool.true_or]

-----------------------------------------------------------------------------------------
-- Runs after clean runs
-----------------------------------------------------------------------------------------

/-- A run after a clean one on the same store finds everything that it looks for, in the order
of its schedule, creates nothing and leaves the store as it is.
Witness: everything that was present after its turn stands, and what stands is skipped.
-/
theorem run_again {schema : Schema} {publisherPrefix : String} {report : Report}
    (compiles : schema.compile publisherPrefix = .ok compiled)
    (ended : (run compiled settings).run Memory.respond memory = (.ok report, after))
    (clean : report.isClean = true)
    : ∃ again : Report,
        (run compiled settings).run Memory.respond after = (.ok again, after)
        ∧ (again.items.map itemKey).Perm
            ((.solution, settings.solution.uniqueName) :: compiled.tasks.map Task.key)
        ∧ (∀ item ∈ again.items, item.outcome = .skipped)
        ∧ ∀ exchange ∈ (run compiled settings).transcript Memory.respond after,
            exchange.question.isCreate = false := by
  have coherent := CompiledSchema.coherent_of_compile compiles
  have wellFormed := coherent.toWellFormed
  obtain ⟨online, outcome, between, items, ensured, performed, rfl⟩ :=
    (run_eq_ok_iff wellFormed).mp ended
  obtain ⟨present, others⟩ := List.forall_mem_cons.mp (isClean_iff.mp clean)
  have reachable := (Keeps.of_run ensured).online online
  have solution := holds_of_run_ensureSolution online ensured present
  have stands := stands_of_run_perform coherent reachable
    (fun task => mem_tasks_of_mem_schedule coherent) (by simp [Named]) performed others
  have later := (Keeps.of_run performed).online reachable
  have greets : Idles (call .whoAmI) after (.ok Memory.userId) := .call later rfl rfl
  have finds : Idles (ensureSolution settings) after (.ok .skipped) := by
    have there := (Keeps.of_run performed).holds solution
    have looks : Idles (call (.solutionExists settings.solution.uniqueName)) after (.ok true) :=
      .call later rfl (Prod.ext (congrArg Except.ok there) rfl)
    exact looks.bind (.pure _)
  have deals : Idles
      (perform compiled settings (schedule compiled)
        [⟨.solution, settings.solution.uniqueName, .skipped⟩])
      after ((schedule compiled).map (·.item .skipped)) :=
    idles_perform coherent later stands (List.nil_append _).symm
      (List.forall_mem_singleton.mpr rfl) (List.forall_mem_nil _) rfl
  have idles : Idles (run compiled settings) after
      (.ok ⟨⟨.solution, settings.solution.uniqueName, .skipped⟩
        :: (schedule compiled).map (·.item .skipped)⟩) := by
    rw [run_eq_perform wellFormed]
    exact greets.bind (finds.bind (deals.bind (.pure _)))
  refine ⟨_, idles.run, ?_, ?_, idles.quiet⟩
  · have keys : ((schedule compiled).map (·.item .skipped)).map itemKey
        = (schedule compiled).map Task.key := by
      rw [List.map_map]
      exact List.map_congr_left fun task _ => task.itemKey_item .skipped
    rw [List.map_cons, keys]
    exact ((schedule_perm coherent).map Task.key).cons _
  · refine List.forall_mem_cons.mpr ⟨rfl, ?_⟩
    intro item member
    obtain ⟨task, _, rfl⟩ := List.mem_map.mp member
    cases task with
    | _ => rfl

/-- A store that has persons, without a label, and shows new tables after two checks.
-/
def personsOnly : Memory :=
  { (previewStore {}).withTable "person" ["code"] with delay := 2 }

/-- What becomes of staffing where there are persons already.
-/
def personsReport : Report where
  items := [
    ⟨.solution, "SimQuipTables", .created⟩,
    ⟨.table, "person", .skipped⟩,
    ⟨.column, "person.label", .created⟩,
    ⟨.table, "team", .created⟩,
    ⟨.relationship, "x_team_person_teamid", .created⟩,
    ⟨.relationship, "x_person_team_leadid", .created⟩,
    ⟨.component, "person", .created⟩,
    ⟨.component, "team", .created⟩
  ]

/-- Where there are persons already, a second run for staffing finds everything.
-/
theorem run_again_staffing
    : staffing.compile "x" = .ok staffed
      ∧ ((run staffed {}).run Memory.respond personsOnly).1 = .ok personsReport
      ∧ personsReport.isClean = true
      ∧ ∃ again : Report,
          (run staffed {}).run Memory.respond ((run staffed {}).run Memory.respond personsOnly).2
            = (.ok again, ((run staffed {}).run Memory.respond personsOnly).2)
          ∧ (again.items.map itemKey).Perm
              ((.solution, "SimQuipTables") :: staffed.tasks.map Task.key)
          ∧ (∀ item ∈ again.items, item.outcome = .skipped)
          ∧ ∀ exchange ∈ (run staffed {}).transcript Memory.respond
              ((run staffed {}).run Memory.respond personsOnly).2,
              exchange.question.isCreate = false := by
  have reported : ((run staffed {}).run Memory.respond personsOnly).1 = .ok personsReport := by
    decide +kernel
  exact ⟨staffing_compiles, reported, rfl,
    run_again staffing_compiles (Prod.ext reported rfl) rfl⟩

end Tablewright.Provision
