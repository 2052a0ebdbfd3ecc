import Tablewright.Proofs.Provision.Performance

/-! The calls of a run: what a store can be asked at all, whatever it answers. Every call belongs to
the opening of the run or serves one of its tasks.
-/

namespace Tablewright.Provision

open Dialogue (Course)
open Store (Answer Call Protocol call)

-----------------------------------------------------------------------------------------
-- Calls and what they are for
-----------------------------------------------------------------------------------------

/-- A call that opens a run: it reaches the store or deals with the solution.
-/
inductive Opens (settings : Settings) : Call → Prop
  | whoAmI : Opens settings .whoAmI
  | solutionExists : Opens settings (.solutionExists settings.solution.uniqueName)
  | findPublisher : Opens settings (.findPublisher settings.publisher.namePrefix)
  | createSolution (publisher : String)
    : Opens settings (.createSolution settings.solution publisher)

/-- A call that serves a task: it looks for what the task is about, creates that or waits for it.
-/
inductive Serves (compiled : CompiledSchema) (settings : Settings) : Task → Call → Prop
  | tableExists (entity : Entity)
    : Serves compiled settings (.table entity) (.tableExists entity.logicalName)
  | createTable (entity : Entity)
    : Serves compiled settings (.table entity) (.createTable entity entity.creationPrimary)
  | pause (entity : Entity)
    : Serves compiled settings (.table entity)
        (.pause settings.provision.visibilityIntervalMilliseconds)
  | columnExists (entity : Entity) (attr : Attribute)
    : Serves compiled settings (.column entity attr)
        (.columnExists entity.logicalName attr.logicalName)
  | createColumn (entity : Entity) (attr : Attribute)
    : Serves compiled settings (.column entity attr) (.createColumn entity.logicalName attr)
  | lookupExists (link : Relationship)
    : Serves compiled settings (.relationship link)
        (.columnExists link.referencingTable link.referencingAttribute)
  | createRelationship {link : Relationship} {lookup : Attribute}
    (found : compiled.lookup? link = some lookup)
    : Serves compiled settings (.relationship link) (.createRelationship link lookup)
  | tableId (name : String) : Serves compiled settings (.component name) (.tableId name)
  | solutionContains (name id : String)
    : Serves compiled settings (.component name)
        (.solutionContains settings.solution.uniqueName id)
  | addComponent (name id : String)
    : Serves compiled settings (.component name) (.addComponent settings.solution.uniqueName id)

variable {compiled : CompiledSchema} {settings : Settings} {report : List ReportItem}
variable {Allowed : Call → Prop}

-----------------------------------------------------------------------------------------
-- The calls of the parts of a run
-----------------------------------------------------------------------------------------

/-- A single call asks for itself.
-/
theorem asks_call {query : Call} (allowed : Allowed query) : (call query).Asks Allowed :=
  ⟨allowed, fun _ => trivial⟩

/-- Making something unless it is there asks what looking for it and making it ask.
-/
theorem asks_ensure {isThere : Protocol (Except StoreError Bool)}
    {make : Protocol (Except StoreError Unit)} (looks : isThere.Asks Allowed)
    (makes : make.Asks Allowed)
    : (ensure isThere make).Asks Allowed := by
  refine looks.bind fun found => ?_
  rcases found with cause | _ | _
  · exact Dialogue.asks_pure _
  · refine makes.bind fun result => ?_
    cases result with
    | _ => exact Dialogue.asks_pure _
  · exact Dialogue.asks_pure _

/-- Waiting for a table asks for nothing but the table, with pauses in between.
-/
theorem asks_awaitTable {table : String} {interval attempts : Nat}
    (looks : Allowed (.tableExists table)) (pauses : Allowed (.pause interval)) (left : Nat)
    : (awaitTable table interval attempts left).Asks Allowed := by
  induction left with
  | zero => exact Dialogue.asks_pure _
  | succ left ih =>
      refine (asks_call looks).bind fun found => ?_
      rcases found with cause | _ | _
      · exact Dialogue.asks_pure _
      · change (if left = 0 then _ else _ : Protocol _).Asks Allowed
        split
        · exact Dialogue.asks_pure _
        · exact (asks_call pauses).bind fun _ => ih
      · exact Dialogue.asks_pure _

/-- Dealing with the solution only opens a run.
-/
theorem asks_ensureSolution (settings : Settings)
    : (ensureSolution settings).Asks (Opens settings) := by
  refine (asks_call .solutionExists).bind fun there => ?_
  rcases there with cause | _ | _
  · exact Dialogue.asks_pure _
  · refine (asks_call .findPublisher).bind fun found => ?_
    rcases found with cause | _ | publisher
    · exact Dialogue.asks_pure _
    · exact Dialogue.asks_pure _
    · refine (asks_call (.createSolution publisher)).bind fun answer => ?_
      cases answer with
      | _ => exact Dialogue.asks_pure _
  · exact Dialogue.asks_pure _

/-- Dealing with a task makes only calls that serve it.
-/
theorem asks_pursue (report : List ReportItem) (task : Task)
    : (pursue compiled settings report task).Asks (Serves compiled settings task) := by
  cases task with
  | table entity =>
      refine asks_ensure (asks_call (.tableExists entity)) ?_
      refine (asks_call (.createTable entity)).bind fun answer => ?_
      cases answer with
      | error cause => exact Dialogue.asks_pure _
      | ok _ => exact asks_awaitTable (.tableExists entity) (.pause entity) _
  | column entity attr =>
      rw [pursue, pursueColumn]
      split
      · exact asks_ensure (asks_call (.columnExists entity attr))
          (asks_call (.createColumn entity attr))
      · exact Dialogue.asks_pure _
  | relationship link =>
      rw [pursue, pursueRelationship]
      split
      · exact Dialogue.asks_pure _
      split
      · exact Dialogue.asks_pure _
      · rename_i found
        exact asks_ensure (asks_call (.lookupExists link)) (asks_call (.createRelationship found))
  | component name =>
      rw [pursue, pursueComponent]
      split
      · exact Dialogue.asks_pure _
      split
      · exact Dialogue.asks_pure _
      refine (asks_call (.tableId name)).bind fun answer => ?_
      rcases answer with cause | _ | id
      · exact Dialogue.asks_pure _
      · exact Dialogue.asks_pure _
      · exact asks_ensure (asks_call (.solutionContains name id)) (asks_call (.addComponent name id))

/-- Dealing with tasks makes only calls that serve one of them.
-/
theorem asks_perform (tasks : List Task) (report : List ReportItem)
    : (perform compiled settings tasks report).Asks fun query =>
        ∃ task ∈ tasks, Serves compiled settings task query := by
  induction tasks generalizing report with
  | nil => exact Dialogue.asks_pure _
  | cons task rest ih =>
      have others (report : List ReportItem)
          : (perform compiled settings rest report).Asks fun query =>
              ∃ other ∈ task :: rest, Serves compiled settings other query :=
        (ih report).mono fun query served => by
          obtain ⟨other, listed, serves⟩ := served
          exact ⟨other, List.mem_cons_of_mem _ listed, serves⟩
      rw [perform]
      split
      · exact others report
      · refine ((asks_pursue report task).mono fun query serves => ?_).bind fun outcome => ?_
        · exact ⟨task, List.mem_cons_self, serves⟩
        · exact (others _).bind fun items => Dialogue.asks_pure _

/-- A run makes only calls that open it or serve something on its schedule.
-/
theorem asks_run (wellFormed : compiled.WellFormed) (settings : Settings)
    : (run compiled settings).Asks fun query =>
        Opens settings query ∨ ∃ task ∈ schedule compiled, Serves compiled settings task query := by
  rw [run_eq_perform wellFormed]
  refine (asks_call (.inl .whoAmI)).bind fun user => ?_
  cases user with
  | error cause => exact Dialogue.asks_pure _
  | ok name =>
      refine ((asks_ensureSolution settings).mono fun _ => .inl).bind fun solution => ?_
      cases solution with
      | error error => exact Dialogue.asks_pure _
      | ok outcome =>
          exact ((asks_perform _ _).mono fun _ => .inr).bind fun items => Dialogue.asks_pure _

end Tablewright.Provision
