import Tablewright.Proofs.Provision.Calls
import Tablewright.Proofs.Provision.Order
import Tablewright.Proofs.Provision.Turns
import Tablewright.Proofs.Store.Requests

/-! The traffic of a run with a web service: for the solution and for every task, what is asked,
how the responses are taken, and on which of them something is posted.
-/

namespace Tablewright.Provision

open Dialogue (Course)
open Store (Call Protocol call)
open Store.WebApi

-----------------------------------------------------------------------------------------
-- The traffic of tasks
-----------------------------------------------------------------------------------------

/-- The resource of what a task stands for, if it has a resource of its own.
-/
def Task.recordPath? : Task → Option String
  | .table entity => some (tablePath entity.logicalName)
  | .column entity attr => some (columnPath entity.logicalName attr.logicalName)
  | .relationship link => some (columnPath link.referencingTable link.referencingAttribute)
  | .component _ => none

/-- What looking for what a task stands for comes to.
-/
inductive Sought (connection : Connection) (settings : Settings)
    : Task → Traffic → Except StoreError Bool → Prop
  | unanswered {task : Task} {path : String} {traffic : Traffic} {cause : StoreError}
    (record : task.recordPath? = some path)
    (fetched : Fetched connection path nameQuery traffic (.error cause))
    : Sought connection settings task traffic (.error cause)
  | missing {task : Task} {path : String} {traffic : Traffic}
    (record : task.recordPath? = some path)
    (fetched : Fetched connection path nameQuery traffic (.ok none))
    : Sought connection settings task traffic (.ok false)
  | found {task : Task} {path : String} {traffic : Traffic} {value : Json.Value}
    (record : task.recordPath? = some path)
    (fetched : Fetched connection path nameQuery traffic (.ok (some value)))
    : Sought connection settings task traffic (.ok true)
  | unidentified {name : String} {traffic : Traffic} {cause : StoreError}
    (described : TableDescribed connection name traffic (.error cause))
    : Sought connection settings (.component name) traffic (.error cause)
  | component {name id : String} {first later : Traffic} {result : Except StoreError Bool}
    (described : TableDescribed connection name first (.ok (some id)))
    (contained : Contained connection settings.solution.uniqueName id later result)
    : Sought connection settings (.component name) (first ++ later) result

/-- The request that creates what a task with a resource of its own stands for.
-/
inductive Creates (connection : Connection) (compiled : CompiledSchema)
    : Task → Http.Request → Prop
  | table (entity : Entity)
    : Creates connection compiled (.table entity)
        (postRequest connection "EntityDefinitions"
          (Payload.tableBody entity entity.creationPrimary connection.language))
  | column (entity : Entity) (attr : Attribute)
    : Creates connection compiled (.column entity attr)
        (postRequest connection (tablePath entity.logicalName ++ "/Attributes")
          (Payload.attributeBody attr connection.language))
  | relationship {link : Relationship} {lookup : Attribute}
    (found : compiled.lookup? link = some lookup)
    : Creates connection compiled (.relationship link)
        (postRequest connection "RelationshipDefinitions"
          (Payload.relationshipBody link lookup connection.language))

/-- Traffic that says that what a task stands for is not there, and the request that creates it.
-/
inductive Licensed (connection : Connection) (compiled : CompiledSchema) (settings : Settings)
    : Task → Traffic → Http.Request → Prop
  | record {task : Task} {path : String} {response : Http.Response} {request : Http.Request}
    (record : task.recordPath? = some path) (missing : response.status = 404)
    (creates : Creates connection compiled task request)
    : Licensed connection compiled settings task
        [⟨.send (getRequest connection path nameQuery), some response⟩] request
  | component {name id : String} {first later : Traffic}
    (described : TableDescribed connection name first (.ok (some id)))
    (absent : Contained connection settings.solution.uniqueName id later (.ok false))
    : Licensed connection compiled settings (.component name) (first ++ later)
        (postRequest connection "AddSolutionComponent"
          (Payload.componentBody settings.solution.uniqueName id))

/-- The traffic of a task and what becomes of it. Something is posted only when the task was found
missing, and then it is what creates it; after that nothing more is posted.
-/
inductive Deals (connection : Connection) (compiled : CompiledSchema) (settings : Settings)
    : Task → Traffic → Outcome → Prop
  | blocked {task : Task} (obstacle : Obstacle)
    : Deals connection compiled settings task [] (.blocked obstacle)
  | unnumbered {name : String} {traffic : Traffic}
    (described : TableDescribed connection name traffic (.ok none))
    : Deals connection compiled settings (.component name) traffic (.blocked (.noTableId name))
  | failed {task : Task} {traffic : Traffic} {cause : StoreError}
    (sought : Sought connection settings task traffic (.error cause))
    : Deals connection compiled settings task traffic (.failed cause)
  | skipped {task : Task} {traffic : Traffic}
    (sought : Sought connection settings task traffic (.ok true))
    : Deals connection compiled settings task traffic .skipped
  | unsent {task : Task} {traffic : Traffic}
    (sought : Sought connection settings task traffic (.ok false))
    : Deals connection compiled settings task traffic (.failed (.transport "builder error"))
  | posted {task : Task} {evidence later : Traffic} {request : Http.Request}
    {answer : Option Http.Response} {outcome : Outcome}
    (sought : Sought connection settings task evidence (.ok false))
    (licensed : Licensed connection compiled settings task evidence request)
    (rest : Quiet later) (tried : outcome = .created ∨ outcome.isFailed = true)
    (accepted
      : outcome = .created → ∃ response, answer = some response ∧ response.isSuccess = true)
    : Deals connection compiled settings task (evidence ++ ⟨.send request, answer⟩ :: later)
        outcome

variable {connection : Connection} {compiled : CompiledSchema} {settings : Settings}
variable {traffic evidence first later : Traffic} {task : Task} {outcome : Outcome}

/-- What is made unless it is there is looked for first.
-/
theorem course_exchange_ensure {isThere : Protocol (Except StoreError Bool)}
    {make : Protocol (Except StoreError Unit)}
    (course : Course (exchange connection (ensure isThere make)) traffic outcome)
    : (∃ cause,
        Course (exchange connection isThere) traffic (.error cause) ∧ outcome = .failed cause)
      ∨ (Course (exchange connection isThere) traffic (.ok true) ∧ outcome = .skipped)
      ∨ ∃ first later result,
          Course (exchange connection isThere) first (.ok false)
          ∧ Course (exchange connection make) later result
          ∧ traffic = first ++ later
          ∧ outcome = outcomeOf result := by
  obtain ⟨first, found, later, looked, continued, rfl⟩ := course_exchange_bind_iff.mp course
  rcases found with cause | _ | _
  · obtain ⟨rfl, rfl⟩ := course_exchange_pure_iff.mp continued
    rw [List.append_nil]
    exact .inl ⟨cause, looked, rfl⟩
  · obtain ⟨second, result, _, making, ended, rfl⟩ := course_exchange_bind_iff.mp continued
    refine .inr (.inr ⟨first, second, result, looked, making, ?_⟩)
    cases result with
    | _ =>
        obtain ⟨rfl, rfl⟩ := course_exchange_pure_iff.mp ended
        exact ⟨by rw [List.append_nil], rfl⟩
  · obtain ⟨rfl, rfl⟩ := course_exchange_pure_iff.mp continued
    rw [List.append_nil]
    exact .inr (.inl ⟨looked, rfl⟩)

/-- To post what creates a task that was found missing, and to go on only after success, is to
deal with the task.
-/
theorem Deals.of_posted {path : String} {body : Json.Value} {result final : Except StoreError Unit}
    (sought : Sought connection settings task evidence (.ok false))
    (licensed
      : Licensed connection compiled settings task evidence (postRequest connection path body))
    (posted : Posted connection path body first result)
    (stops : ∀ cause, result = .error cause → later = [] ∧ final = .error cause)
    (rest : Quiet later)
    : Deals connection compiled settings task (evidence ++ (first ++ later))
        (outcomeOf final) := by
  cases posted with
  | unanswered sent =>
      obtain ⟨rfl, rfl⟩ := stops _ rfl
      cases sent with
      | unwritable =>
          rw [List.append_nil, List.append_nil]
          exact .unsent sought
      | lost => exact .posted sought licensed quiet_nil (.inr rfl) nofun
  | @accepted response success =>
      refine .posted sought licensed rest ?_ fun _ => ⟨response, rfl, success⟩
      cases final with
      | error cause => exact .inr rfl
      | ok _ => exact .inl rfl
  | refused unsuccessful =>
      obtain ⟨rfl, rfl⟩ := stops _ rfl
      exact .posted sought licensed quiet_nil (.inr rfl) nofun

/-- What making something with a resource of its own comes to: what creates it is posted, and only a
success is followed by anything, which posts nothing.
-/
inductive PostsOnce (connection : Connection) (compiled : CompiledSchema) (task : Task)
    : Traffic → Except StoreError Unit → Prop
  | posted {path : String} {body : Json.Value} {first later : Traffic}
    {answer result : Except StoreError Unit}
    (creates : Creates connection compiled task (postRequest connection path body))
    (posted : Posted connection path body first answer)
    (stops : ∀ cause, answer = .error cause → later = [] ∧ result = .error cause)
    (quiet : Quiet later)
    : PostsOnce connection compiled task (first ++ later) result

/-- To post what creates something is to make it.
-/
theorem PostsOnce.of_course_post {path : String} {body : Json.Value}
    {result : Except StoreError Unit}
    (creates : Creates connection compiled task (postRequest connection path body))
    (course : Course (post connection path body) traffic result)
    : PostsOnce connection compiled task traffic result := by
  rw [← List.append_nil traffic]
  exact .posted creates (course_post course) (fun _ same => ⟨rfl, same⟩) quiet_nil

/-- A table is made by posting it and then waiting until it is seen.
-/
theorem postsOnce_of_course_createTable {entity : Entity} {waiting : ProvisionSettings}
    {result : Except StoreError Unit}
    (course : Course (exchange connection (createTable waiting entity)) traffic result)
    : PostsOnce connection compiled (.table entity) traffic result := by
  obtain ⟨first, answer, later, tried, continued, rfl⟩ := course_exchange_bind_iff.mp course
  rw [exchange_call] at tried
  cases answer with
  | error cause =>
      obtain ⟨rfl, rfl⟩ := course_exchange_pure_iff.mp continued
      exact .posted (.table entity) (course_post tried) (fun _ same => ⟨rfl, same⟩) quiet_nil
  | ok _ =>
      have waits : (waitUntilVisible entity.logicalName waiting).Asks
          fun query => query.isCreate = false := by
        refine asks_awaitTable ?_ ?_ _
        · rfl
        · rfl
      exact .posted (.table entity) (course_post tried) nofun
        (quiet_of_course_exchange waits continued)

/-- To make something with a resource of its own unless it is there is to deal with its task.
-/
theorem Deals.of_record {path : String} {isThere : Protocol (Except StoreError Bool)}
    {make : Protocol (Except StoreError Unit)} (record : task.recordPath? = some path)
    (looks
      : ∀ {traffic result},
          Course (exchange connection isThere) traffic result
          → ∃ found,
              Fetched connection path nameQuery traffic found ∧ result = isFound found)
    (makes
      : ∀ {traffic result},
          Course (exchange connection make) traffic result
          → PostsOnce connection compiled task traffic result)
    (course : Course (exchange connection (ensure isThere make)) traffic outcome)
    : Deals connection compiled settings task traffic outcome := by
  rcases course_exchange_ensure course with ⟨cause, looking, rfl⟩ | ⟨looking, rfl⟩
    | ⟨first, later, result, looking, making, rfl, rfl⟩
  · obtain ⟨found, fetched, read⟩ := looks looking
    rcases found with _ | _ | _
    · cases read
      exact .failed (.unanswered record fetched)
    · cases read
    · cases read
  · obtain ⟨found, fetched, read⟩ := looks looking
    rcases found with _ | _ | _
    · cases read
    · cases read
    · exact .skipped (.found record fetched)
  · obtain ⟨found, fetched, read⟩ := looks looking
    rcases found with _ | _ | _
    · cases read
    · have sought : Sought connection settings task first (.ok false) := .missing record fetched
      cases makes making with
      | posted creates done stops quiet =>
          cases fetched with
          | missing status =>
              exact .of_posted sought (.record record status creates) done stops quiet
    · cases read

/-- To add a table to the solution by its number unless it is in there is to deal with its task.
-/
theorem deals_of_course_addTable {name : String}
    (course
      : Course (exchange connection (addTable settings.solution.uniqueName name)) traffic outcome)
    : Deals connection compiled settings (.component name) traffic outcome := by
  obtain ⟨first, found, later, asked, continued, rfl⟩ := course_exchange_bind_iff.mp course
  have described := course_tableId (exchange_call connection _ ▸ asked)
  rcases found with cause | _ | id
  · obtain ⟨rfl, rfl⟩ := course_exchange_pure_iff.mp continued
    rw [List.append_nil]
    exact .failed (.unidentified described)
  · obtain ⟨rfl, rfl⟩ := course_exchange_pure_iff.mp continued
    rw [List.append_nil]
    exact .unnumbered described
  · rcases course_exchange_ensure continued with ⟨cause, looking, rfl⟩ | ⟨looking, rfl⟩
      | ⟨second, third, result, looking, making, rfl, rfl⟩
    all_goals
      rw [exchange_call] at looking
      have contained := course_solutionContains looking
    · exact .failed (.component described contained)
    · exact .skipped (.component described contained)
    · rw [exchange_call] at making
      have licensed : Licensed connection compiled settings _ _ _ :=
        .component described contained
      have dealt := Deals.of_posted (.component described contained) licensed
        (course_post making) (fun _ same => ⟨rfl, same⟩) quiet_nil
      rwa [List.append_nil, List.append_assoc] at dealt

/-- Dealing with a task is one of the ways to deal with it.
-/
theorem deals_of_course_pursue {report : List ReportItem}
    (course : Course (exchange connection (pursue compiled settings report task)) traffic outcome)
    : Deals connection compiled settings task traffic outcome := by
  cases task with
  | table entity =>
      rw [pursue, ensureTable] at course
      exact .of_record rfl
        (fun looking => course_tableExists (exchange_call connection _ ▸ looking))
        (fun making => postsOnce_of_course_createTable making) course
  | column entity attr =>
      rw [pursue, pursueColumn] at course
      split at course
      · refine .of_record rfl
          (fun looking => course_columnExists (exchange_call connection _ ▸ looking))
          (fun making => ?_) course
        rw [exchange_call] at making
        exact .of_course_post (.column entity attr) making
      · obtain ⟨rfl, rfl⟩ := course_exchange_pure_iff.mp course
        exact .blocked _
  | relationship link =>
      rw [pursue, pursueRelationship] at course
      split at course
      · obtain ⟨rfl, rfl⟩ := course_exchange_pure_iff.mp course
        exact .blocked _
      split at course
      · obtain ⟨rfl, rfl⟩ := course_exchange_pure_iff.mp course
        exact .blocked _
      · next lookup found =>
        refine .of_record rfl
          (fun looking => course_columnExists (exchange_call connection _ ▸ looking))
          (fun making => ?_) course
        rw [exchange_call] at making
        exact .of_course_post (.relationship found) making
  | component name =>
      rw [pursue, pursueComponent] at course
      split at course
      · obtain ⟨rfl, rfl⟩ := course_exchange_pure_iff.mp course
        exact .blocked _
      split at course
      · obtain ⟨rfl, rfl⟩ := course_exchange_pure_iff.mp course
        exact .blocked _
      · exact deals_of_course_addTable course

/-- A task with its traffic and what became of it.
-/
structure Dealing where
  task : Task
  traffic : Traffic
  outcome : Outcome

/-- The item of a task that was dealt with.
-/
def Dealing.item (dealing : Dealing) : ReportItem :=
  dealing.task.item dealing.outcome

/-- Tasks are dealt with one after the other, each of them at most once.
Witness: induction on the tasks.
-/
theorem dealings_of_course_perform {tasks : List Task} {report items : List ReportItem}
    (course
      : Course (exchange connection (perform compiled settings tasks report)) traffic items)
    : ∃ dealings : List Dealing,
        (dealings.map (·.task)).Sublist tasks
        ∧ traffic = dealings.flatMap (·.traffic)
        ∧ items = dealings.map Dealing.item
        ∧ ∀ dealing ∈ dealings,
            Deals connection compiled settings dealing.task dealing.traffic dealing.outcome := by
  induction tasks generalizing report traffic items with
  | nil =>
      obtain ⟨rfl, rfl⟩ := course_exchange_pure_iff.mp course
      exact ⟨[], .slnil, rfl, rfl, List.forall_mem_nil _⟩
  | cons task rest ih =>
      rw [perform] at course
      split at course
      · obtain ⟨dealings, ordered, parts⟩ := ih course
        exact ⟨dealings, ordered.cons _, parts⟩
      · obtain ⟨first, outcome, _, pursued, continued, rfl⟩ := course_exchange_bind_iff.mp course
        obtain ⟨later, others, _, performed, ended, rfl⟩ := course_exchange_bind_iff.mp continued
        obtain ⟨rfl, rfl⟩ := course_exchange_pure_iff.mp ended
        obtain ⟨dealings, ordered, rfl, rfl, dealt⟩ := ih performed
        refine ⟨⟨task, first, outcome⟩ :: dealings, ordered.cons_cons _, ?_, rfl, ?_⟩
        · rw [List.append_nil, List.flatMap_cons]
        · exact List.forall_mem_cons.mpr ⟨deals_of_course_pursue pursued, dealt⟩

-----------------------------------------------------------------------------------------
-- The traffic that opens a run
-----------------------------------------------------------------------------------------

/-- Traffic that says that the solution is not there, and who its publisher is, and the request that
creates the solution.
-/
inductive LicensedSolution (connection : Connection) (settings : Settings)
    : Traffic → Http.Request → Prop
  | intro {first later : Traffic} {publisher : String}
    (absent : SolutionListed connection settings.solution.uniqueName first (.ok none))
    (known
      : PublisherListed connection settings.publisher.namePrefix later (.ok (some publisher)))
    : LicensedSolution connection settings (first ++ later)
        (postRequest connection "solutions"
          (Payload.solutionBody settings.solution publisher))

/-- What becomes of the solution, or why the run is given up.
-/
inductive SettlesSolution (connection : Connection) (settings : Settings)
    : Traffic → Except PreconditionError Outcome → Prop
  | failed {traffic : Traffic} {cause : StoreError}
    (looked : SolutionListed connection settings.solution.uniqueName traffic (.error cause))
    : SettlesSolution connection settings traffic (.ok (.failed cause))
  | skipped {traffic : Traffic} {id : String}
    (looked : SolutionListed connection settings.solution.uniqueName traffic (.ok (some id)))
    : SettlesSolution connection settings traffic (.ok .skipped)
  | publisherLookup {first later : Traffic} {cause : StoreError}
    (absent : SolutionListed connection settings.solution.uniqueName first (.ok none))
    (searched
      : PublisherListed connection settings.publisher.namePrefix later (.error cause))
    : SettlesSolution connection settings (first ++ later) (.error (.publisherLookup cause))
  | publisherNotFound {first later : Traffic}
    (absent : SolutionListed connection settings.solution.uniqueName first (.ok none))
    (searched : PublisherListed connection settings.publisher.namePrefix later (.ok none))
    : SettlesSolution connection settings (first ++ later)
        (.error (.publisherNotFound settings.publisher.namePrefix))
  | unsent {first later : Traffic} {publisher : String}
    (absent : SolutionListed connection settings.solution.uniqueName first (.ok none))
    (known
      : PublisherListed connection settings.publisher.namePrefix later (.ok (some publisher)))
    : SettlesSolution connection settings (first ++ later)
        (.ok (.failed (.transport "builder error")))
  | posted {evidence : Traffic} {request : Http.Request} {answer : Option Http.Response}
    {outcome : Outcome} (licensed : LicensedSolution connection settings evidence request)
    (tried : outcome = .created ∨ outcome.isFailed = true)
    (accepted
      : outcome = .created → ∃ response, answer = some response ∧ response.isSuccess = true)
    : SettlesSolution connection settings (evidence ++ [⟨.send request, answer⟩]) (.ok outcome)

/-- Dealing with the solution is one of the ways to settle it.
-/
theorem settlesSolution_of_course {result : Except PreconditionError Outcome}
    (course : Course (exchange connection (ensureSolution settings)) traffic result)
    : SettlesSolution connection settings traffic result := by
  obtain ⟨first, there, _, asked, continued, rfl⟩ := course_exchange_bind_iff.mp course
  rw [exchange_call] at asked
  obtain ⟨id, looked, rfl⟩ := course_solutionExists asked
  rcases id with cause | _ | id
  · obtain ⟨rfl, rfl⟩ := course_exchange_pure_iff.mp continued
    rw [List.append_nil]
    exact .failed looked
  · obtain ⟨second, found, _, searching, onward, rfl⟩ := course_exchange_bind_iff.mp continued
    rw [exchange_call] at searching
    have searched := course_publisherId searching
    rcases found with cause | _ | publisher
    · obtain ⟨rfl, rfl⟩ := course_exchange_pure_iff.mp onward
      rw [List.append_nil]
      exact .publisherLookup looked searched
    · obtain ⟨rfl, rfl⟩ := course_exchange_pure_iff.mp onward
      rw [List.append_nil]
      exact .publisherNotFound looked searched
    · obtain ⟨third, answer, _, making, ended, rfl⟩ := course_exchange_bind_iff.mp onward
      rw [exchange_call] at making
      have posted := course_post making
      have licensed := LicensedSolution.intro looked searched
      rw [← List.append_assoc]
      cases posted with
      | unanswered sent =>
          obtain ⟨rfl, rfl⟩ := course_exchange_pure_iff.mp ended
          cases sent with
          | unwritable =>
              rw [List.append_nil, List.append_nil]
              exact .unsent looked searched
          | lost => exact .posted licensed (.inr rfl) nofun
      | @accepted response success =>
          obtain ⟨rfl, rfl⟩ := course_exchange_pure_iff.mp ended
          exact .posted licensed (.inl rfl) fun _ => ⟨response, rfl, success⟩
      | refused unsuccessful =>
          obtain ⟨rfl, rfl⟩ := course_exchange_pure_iff.mp ended
          exact .posted licensed (.inr rfl) nofun
  · obtain ⟨rfl, rfl⟩ := course_exchange_pure_iff.mp continued
    rw [List.append_nil]
    exact .skipped looked

/-- The traffic of a run and its result: the user is asked for, the solution is settled, and the tasks
are dealt with in their order.
-/
inductive Runs (connection : Connection) (compiled : CompiledSchema) (settings : Settings)
    : Traffic → Except PreconditionError Report → Prop
  | unreachable {traffic : Traffic} {user : Except StoreError (Option String)}
    {cause : StoreError}
    (greeted : Described connection "WhoAmI" [] "UserId" traffic user)
    (failed : userOf user = .error cause)
    : Runs connection compiled settings traffic (.error (.unreachable cause))
  | halted {greeting opening : Traffic} {user : String} {error : PreconditionError}
    (greeted : Described connection "WhoAmI" [] "UserId" greeting (.ok (some user)))
    (settled : SettlesSolution connection settings opening (.error error))
    : Runs connection compiled settings (greeting ++ opening) (.error error)
  | finished {greeting opening : Traffic} {user : String} {outcome : Outcome}
    {dealings : List Dealing}
    (greeted : Described connection "WhoAmI" [] "UserId" greeting (.ok (some user)))
    (settled : SettlesSolution connection settings opening (.ok outcome))
    (asked : ∀ dealing ∈ dealings, dealing.task ∈ compiled.tasks)
    (distinct : (dealings.map (·.task.key)).Nodup)
    (dealt
      : ∀ dealing ∈ dealings,
          Deals connection compiled settings dealing.task dealing.traffic dealing.outcome)
    : Runs connection compiled settings
        (greeting ++ (opening ++ dealings.flatMap (·.traffic)))
        (.ok ⟨⟨.solution, settings.solution.uniqueName, outcome⟩ :: dealings.map Dealing.item⟩)

/-- A run of a coherent schema asks for the user, settles the solution and deals with the tasks.
-/
theorem runs_of_course (coherent : compiled.Coherent)
    {result : Except PreconditionError Report}
    (course : Course (exchange connection (run compiled settings)) traffic result)
    : Runs connection compiled settings traffic result := by
  rw [run_eq_perform coherent.toWellFormed] at course
  obtain ⟨greeting, user, _, asked, continued, rfl⟩ := course_exchange_bind_iff.mp course
  rw [exchange_call] at asked
  obtain ⟨found, greeted, named⟩ := course_userId asked
  cases user with
  | error cause =>
      obtain ⟨rfl, rfl⟩ := course_exchange_pure_iff.mp continued
      rw [List.append_nil]
      exact .unreachable greeted named.symm
  | ok user =>
      obtain rfl : found = .ok (some user) := by
        rcases found with _ | _ | _
        · cases named
        · cases named
        · cases named
          rfl
      obtain ⟨opening, settled, _, ensured, onward, rfl⟩ :=
        course_exchange_bind_iff.mp continued
      have settles := settlesSolution_of_course ensured
      cases settled with
      | error error =>
          obtain ⟨rfl, rfl⟩ := course_exchange_pure_iff.mp onward
          rw [List.append_nil]
          exact .halted greeted settles
      | ok outcome =>
          obtain ⟨later, items, _, performed, ended, rfl⟩ := course_exchange_bind_iff.mp onward
          obtain ⟨rfl, rfl⟩ := course_exchange_pure_iff.mp ended
          obtain ⟨dealings, ordered, rfl, rfl, dealt⟩ := dealings_of_course_perform performed
          rw [List.append_nil]
          refine .finished greeted settles (fun dealing member => ?_) ?_ dealt
          · exact mem_tasks_of_mem_schedule coherent
              (ordered.subset (List.mem_map_of_mem member))
          · have keys := (ordered.map Task.key).nodup (keys_nodup coherent)
            rwa [List.map_map] at keys

-----------------------------------------------------------------------------------------
-- Every post has its licence
-----------------------------------------------------------------------------------------

/-- Directly before a request that posts something stands the traffic that says that it is missing.
-/
def Cautious (connection : Connection) (compiled : CompiledSchema) (settings : Settings)
    (traffic : Traffic)
    : Prop :=
  ∀ before request answer after,
    traffic = before ++ ⟨.send request, answer⟩ :: after
    → request.method = .post
    → ∃ earlier evidence,
        before = earlier ++ evidence
        ∧ (LicensedSolution connection settings evidence request
          ∨ ∃ task ∈ compiled.tasks, Licensed connection compiled settings task evidence request)

namespace Cautious

/-- Where nothing is posted, there is nothing to be cautious about.
-/
theorem of_quiet (quiet : Quiet traffic) : Cautious connection compiled settings traffic := by
  rintro before request answer after rfl posts
  exact absurd posts (quiet ⟨.send request, answer⟩ (by simp))

/-- Cautious stretches of traffic in a row are cautious.
-/
theorem append (before : Cautious connection compiled settings first)
    (after : Cautious connection compiled settings later)
    : Cautious connection compiled settings (first ++ later) := by
  intro left request answer right same posts
  rcases List.append_eq_append_iff.mp same with ⟨middle, rfl, split⟩ | ⟨middle, rfl, split⟩
  · obtain ⟨earlier, evidence, rfl, licensed⟩ := after middle request answer right split posts
    exact ⟨first ++ earlier, evidence, (List.append_assoc _ _ _).symm, licensed⟩
  · cases middle with
    | nil =>
        obtain ⟨earlier, evidence, same, licensed⟩ :=
          after [] request answer right split.symm posts
        obtain ⟨rfl, rfl⟩ := List.append_eq_nil_iff.mp same.symm
        exact ⟨left, [], (List.append_nil left).symm, licensed⟩
    | cons exchange rest =>
        obtain ⟨rfl, rfl⟩ := List.cons.inj split
        exact before left request answer rest rfl posts

/-- One post after the traffic that licenses it is cautious when nothing else is posted.
-/
theorem posted {request : Http.Request} {answer : Option Http.Response}
    (before : Quiet evidence) (after : Quiet later)
    (licensed
      : LicensedSolution connection settings evidence request
        ∨ ∃ task ∈ compiled.tasks,
            Licensed connection compiled settings task evidence request)
    : Cautious connection compiled settings (evidence ++ ⟨.send request, answer⟩ :: later) := by
  intro left other reply right same posts
  rcases List.append_eq_append_iff.mp same with ⟨middle, rfl, split⟩ | ⟨middle, rfl, split⟩
  · cases middle with
    | nil =>
        obtain ⟨equal, rfl⟩ := List.cons.inj split
        cases equal
        exact ⟨[], evidence, by simp, licensed⟩
    | cons exchange rest =>
        obtain ⟨rfl, rfl⟩ := List.cons.inj split
        exact absurd posts (after ⟨.send other, reply⟩ (by simp))
  · cases middle with
    | nil =>
        obtain ⟨equal, rfl⟩ := List.cons.inj split
        cases equal
        exact ⟨[], left, rfl, by rwa [List.append_nil] at licensed⟩
    | cons exchange rest =>
        obtain ⟨rfl, rfl⟩ := List.cons.inj split
        exact absurd posts (before ⟨.send other, reply⟩ (by simp))

end Cautious

/-- Looking for what a task stands for posts nothing.
-/
theorem Sought.quiet {found : Except StoreError Bool}
    (sought : Sought connection settings task traffic found)
    : Quiet traffic := by
  cases sought with
  | unanswered _ fetched | missing _ fetched | found _ fetched => exact fetched.quiet
  | unidentified described => exact described.quiet
  | component described contained => exact described.quiet.append contained.quiet

/-- The traffic of a task is cautious.
-/
theorem Deals.cautious (asked : task ∈ compiled.tasks)
    (deals : Deals connection compiled settings task traffic outcome)
    : Cautious connection compiled settings traffic := by
  cases deals with
  | blocked => exact .of_quiet quiet_nil
  | unnumbered described => exact .of_quiet described.quiet
  | failed sought | skipped sought | unsent sought => exact .of_quiet sought.quiet
  | posted sought licensed rest => exact .posted sought.quiet rest (.inr ⟨task, asked, licensed⟩)

/-- The traffic of the solution is cautious.
-/
theorem SettlesSolution.cautious {result : Except PreconditionError Outcome}
    (settles : SettlesSolution connection settings traffic result)
    : Cautious connection compiled settings traffic := by
  cases settles with
  | failed looked | skipped looked => exact .of_quiet looked.quiet
  | publisherLookup looked searched | publisherNotFound looked searched
  | unsent looked searched =>
      exact .of_quiet (looked.quiet.append searched.quiet)
  | posted licensed =>
      refine .posted ?_ quiet_nil (.inl licensed)
      cases licensed with
      | intro looked known => exact looked.quiet.append known.quiet

/-- The traffic of a run is cautious.
-/
theorem Runs.cautious {result : Except PreconditionError Report}
    (runs : Runs connection compiled settings traffic result)
    : Cautious connection compiled settings traffic := by
  cases runs with
  | unreachable greeted => exact .of_quiet greeted.quiet
  | halted greeted settled => exact .append (.of_quiet greeted.quiet) settled.cautious
  | @finished _ _ _ _ dealings greeted settled asked distinct dealt =>
      refine .append (.of_quiet greeted.quiet) (.append settled.cautious ?_)
      clear greeted settled distinct
      induction dealings with
      | nil => exact .of_quiet quiet_nil
      | cons dealing rest ih =>
          obtain ⟨own, others⟩ := List.forall_mem_cons.mp asked
          obtain ⟨deals, later⟩ := List.forall_mem_cons.mp dealt
          exact .append (deals.cautious own) (ih others later)

/-- Whatever a web service answers, a run posts what creates an item only directly after the service
has said that the item is missing: the resource of a table or a column by the status 404, and a
solution or a component by that status or by a success that carries no array of records or an
empty one. The traffic of the run comes apart into that of its items, of which each that is answered
otherwise fails or is there, and has no post among its traffic.
-/
theorem run_posts {schema : Schema} {publisherPrefix : String}
    (compiles : schema.compile publisherPrefix = .ok compiled)
    {result : Except PreconditionError Report}
    (course : Course (exchange connection (run compiled settings)) traffic result)
    : Cautious connection compiled settings traffic
      ∧ Runs connection compiled settings traffic result := by
  have runs := runs_of_course (CompiledSchema.coherent_of_compile compiles) course
  exact ⟨runs.cautious, runs⟩

/-- A connection without anything special about it.
-/
def plainConnection : Connection where
  base := "http://h"
  token := "token"
  language := 1033

/-- A service that knows the user and the publisher, takes everything that is posted, and has nothing
to say about anything else.
-/
def vagueService (request : Http.Request) : Http.Response :=
  if request.method = .post then
    ⟨204, ""⟩
  else if request.url = "http://h/WhoAmI" then
    ⟨200, "\x7b\"UserId\":\"u\"\x7d"⟩
  else if request.url = "http://h/publishers" then
    ⟨200, "\x7b\"value\":[\x7b\"publisherid\":\"p\"\x7d]\x7d"⟩
  else
    ⟨200, "\x7b\x7d"⟩

/-- A service answers every request, and time passes without one.
-/
def serve (service : Http.Request → Http.Response)
    : Unit → (question : Http.Question) → Http.Answer question × Unit
  | _, .send request => (some (service request), ())
  | _, .pause _ => ((), ())

/-- The traffic of a run for staffing with the vague service.
-/
def vagueTraffic : Traffic :=
  (exchange plainConnection (run staffed {})).transcript (serve vagueService) ()

/-- The result of a run for staffing with the vague service.
-/
def vagueResult : Except PreconditionError Report :=
  ((exchange plainConnection (run staffed {})).run (serve vagueService) ()).1

/-- The run with the vague service posts only what it takes for missing.
-/
theorem run_posts_vague
    : staffing.compile "x" = .ok staffed
      ∧ Course (exchange plainConnection (run staffed {})) vagueTraffic vagueResult
      ∧ Cautious plainConnection staffed {} vagueTraffic
      ∧ Runs plainConnection staffed {} vagueTraffic vagueResult :=
  ⟨staffing_compiles, Dialogue.course_transcript _ _ _,
    run_posts staffing_compiles (Dialogue.course_transcript (serve vagueService) _ ())⟩

/-- An exchange by its method, its address and the response.
-/
def summary : Dialogue.Exchange Http.Question Http.Answer → String × String × Option Http.Response
  | ⟨.send request, answer⟩ => (request.method.name, request.url, answer)
  | ⟨.pause _, _⟩ => ("", "", none)

/-- The solution is posted after a success that carries no array of records.
-/
theorem solution_posted_without_array
    : staffing.compile "x" = .ok staffed
      ∧ Course (exchange plainConnection (run staffed {})) vagueTraffic vagueResult
      ∧ (vagueTraffic.map summary).take 4
        = [
          ("GET", "http://h/WhoAmI", some ⟨200, "\x7b\"UserId\":\"u\"\x7d"⟩),
          ("GET", "http://h/solutions", some ⟨200, "\x7b\x7d"⟩),
          ("GET", "http://h/publishers",
            some ⟨200, "\x7b\"value\":[\x7b\"publisherid\":\"p\"\x7d]\x7d"⟩),
          ("POST", "http://h/solutions", some ⟨204, ""⟩)
        ]
      ∧ ((Json.parse "\x7b\x7d").toOption.map fun value => (value.get? "value").isSome)
        = some false :=
  ⟨staffing_compiles, Dialogue.course_transcript _ _ _, by decide +kernel, by decide +kernel⟩

end Tablewright.Provision
