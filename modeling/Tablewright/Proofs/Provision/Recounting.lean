import Tablewright.Proofs.Provision.Dossiers

/-! The parts of a run bear out what becomes of them: the calls for the solution or for a task
are about nothing else, and their dossier tells whether it was made or found.
-/

namespace Tablewright.Provision

open Dialogue (Course)
open Store (Answer Call Protocol call)

variable {compiled : CompiledSchema} {settings : Settings} {report : List ReportItem}
variable {topic : Topic} {past history : History} {outcome : Outcome}

-----------------------------------------------------------------------------------------
-- Single calls
-----------------------------------------------------------------------------------------

/-- To ask for a table is to look for it.
-/
theorem looksFor_table {table : String} (sought : topic.sought = .table table)
    : LooksFor topic past (call (.tableExists table)) := by
  intro history result course
  obtain rfl := course_call_iff.mp course
  refine ⟨_, rfl, congrArg some sought.symm, rfl, ?_⟩
  cases result with
  | _ => simp [confirms]

/-- To ask for a column is to look for it, be it for its own sake or for a relationship's.
-/
theorem looksFor_column {table column : String} (sought : topic.sought = .column table column)
    : LooksFor topic past (call (.columnExists table column)) := by
  intro history result course
  obtain rfl := course_call_iff.mp course
  refine ⟨_, rfl, congrArg some sought.symm, rfl, ?_⟩
  cases result with
  | _ => simp [confirms]

/-- To look for something does not ask for the id of a table.
-/
theorem lastAsked?_append_of_sought {check : Dialogue.Exchange Call Answer} {sought : Attempt}
    (looks : sought? past check.question = some sought)
    : lastAsked? (past ++ [check]) = lastAsked? past := by
  obtain ⟨question, answer⟩ := check
  cases question with
  | tableId => cases looks
  | _ => simp [lastAsked?, askedTable?]

/-- To ask for a component is to look for the table whose id was asked for.
-/
theorem looksFor_component {solution id : String}
    (sought : topic.sought = .component solution (lastAsked? past))
    : LooksFor topic past (call (.solutionContains solution id)) := by
  intro history result course
  obtain rfl := course_call_iff.mp course
  refine ⟨_, rfl, congrArg some sought.symm, rfl, ?_⟩
  cases result with
  | _ => simp [confirms]

/-- One call that creates a topic makes it.
-/
theorem Makes.of_call (query : Call) {make : Protocol (Except StoreError Unit)}
    (asks
      : ∀ {history result},
          Course make history result
          → ∃ answer : Answer query,
              history = [⟨query, answer⟩] ∧ answer.isOk = result.isOk)
    (unsought : sought? past query = none) (tried : attempt? past query = some topic.attempt)
    : Makes topic false past make := by
  intro history result course
  obtain ⟨answer, rfl, well⟩ := asks course
  have isCreate : query.isCreate = true := by
    rw [← isSome_attempt? past, tried, Option.isSome_some]
  refine ⟨⟨query, answer⟩, [], ?_, isCreate, .attempt unsought tried, ?_⟩
  · simp [Topic.dossier, Topic.concerns, tried]
  · simp only [made, succeeds, isCreate, well]
    cases result with
    | _ => simp [outcomeOf, Except.isOk, Except.toBool]

/-- A column is made by one call.
-/
theorem makes_column {entity : Entity} {attr : Attribute}
    : Makes ((Task.column entity attr).topic settings) false past
        (call (.createColumn entity.logicalName attr)) :=
  Makes.of_call (.createColumn entity.logicalName attr)
    (fun {_ result} course => ⟨result, course_call_iff.mp course, rfl⟩) rfl rfl

/-- A relationship is made by one call.
-/
theorem makes_relationship {link : Relationship} {lookup : Attribute}
    : Makes ((Task.relationship link).topic settings) false past
        (call (.createRelationship link lookup)) :=
  Makes.of_call (.createRelationship link lookup)
    (fun {_ result} course => ⟨result, course_call_iff.mp course, rfl⟩) rfl rfl

/-- A component is made by one call, once the id of its table was asked for.
-/
theorem makes_component {table id : String} (asked : lastAsked? past = some table)
    : Makes ((Task.component table).topic settings) false past
        (call (.addComponent settings.solution.uniqueName id)) :=
  Makes.of_call (.addComponent settings.solution.uniqueName id)
    (fun {_ result} course => ⟨result, course_call_iff.mp course, rfl⟩) rfl
    (by rw [attempt?, asked]; rfl)

-----------------------------------------------------------------------------------------
-- Tables
-----------------------------------------------------------------------------------------

/-- Waiting for a table is about the table only, creates nothing, and ends well exactly when a check
finds the table.
Witness: induction on the attempts that are left.
-/
theorem recounts_awaitTable {table : String} {interval attempts left : Nat}
    {result : Except StoreError Unit} (sought : topic.sought = .table table)
    (course : Course (awaitTable table interval attempts left) history result)
    : Confined topic past history
      ∧ made true (topic.dossier past history) = false
      ∧ (result = .ok () ↔ (topic.dossier past history).any confirms = true) := by
  induction left generalizing past history with
  | zero =>
      obtain ⟨rfl, rfl⟩ := Dialogue.course_pure_iff.mp course
      exact ⟨trivial, rfl, by simp [Topic.dossier]⟩
  | succ left ih =>
      obtain ⟨answer, later, continued, rfl⟩ := course_call_bind_iff.mp course
      have asks : sought? past (.tableExists table) = some topic.sought :=
        congrArg some sought.symm
      have looked : Confined topic past [⟨.tableExists table, answer⟩] := .look asks rfl
      have own (rest : History)
          : topic.dossier past (⟨.tableExists table, answer⟩ :: rest)
            = ⟨.tableExists table, answer⟩ :: topic.dossier _ rest :=
        dossier_cons_of_sought asks rest
      have alone : topic.dossier past [⟨.tableExists table, answer⟩]
          = [⟨.tableExists table, answer⟩] :=
        own []
      rcases answer with cause | _ | _
      · obtain ⟨rfl, rfl⟩ := Dialogue.course_pure_iff.mp continued
        rw [alone]
        exact ⟨looked, rfl, by simp [confirms]⟩
      · -- the last attempt is not followed by a pause
        by_cases last : left = 0
        · simp only [last, if_true] at continued
          obtain ⟨rfl, rfl⟩ := Dialogue.course_pure_iff.mp continued
          rw [alone]
          exact ⟨looked, rfl, by simp [confirms]⟩
        · simp only [last, if_false] at continued
          obtain ⟨pause, later, again, rfl⟩ := course_call_bind_iff.mp continued
          obtain ⟨confined, unmade, well⟩ := ih again
          have paused (past : History) : Confined topic past [⟨.pause interval, pause⟩] :=
            .idle rfl rfl
          rw [own, dossier_cons_of_idle rfl rfl]
          exact ⟨looked.append ((paused _).append confined), unmade, well⟩
      · obtain ⟨rfl, rfl⟩ := Dialogue.course_pure_iff.mp continued
        rw [alone]
        exact ⟨looked, rfl, by simp [confirms]⟩

/-- A table is made when it was created and came in sight afterwards.
-/
theorem makes_table {entity : Entity}
    : Makes ((Task.table entity).topic settings) true past
        (createTable settings.provision entity) := by
  intro history result course
  obtain ⟨answer, waiting, continued, rfl⟩ := course_call_bind_iff.mp course
  have created : Confined ((Task.table entity).topic settings) past
      [⟨.createTable entity entity.creationPrimary, answer⟩] :=
    .attempt rfl rfl
  refine ⟨_, _, dossier_cons_of_attempt rfl waiting, rfl, ?_⟩
  cases answer with
  | error cause =>
      obtain ⟨rfl, rfl⟩ := Dialogue.course_pure_iff.mp continued
      refine ⟨created, ?_⟩
      simp [Topic.dossier, made, succeeds, outcomeOf, Except.isOk, Except.toBool]
  | ok _ =>
      have sought : ((Task.table entity).topic settings).sought = .table entity.logicalName := rfl
      obtain ⟨confined, unmade, well⟩ := recounts_awaitTable sought continued
      refine ⟨created.append confined, ?_⟩
      have same : outcomeOf result = .created ↔ result = .ok () := by
        cases result with
        | _ => simp [outcomeOf]
      rw [made, unmade, Bool.or_false, same, well]
      simp [succeeds, Call.isCreate, Except.isOk, Except.toBool]

-----------------------------------------------------------------------------------------
-- Tasks and the solution
-----------------------------------------------------------------------------------------

/-- Whatever is done about a task bears out what becomes of the task.
-/
theorem recounts_pursue (past : History) {task : Task}
    (course : Course (pursue compiled settings report task) history outcome)
    : Recounts (task.topic settings) task.isAwaited past history outcome := by
  cases task with
  | table entity => exact .ensure (looksFor_table rfl) (fun _ => makes_table) course
  | column entity attr =>
      rw [pursue, pursueColumn] at course
      split at course
      · exact .ensure (looksFor_column rfl) (fun _ => makes_column) course
      · obtain ⟨rfl, rfl⟩ := Dialogue.course_pure_iff.mp course
        exact .idle rfl
  | relationship link =>
      rw [pursue, pursueRelationship] at course
      split at course
      · obtain ⟨rfl, rfl⟩ := Dialogue.course_pure_iff.mp course
        exact .idle rfl
      · split at course
        · obtain ⟨rfl, rfl⟩ := Dialogue.course_pure_iff.mp course
          exact .idle rfl
        · exact .ensure (looksFor_column rfl) (fun _ => makes_relationship) course
  | component table =>
      rw [pursue, pursueComponent] at course
      split at course
      · obtain ⟨rfl, rfl⟩ := Dialogue.course_pure_iff.mp course
        exact .idle rfl
      split at course
      · obtain ⟨rfl, rfl⟩ := Dialogue.course_pure_iff.mp course
        exact .idle rfl
      obtain ⟨answer, later, onward, rfl⟩ := course_call_bind_iff.mp course
      refine Recounts.prepend ?_ rfl rfl
      have asked : lastAsked? (past ++ [⟨.tableId table, answer⟩]) = some table := by
        simp [lastAsked?, askedTable?]
      rcases answer with cause | _ | id
      · obtain ⟨rfl, rfl⟩ := Dialogue.course_pure_iff.mp onward
        exact .idle rfl
      · obtain ⟨rfl, rfl⟩ := Dialogue.course_pure_iff.mp onward
        exact .idle rfl
      · refine .ensure (looksFor_component (by rw [asked]; rfl)) (fun sought => ?_) onward
        exact makes_component ((lastAsked?_append_of_sought sought).trans asked)

/-- Whatever is done about the solution bears out what becomes of it.
-/
theorem recounts_ensureSolution (past : History)
    (course : Course (ensureSolution settings) history (.ok outcome))
    : Recounts (solutionTopic settings) false past history outcome := by
  have asks : sought? past (.solutionExists settings.solution.uniqueName)
      = some (solutionTopic settings).sought :=
    rfl
  cases settles_of_course course with
  | unanswered cause => exact .look asks rfl Outcome.noConfusion (by simp [confirms])
  | present => exact .look asks rfl Outcome.noConfusion (by simp [confirms])
  | made publisher answer =>
      refine ⟨(Confined.look asks rfl).append ((Confined.idle rfl rfl).append (.attempt rfl rfl)),
        ?_, ?_⟩
      all_goals
        rw [dossier_cons_of_sought asks, dossier_cons_of_idle rfl rfl, dossier_cons_of_attempt rfl]
        cases answer with
        | _ => simp [Topic.dossier, made, found, confirms, succeeds, Call.isCreate, outcomeOf,
            Except.isOk, Except.toBool]

end Tablewright.Provision
