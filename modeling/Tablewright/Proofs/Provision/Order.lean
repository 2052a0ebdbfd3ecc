import Tablewright.Proofs.Provision.Parts
import Tablewright.Provision.Preview

/-! The order of a run. Whatever the store answers, a run creates only what it has just seen to be
missing and whose tables it has seen to be there, and it tries nothing twice.
-/

namespace Tablewright.Provision

open Dialogue (Course)
open Store (Answer Call)

variable {settings : Settings} {compiled : CompiledSchema} {past history : History}

-----------------------------------------------------------------------------------------
-- Whole runs
-----------------------------------------------------------------------------------------

/-- What holds of the available tables, and of another table if that is present, holds of those that
are available with it.
-/
theorem forall_mem_available {property : String → Prop} {available : List String}
    {outcome : Outcome} {table : String} (before : ∀ other ∈ available, property other)
    (now : outcome.isPresent = true → property table)
    : ∀ other ∈ if outcome.isPresent then table :: available else available,
        property other := by
  split
  · exact List.forall_mem_cons.mpr ⟨now ‹_›, before⟩
  · exact before

/-- The steps conform to their agendas one after the other, and every table that is available before
or after them has been in sight.
Witness: induction on the steps, with what has happened and what is available at each of them.
-/
theorem course_takeSteps {available : List String} {steps : List Step}
    {result : List ReportItem × List String}
    (seen : ∀ table ∈ available, Seen past table)
    (course : Course (takeSteps compiled settings available steps) history result)
    : Conforms settings past (steps.flatMap (stepAgenda compiled)) history
      ∧ ∀ table ∈ result.2, Seen (past ++ history) table := by
  induction steps generalizing past available history result with
  | nil =>
      obtain ⟨rfl, rfl⟩ := Dialogue.course_pure_iff.mp course
      exact ⟨.nil, fun table there => (seen table there).append []⟩
  | cons step rest ih =>
      rw [takeSteps] at course
      rw [List.flatMap_cons, stepAgenda]
      cases found : compiled.entity? step.table with
      | none =>
          simp only [found] at course
          exact ih seen course
      | some entity =>
          simp only [found] at course
          obtain ⟨tables, outcome, _, ensured, afterTable, rfl⟩ :=
            Dialogue.course_bind_iff.mp course
          obtain ⟨columns, _, _, filled, afterColumns, rfl⟩ :=
            Dialogue.course_bind_iff.mp afterTable
          obtain ⟨relationships, _, _, related, afterStep, rfl⟩ :=
            Dialogue.course_bind_iff.mp afterColumns
          obtain ⟨_, others, rfl⟩ := Dialogue.course_bind_pure_iff.mp afterStep
          obtain ⟨table, present⟩
              : Conforms settings past [.table entity.logicalName] tables ∧ _ :=
            course_ensureTable ensured
          have inSight := forall_mem_available
            (fun other there => (seen other there).append tables)
            (fun well => (present well).prepend past)
          have ownColumns : Conforms settings (past ++ tables) (columnAgenda entity) columns :=
            .ensureColumns (fun well => (present well).prepend past) filled
          have ownRelationships : Conforms settings (past ++ tables ++ columns)
              (relationshipAgenda compiled step.relationships) relationships :=
            .ensureRelationships (fun other there => (inSight other there).append columns) related
          obtain ⟨rest, all⟩ := ih
            (fun other there => ((inSight other there).append columns).append relationships)
            others
          refine ⟨?_, ?_⟩
          · have conforms := table.append (ownColumns.append (ownRelationships.append rest))
            simpa only [List.append_assoc, List.cons_append, List.nil_append] using conforms
          · simpa only [List.append_assoc] using all

/-- A run conforms to its agenda, whatever happened before it.
-/
theorem Conforms.run {result : Except PreconditionError Report}
    (course : Course (run compiled settings) history result)
    : Conforms settings past (agenda compiled settings) history := by
  obtain ⟨user, later, afterGreeting, rfl⟩ := course_call_bind_iff.mp course
  rw [agenda, List.append_assoc]
  have greeted : Conforms settings past [] [⟨.whoAmI, user⟩] := .look rfl
  refine greeted.append ?_
  cases user with
  | error cause => exact .finished afterGreeting
  | ok name =>
      obtain ⟨first, solution, _, begun, afterSolution, rfl⟩ :=
        Dialogue.course_bind_iff.mp afterGreeting
      refine (Conforms.ensureSolution begun).append ?_
      cases solution with
      | error cause => exact .finished afterSolution
      | ok outcome =>
          obtain ⟨stepping, ⟨_, available⟩, _, taken, afterSteps, rfl⟩ :=
            Dialogue.course_bind_iff.mp afterSolution
          obtain ⟨deferring, _, _, related, afterDeferred, rfl⟩ :=
            Dialogue.course_bind_iff.mp afterSteps
          obtain ⟨_, added, _⟩ := Dialogue.course_bind_pure_iff.mp afterDeferred
          obtain ⟨steps, seen⟩
              : Conforms settings (past ++ [⟨.whoAmI, .ok name⟩] ++ first) _ stepping ∧ _ :=
            course_takeSteps (List.forall_mem_nil _) taken
          exact steps.append ((Conforms.ensureRelationships seen related).append
            (Conforms.each added Conforms.ensureComponent))

-----------------------------------------------------------------------------------------
-- Orderly runs
-----------------------------------------------------------------------------------------

/-- What the history of a run is like. Every call is permitted by those before it, no table is
created after a relationship that was put off, and nothing is tried twice.
-/
structure Orderly (compiled : CompiledSchema) (settings : Settings) (history : History)
    : Prop where
  permitted
    : ∀ {before exchange after},
        history = before ++ exchange :: after
        → Permitted settings before exchange.question
  deferred
    : ∀ {before after relationship lookup answer},
        history = before ++ ⟨.createRelationship relationship lookup, answer⟩ :: after
        → relationship.name ∈ compiled.plan.deferred
        → ∀ {entity primary made}, ⟨.createTable entity primary, made⟩ ∉ after
  once : (attempts [] history).Nodup

/-- Whatever a store answers, the run of a compiled schema is orderly.
Witness: a run conforms to its agenda, on which nothing stands twice and no table behind a
relationship that was put off.
-/
theorem run_orderly {schema : Schema} {publisherPrefix : String}
    {result : Except PreconditionError Report}
    (compiles : schema.compile publisherPrefix = .ok compiled)
    (course : Course (run compiled settings) history result)
    : Orderly compiled settings history := by
  have wellFormed := CompiledSchema.wellFormed_of_compile compiles
  have conforms : Conforms settings [] (agenda compiled settings) history := .run course
  refine ⟨?_, ?_, (agenda_nodup wellFormed settings).sublist conforms.within⟩
  · intro before exchange after split
    have lawful := conforms.lawful
    rw [split] at lawful
    exact lawful.permitted
  · intro before after relationship lookup answer split put entity primary made member
    have order := (agenda_deferred_last wellFormed settings).sublist conforms.within
    rw [split, attempts_append] at order
    have behind := (List.pairwise_append.mp order).2.1
    exact (List.pairwise_cons.mp behind).1 _ (mem_attempts_of_createTable member)
      relationship.name put rfl entity.logicalName rfl

/-- Persons belong to teams, and teams are led by persons.
-/
def staffing : Schema where
  tables := [
    { logicalName := "person"
      displayName := "Person"
      pluralName := "Persons"
      columns := [.string "label" "Label", .lookup "teamid" "Team" "team"] },
    { logicalName := "team"
      displayName := "Team"
      pluralName := "Teams"
      columns := [.string "label" "Label", .lookup "leadid" "Lead" "person"] }
  ]

/-- What staffing compiles to. Both relationships lie on a cycle.
-/
def staffed : CompiledSchema where
  entities := [
    { logicalName := "person"
      displayName := "Person"
      pluralName := "Persons"
      description := "Person table"
      setName := "persons"
      primary := ⟨.firstString, "label"⟩
      attributes := [
        .naming "label" "Label",
        { logicalName := "teamid", displayName := "Team", kind := .lookup "team" }
      ] },
    { logicalName := "team"
      displayName := "Team"
      pluralName := "Teams"
      description := "Team table"
      setName := "teams"
      primary := ⟨.firstString, "label"⟩
      attributes := [
        .naming "label" "Label",
        { logicalName := "leadid", displayName := "Lead", kind := .lookup "person" }
      ] }
  ]
  relationships := [
    ⟨"x_team_person_teamid", "person", "team", "teamid", "Team", false⟩,
    ⟨"x_person_team_leadid", "team", "person", "leadid", "Lead", false⟩
  ]
  plan :=
    ⟨[⟨"person", 0, []⟩, ⟨"team", 0, []⟩], ["x_team_person_teamid", "x_person_team_leadid"]⟩

/-- Staffing compiles.
-/
theorem staffing_compiles : staffing.compile "x" = .ok staffed := by
  refine Schema.compile_eq_ok_iff.mpr ⟨rfl, rfl, rfl, ?_⟩
  change Dependencies.plan ⟨["person", "team"], staffed.relationships⟩ = .ok staffed.plan
  cbv

/-- The calls of a first run for staffing, on a store that has nothing but a publisher.
-/
def staffingRun : History :=
  (run staffed {}).transcript Store.Memory.respond (previewStore {})

/-- A first run for staffing is orderly. It creates everything there is, and the relationships last
but for the components.
-/
theorem run_orderly_staffing
    : staffing.compile "x" = .ok staffed
      ∧ Course (run staffed {}) staffingRun
          ((run staffed {}).run Store.Memory.respond (previewStore {})).1
      ∧ attempts [] staffingRun
        = [
          .solution "SimQuipTables", .table "person", .table "team",
          .relationship "x_team_person_teamid", .relationship "x_person_team_leadid",
          .component "SimQuipTables" (some "person"), .component "SimQuipTables" (some "team")
        ]
      ∧ Orderly staffed {} staffingRun :=
  ⟨staffing_compiles, Dialogue.course_transcript _ _ _, by decide +kernel,
    run_orderly staffing_compiles (Dialogue.course_transcript Store.Memory.respond _ _)⟩

end Tablewright.Provision
