import Tablewright.Proofs.Provision.Agenda

/-! The parts of a run: what the calls for the solution, a table, its columns, a relationship and a
component conform to, whatever the store answers.
-/

namespace Tablewright.Provision

open Dialogue (Course)
open Store (Answer Call Protocol call)

variable {settings : Settings} {compiled : CompiledSchema} {past history : History}

-----------------------------------------------------------------------------------------
-- Courses of the parts of a run
-----------------------------------------------------------------------------------------

/-- A protocol that begins with a call goes on with its answer.
-/
theorem course_call_bind_iff {α : Type} {query : Call} {next : Answer query → Protocol α}
    {result : α}
    : Course (call query >>= next) history result
      ↔ ∃ answer later,
          Course (next answer) later result
          ∧ history = ⟨query, answer⟩ :: later :=
  Dialogue.course_ask_iff

/-- A single call gives its answer.
-/
theorem course_call_iff {query : Call} {answer : Answer query}
    : Course (call query) history answer ↔ history = [⟨query, answer⟩] := by
  rw [call, Dialogue.course_ask_iff]
  constructor
  · intro parts
    obtain ⟨_, _, rest, rfl⟩ := parts
    cases rest
    rfl
  · intro same
    exact ⟨answer, [], .done answer, same⟩

/-- What becomes of something that is made.
-/
def outcomeOf : Except StoreError Unit → Outcome
  | .ok _ => .created
  | .error cause => .failed cause

/-- Something is made after it has been found missing. In all other cases the run goes no further
than to look for it.
-/
theorem course_ensure_iff {isThere : Protocol (Except StoreError Bool)}
    {make : Protocol (Except StoreError Unit)} {outcome : Outcome}
    : Course (ensure isThere make) history outcome
      ↔ (∃ cause, Course isThere history (.error cause) ∧ outcome = .failed cause)
        ∨ (Course isThere history (.ok true) ∧ outcome = .skipped)
        ∨ ∃ first later result,
            Course isThere first (.ok false)
            ∧ Course make later result
            ∧ history = first ++ later
            ∧ outcome = outcomeOf result := by
  rw [ensure, Dialogue.course_bind_iff]
  constructor
  · intro parts
    obtain ⟨first, found, later, looked, rest, rfl⟩ := parts
    cases found with
    | error cause =>
        obtain ⟨rfl, rfl⟩ := Dialogue.course_pure_iff.mp rest
        exact .inl ⟨cause, by simpa using looked, rfl⟩
    | ok there =>
        cases there with
        | true =>
            obtain ⟨rfl, rfl⟩ := Dialogue.course_pure_iff.mp rest
            exact .inr (.inl ⟨by simpa using looked, rfl⟩)
        | false =>
            obtain ⟨making, result, ending, begun, continued, rfl⟩ :=
              Dialogue.course_bind_iff.mp rest
            refine .inr (.inr ⟨first, making, result, looked, begun, ?_⟩)
            cases result with
            | error cause =>
                obtain ⟨rfl, rfl⟩ := Dialogue.course_pure_iff.mp continued
                exact ⟨by simp, rfl⟩
            | ok _ =>
                obtain ⟨rfl, rfl⟩ := Dialogue.course_pure_iff.mp continued
                exact ⟨by simp, rfl⟩
  · intro cases
    rcases cases with ⟨cause, looked, rfl⟩ | ⟨looked, rfl⟩
      | ⟨first, later, result, looked, making, rfl, rfl⟩
    · exact ⟨history, _, [], looked, .done _, by simp⟩
    · exact ⟨history, _, [], looked, .done _, by simp⟩
    · refine ⟨first, _, later, looked, ?_, rfl⟩
      refine Dialogue.course_bind_iff.mpr ⟨later, result, [], making, ?_, by simp⟩
      cases result with
      | _ => exact .done _

/-- The ways in which the solution can be dealt with: the calls with their answers, and what comes
of them.
-/
inductive Settles (settings : Settings) : History → Except PreconditionError Outcome → Prop
  | unanswered (cause : StoreError)
    : Settles settings [⟨.solutionExists settings.solution.uniqueName, .error cause⟩]
        (.ok (.failed cause))
  | present
    : Settles settings [⟨.solutionExists settings.solution.uniqueName, .ok true⟩] (.ok .skipped)
  | publisherLookup (cause : StoreError)
    : Settles settings
        [⟨.solutionExists settings.solution.uniqueName, .ok false⟩,
          ⟨.findPublisher settings.publisher.namePrefix, .error cause⟩]
        (.error (.publisherLookup cause))
  | publisherNotFound
    : Settles settings
        [⟨.solutionExists settings.solution.uniqueName, .ok false⟩,
          ⟨.findPublisher settings.publisher.namePrefix, .ok none⟩]
        (.error (.publisherNotFound settings.publisher.namePrefix))
  | made (publisher : String) (answer : Answer (.createSolution settings.solution publisher))
    : Settles settings
        [⟨.solutionExists settings.solution.uniqueName, .ok false⟩,
          ⟨.findPublisher settings.publisher.namePrefix, .ok (some publisher)⟩,
          ⟨.createSolution settings.solution publisher, answer⟩]
        (.ok (outcomeOf answer))

/-- The solution is dealt with in one of these ways.
-/
theorem settles_of_course {result : Except PreconditionError Outcome}
    (course : Course (ensureSolution settings) history result)
    : Settles settings history result := by
  obtain ⟨there, _, continued, rfl⟩ := course_call_bind_iff.mp course
  rcases there with cause | _ | _
  · obtain ⟨rfl, rfl⟩ := Dialogue.course_pure_iff.mp continued
    exact .unanswered cause
  · obtain ⟨found, _, onward, rfl⟩ := course_call_bind_iff.mp continued
    rcases found with cause | _ | publisher
    · obtain ⟨rfl, rfl⟩ := Dialogue.course_pure_iff.mp onward
      exact .publisherLookup cause
    · obtain ⟨rfl, rfl⟩ := Dialogue.course_pure_iff.mp onward
      exact .publisherNotFound
    · obtain ⟨answer, _, ending, rfl⟩ := course_call_bind_iff.mp onward
      cases answer with
      | error cause =>
          obtain ⟨rfl, rfl⟩ := Dialogue.course_pure_iff.mp ending
          exact .made publisher (.error cause)
      | ok made =>
          obtain ⟨rfl, rfl⟩ := Dialogue.course_pure_iff.mp ending
          exact .made publisher (.ok made)
  · obtain ⟨rfl, rfl⟩ := Dialogue.course_pure_iff.mp continued
    exact .present

-----------------------------------------------------------------------------------------
-- Looking for something and making it
-----------------------------------------------------------------------------------------

/-- What is over before anything happens conforms to every agenda.
-/
theorem Conforms.finished {α : Type} {value result : α} {agenda : List Attempt}
    (course : Course (pure value : Protocol α) history result)
    : Conforms settings past agenda history := by
  obtain ⟨rfl, _⟩ := Dialogue.course_pure_iff.mp course
  exact Conforms.nil.mono (List.nil_sublist agenda)

/-- Something that is looked for without creating anything conforms when it is made in a way that
does, after it was found missing.
-/
theorem Conforms.ensure {isThere : Protocol (Except StoreError Bool)}
    {make : Protocol (Except StoreError Unit)} {outcome : Outcome} {agenda : List Attempt}
    (course : Course (ensure isThere make) history outcome)
    (looked
      : ∀ {found history}, Course isThere history found → Conforms settings past [] history)
    (made
      : ∀ {first later result},
          Course isThere first (.ok false)
          → Course make later result
          → Conforms settings (past ++ first) agenda later)
    : Conforms settings past agenda history := by
  rcases course_ensure_iff.mp course with ⟨_, looking, _⟩ | ⟨looking, _⟩
    | ⟨first, later, result, looking, making, rfl, _⟩
  · exact (looked looking).mono (List.nil_sublist agenda)
  · exact (looked looking).mono (List.nil_sublist agenda)
  · exact (looked looking).append (made looking making)

/-- Dealing with the elements of a list conforms when dealing with each of them does, whatever
happened in between.
-/
theorem Conforms.each {α β : Type} {deal : α → Protocol β} {entry : α → Attempt}
    {list : List α} {results : List β}
    (course : Course (each deal list) history results)
    (dealing
      : ∀ {element before history result},
          Course (deal element) history result
          → Conforms settings (past ++ before) [entry element] history)
    : Conforms settings past (list.map entry) history := by
  induction list generalizing past history results with
  | nil =>
      obtain ⟨rfl, _⟩ := Dialogue.course_pure_iff.mp course
      exact .nil
  | cons element rest ih =>
      obtain ⟨first, _, _, dealt, continued, rfl⟩ := Dialogue.course_bind_iff.mp course
      obtain ⟨_, others, _⟩ := Dialogue.course_bind_pure_iff.mp continued
      have head : Conforms settings (past ++ []) [entry element] first := dealing dealt
      rw [List.append_nil] at head
      refine head.append (ih others fun {_ before _ _} course => ?_)
      rw [List.append_assoc]
      exact dealing course

/-- Waiting for a table creates nothing, and ends well only after the table came in sight.
Witness: induction on the attempts that are left.
-/
theorem course_awaitTable {table : String} {interval attempts left : Nat}
    {result : Except StoreError Unit}
    (course : Course (awaitTable table interval attempts left) history result)
    : Conforms settings past [] history ∧ (result = .ok () → Seen history table) := by
  induction left generalizing past history with
  | zero =>
      obtain ⟨rfl, rfl⟩ := Dialogue.course_pure_iff.mp course
      exact ⟨.nil, nofun⟩
  | succ left ih =>
      obtain ⟨answer, later, continued, rfl⟩ := course_call_bind_iff.mp course
      have looked : Conforms settings past [] [⟨.tableExists table, answer⟩] := .look rfl
      cases answer with
      | error cause =>
          obtain ⟨rfl, rfl⟩ := Dialogue.course_pure_iff.mp continued
          exact ⟨looked, nofun⟩
      | ok there =>
          cases there with
          | true =>
              obtain ⟨rfl, rfl⟩ := Dialogue.course_pure_iff.mp continued
              exact ⟨looked, fun _ => List.mem_singleton_self _⟩
          | false =>
              -- the last attempt is not followed by a pause
              by_cases last : left = 0
              · simp only [last, if_true] at continued
                obtain ⟨rfl, rfl⟩ := Dialogue.course_pure_iff.mp continued
                exact ⟨looked, nofun⟩
              · simp only [last, if_false] at continued
                obtain ⟨answer, later, again, rfl⟩ := course_call_bind_iff.mp continued
                have paused : Conforms settings (past ++ [⟨.tableExists table, .ok false⟩]) []
                    [⟨.pause interval, answer⟩] :=
                  .look rfl
                obtain ⟨conforms, seen⟩ := ih again
                exact ⟨looked.append (paused.append conforms), fun well =>
                  ((seen well).prepend [⟨.pause interval, answer⟩]).prepend
                    [⟨.tableExists table, .ok false⟩]⟩

-----------------------------------------------------------------------------------------
-- The solution, tables and columns
-----------------------------------------------------------------------------------------

/-- The solution is created at most, and only for a publisher that was found.
-/
theorem Conforms.ensureSolution {result : Except PreconditionError Outcome}
    (course : Course (ensureSolution settings) history result)
    : Conforms settings past [.solution settings.solution.uniqueName] history := by
  have looked (answer) : Conforms settings past []
      [⟨.solutionExists settings.solution.uniqueName, answer⟩] :=
    .look rfl
  have searched (answer) : Conforms settings
      (past ++ [⟨.solutionExists settings.solution.uniqueName, .ok false⟩]) []
      [⟨.findPublisher settings.publisher.namePrefix, answer⟩] :=
    .look rfl
  cases settles_of_course course with
  | unanswered | present => exact (looked _).mono (List.nil_sublist _)
  | publisherLookup | publisherNotFound =>
      exact ((looked _).append (searched _)).mono (List.nil_sublist _)
  | made publisher answer =>
      exact (looked _).append ((searched _).append (.create rfl ⟨past, by simp⟩))

/-- A table is created at most after it was found missing, and it is present only after it came in
sight.
-/
theorem course_ensureTable {entity : Entity} {outcome : Outcome}
    (course : Course (ensureTable settings.provision entity) history outcome)
    : Conforms settings past [.table entity.logicalName] history
      ∧ (outcome.isPresent = true → Seen history entity.logicalName) := by
  rcases course_ensure_iff.mp course with ⟨cause, looking, rfl⟩ | ⟨looking, rfl⟩
    | ⟨first, later, result, looking, making, rfl, rfl⟩
  · obtain rfl := course_call_iff.mp looking
    exact ⟨(Conforms.look rfl).mono (List.nil_sublist _), nofun⟩
  · obtain rfl := course_call_iff.mp looking
    exact ⟨(Conforms.look rfl).mono (List.nil_sublist _), fun _ => List.mem_singleton_self _⟩
  · obtain rfl := course_call_iff.mp looking
    obtain ⟨answer, waiting, continued, rfl⟩ := course_call_bind_iff.mp making
    have looked : Conforms settings past []
        [⟨.tableExists entity.logicalName, .ok false⟩] :=
      .look rfl
    have created : Conforms settings
        (past ++ [⟨.tableExists entity.logicalName, .ok false⟩])
        [.table entity.logicalName]
        [⟨.createTable entity entity.creationPrimary, answer⟩] :=
      .create rfl (List.suffix_append _ _)
    cases answer with
    | error cause =>
        obtain ⟨rfl, rfl⟩ := Dialogue.course_pure_iff.mp continued
        exact ⟨looked.append created, nofun⟩
    | ok _ =>
        obtain ⟨waited, seen⟩ := course_awaitTable continued
        refine ⟨looked.append (created.append waited), ?_⟩
        cases result with
        | error cause => exact nofun
        | ok _ => exact fun _ => ((seen rfl).prepend [_]).prepend [_]

/-- A column of a table that has been in sight is created at most after it was found missing.
-/
theorem Conforms.ensureColumn {entity : Entity} {attr : Attribute} {item : ReportItem}
    (seen : Seen past entity.logicalName)
    (course : Course (ensureColumn entity attr) history item)
    : Conforms settings past [.column entity.logicalName attr.logicalName] history := by
  obtain ⟨_, ensured, _⟩ := Dialogue.course_bind_pure_iff.mp course
  refine Conforms.ensure ensured (fun looking => ?_) (fun looking making => ?_)
  · obtain rfl := course_call_iff.mp looking
    exact .look rfl
  · obtain rfl := course_call_iff.mp looking
    obtain rfl := course_call_iff.mp making
    exact .create rfl ⟨List.suffix_append _ _, seen.append _⟩

/-- The columns of a table are created at most if the table is present.
-/
theorem Conforms.ensureColumns {entity : Entity} {outcome : Outcome} {items : List ReportItem}
    (seen : outcome.isPresent = true → Seen past entity.logicalName)
    (course : Course (ensureColumns entity outcome) history items)
    : Conforms settings past (columnAgenda entity) history := by
  rw [columnAgenda, List.map_map]
  cases outcome with
  | created =>
      exact (Conforms.each course fun {_ before _ _} =>
        Conforms.ensureColumn ((seen rfl).append before)).mono (List.filter_sublist.map _)
  | skipped =>
      exact Conforms.each course fun {_ before _ _} =>
        Conforms.ensureColumn ((seen rfl).append before)
  | failed | blocked =>
      exact .finished course

-----------------------------------------------------------------------------------------
-- Relationships and components
-----------------------------------------------------------------------------------------

/-- No table of a relationship is missing exactly when both are available.
-/
theorem missingTable?_eq_none_iff {available : List String} {relationship : Relationship}
    : missingTable? available relationship = none
      ↔ relationship.referencedTable ∈ available
        ∧ relationship.referencingTable ∈ available := by
  simp [missingTable?]

/-- A relationship between tables that have been in sight is created at most after its lookup was
found missing.
-/
theorem Conforms.ensureRelationship {available : List String} {relationship : Relationship}
    {item : ReportItem} (seen : ∀ table ∈ available, Seen past table)
    (course : Course (ensureRelationship compiled available relationship) history item)
    : Conforms settings past [.relationship relationship.name] history := by
  rw [Provision.ensureRelationship] at course
  cases missing : missingTable? available relationship with
  | some table =>
      simp only [missing] at course
      exact .finished course
  | none =>
      obtain ⟨referenced, referencing⟩ := missingTable?_eq_none_iff.mp missing
      cases found : compiled.lookup? relationship with
      | none =>
          simp only [missing, found] at course
          exact .finished course
      | some lookup =>
          simp only [missing, found] at course
          obtain ⟨_, ensured, _⟩ := Dialogue.course_bind_pure_iff.mp course
          refine Conforms.ensure ensured (fun looking => ?_) (fun looking making => ?_)
          · obtain rfl := course_call_iff.mp looking
            exact .look rfl
          · obtain rfl := course_call_iff.mp looking
            obtain rfl := course_call_iff.mp making
            exact .create rfl ⟨List.suffix_append _ _,
              (seen _ referenced).append _, (seen _ referencing).append _⟩

/-- Relationships are created in the order of their names, each as if it were the only one.
-/
theorem Conforms.ensureRelationships {available names : List String} {items : List ReportItem}
    (seen : ∀ table ∈ available, Seen past table)
    (course : Course (ensureRelationships compiled available names) history items)
    : Conforms settings past (relationshipAgenda compiled names) history := by
  rw [relationshipAgenda, List.map_map]
  exact Conforms.each course fun {_ before _ _} =>
    Conforms.ensureRelationship fun table there => (seen table there).append before

/-- The component of a table is created at most after the table's id was found to be missing in the
solution.
-/
theorem Conforms.ensureComponent {solutionIsThere : Bool} {available : List String}
    {table : String} {item : ReportItem}
    (course
      : Course (ensureComponent settings solutionIsThere available table) history item)
    : Conforms settings past [.component settings.solution.uniqueName (some table)]
        history := by
  rw [Provision.ensureComponent] at course
  split at course
  · exact .finished course
  split at course
  · exact .finished course
  obtain ⟨_, added, _⟩ := Dialogue.course_bind_pure_iff.mp course
  obtain ⟨answer, later, onward, rfl⟩ := course_call_bind_iff.mp added
  have asked : Conforms settings past [] [⟨.tableId table, answer⟩] := .look rfl
  refine asked.append ?_
  rcases answer with cause | _ | id
  · exact .finished onward
  · exact .finished onward
  · refine Conforms.ensure onward (fun looking => ?_) (fun looking making => ?_)
    · obtain rfl := course_call_iff.mp looking
      exact .look rfl
    · obtain rfl := course_call_iff.mp looking
      obtain rfl := course_call_iff.mp making
      refine .create ?_ ⟨table, past, by simp⟩
      simp [attempt?, lastAsked?, askedTable?]

end Tablewright.Provision
