import Tablewright.Proofs.Provision.Parts
import Tablewright.Proofs.Provision.Turns

/-! Dossiers: the exchanges of a history that are about one thing. They tell whether it was
made, and whether it was found before anything tried to make it.
-/

namespace Tablewright.Provision

open Dialogue (Course)
open Store (Answer Call Protocol call)

-----------------------------------------------------------------------------------------
-- Topics
-----------------------------------------------------------------------------------------

/-- What a call looks for. A relationship is looked for as the column of its lookup.
-/
def sought? (past : History) : Call → Option Attempt
  | .solutionExists name => some (.solution name)
  | .tableExists table => some (.table table)
  | .columnExists table column => some (.column table column)
  | .solutionContains solution _ => some (.component solution (lastAsked? past))
  | _ => none

/-- Something that calls can be about: what is looked for on its behalf, and what is created.
-/
structure Topic where
  sought : Attempt
  attempt : Attempt

namespace Topic

/-- The call is about the topic.
-/
def concerns (topic : Topic) (past : History) (query : Call) : Bool :=
  sought? past query == some topic.sought || attempt? past query == some topic.attempt

/-- The exchanges about a topic, after some past.
-/
def dossier (topic : Topic) (past : History) : History → History
  | [] => []
  | exchange :: rest =>
    if topic.concerns past exchange.question then
      exchange :: topic.dossier (past ++ [exchange]) rest
    else
      topic.dossier (past ++ [exchange]) rest

end Topic

/-- The topic of the solution.
-/
def solutionTopic (settings : Settings) : Topic :=
  ⟨.solution settings.solution.uniqueName, .solution settings.solution.uniqueName⟩

/-- The topic of a task.
-/
def Task.topic (settings : Settings) : Task → Topic
  | .relationship link =>
    ⟨.column link.referencingTable link.referencingAttribute, .relationship link.name⟩
  | task => ⟨task.attempt settings, task.attempt settings⟩

-----------------------------------------------------------------------------------------
-- What a dossier tells
-----------------------------------------------------------------------------------------

/-- A check has found something.
-/
def confirms : Dialogue.Exchange Call Answer → Bool
  | ⟨.solutionExists _, .ok there⟩ => there
  | ⟨.tableExists _, .ok there⟩ => there
  | ⟨.columnExists _ _, .ok there⟩ => there
  | ⟨.solutionContains _ _, .ok there⟩ => there
  | _ => false

/-- Something has been created.
-/
def succeeds (exchange : Dialogue.Exchange Call Answer) : Bool :=
  exchange.question.isCreate && exchange.answer.isOk

/-- By a dossier something was found before it was tried to create it.
-/
def found : History → Bool
  | [] => false
  | exchange :: rest => confirms exchange || (!exchange.question.isCreate && found rest)

/-- By a dossier something was created and, if that is awaited, found afterwards.
-/
def made (awaited : Bool) : History → Bool
  | [] => false
  | exchange :: rest =>
    succeeds exchange && (!awaited || rest.any confirms) || made awaited rest

/-- A new table has to come in sight.
-/
def Task.isAwaited : Task → Bool
  | .table _ => true
  | _ => false

variable {compiled : CompiledSchema} {settings : Settings} {report : List ReportItem}
variable {topic other : Topic} {awaited : Bool} {past first later history : History}
variable {exchange : Dialogue.Exchange Call Answer} {outcome : Outcome}

/-- The dossier of histories in a row is that of the first one and then that of the second.
-/
theorem dossier_append (topic : Topic) (past first later : History)
    : topic.dossier past (first ++ later)
      = topic.dossier past first ++ topic.dossier (past ++ first) later := by
  induction first generalizing past with
  | nil => simp [Topic.dossier]
  | cons exchange rest ih =>
      simp only [List.cons_append, Topic.dossier, ih, List.append_assoc, List.nil_append]
      split
      · rfl
      · rfl

/-- A call that looks for a topic belongs to its dossier.
-/
theorem dossier_cons_of_sought (sought : sought? past exchange.question = some topic.sought)
    (rest : History)
    : topic.dossier past (exchange :: rest)
      = exchange :: topic.dossier (past ++ [exchange]) rest := by
  have own : topic.concerns past exchange.question = true := by simp [Topic.concerns, sought]
  rw [Topic.dossier, own, if_pos rfl]

/-- A call that tries to create a topic belongs to its dossier.
-/
theorem dossier_cons_of_attempt (tried : attempt? past exchange.question = some topic.attempt)
    (rest : History)
    : topic.dossier past (exchange :: rest)
      = exchange :: topic.dossier (past ++ [exchange]) rest := by
  have own : topic.concerns past exchange.question = true := by simp [Topic.concerns, tried]
  rw [Topic.dossier, own, if_pos rfl]

/-- A call that is about nothing belongs to no dossier.
-/
theorem dossier_cons_of_idle (unsought : sought? past exchange.question = none)
    (untried : attempt? past exchange.question = none) (rest : History)
    : topic.dossier past (exchange :: rest) = topic.dossier (past ++ [exchange]) rest := by
  have apart : topic.concerns past exchange.question = false := by
    simp [Topic.concerns, unsought, untried]
  rw [Topic.dossier, apart, if_neg Bool.false_ne_true]

-----------------------------------------------------------------------------------------
-- Histories about one topic
-----------------------------------------------------------------------------------------

/-- After some past, a history is about nothing but one topic.
-/
def Confined (topic : Topic) (past : History) : History → Prop
  | [] => True
  | exchange :: rest =>
    (∀ sought ∈ sought? past exchange.question, sought = topic.sought)
    ∧ (∀ attempt ∈ attempt? past exchange.question, attempt = topic.attempt)
    ∧ Confined topic (past ++ [exchange]) rest

/-- Histories in a row are about one topic when both are.
-/
theorem Confined.append (before : Confined topic past first)
    (after : Confined topic (past ++ first) later)
    : Confined topic past (first ++ later) := by
  induction first generalizing past with
  | nil => simpa using after
  | cons exchange rest ih =>
      refine ⟨before.1, before.2.1, ih before.2.2 ?_⟩
      simpa only [List.append_assoc, List.singleton_append] using after

/-- A history about one topic has nothing for the dossier of a different one.
-/
theorem Confined.dossier_eq_nil (confined : Confined topic past history)
    (sought : other.sought ≠ topic.sought) (attempt : other.attempt ≠ topic.attempt)
    : other.dossier past history = [] := by
  induction history generalizing past with
  | nil => rfl
  | cons exchange rest ih =>
      have apart : other.concerns past exchange.question = false := by
        simp only [Topic.concerns, Bool.or_eq_false_iff, beq_eq_false_iff_ne]
        exact ⟨fun same => sought (confined.1 _ same), fun same => attempt (confined.2.1 _ same)⟩
      rw [Topic.dossier, apart, if_neg Bool.false_ne_true]
      exact ih confined.2.2

/-- A history that is about one topic and whose dossier bears out what is said to have become of it.
-/
structure Recounts (topic : Topic) (awaited : Bool) (past history : History)
    (outcome : Outcome)
    : Prop where
  confined : Confined topic past history
  created : outcome = .created ↔ made awaited (topic.dossier past history) = true
  skipped : outcome = .skipped ↔ found (topic.dossier past history) = true

/-- Where nothing happens, nothing was made or found.
-/
theorem Recounts.idle (absent : outcome.isPresent = false)
    : Recounts topic awaited past [] outcome := by
  refine ⟨trivial, ?_, ?_⟩
  · simpa [Topic.dossier, made] using (by rintro rfl; cases absent)
  · simpa [Topic.dossier, found] using (by rintro rfl; cases absent)

/-- An exchange about nothing can come first.
-/
theorem Recounts.prepend (recounts : Recounts topic awaited (past ++ [exchange]) history outcome)
    (unsought : sought? past exchange.question = none)
    (untried : attempt? past exchange.question = none)
    : Recounts topic awaited past (exchange :: history) outcome := by
  refine ⟨⟨?_, ?_, recounts.confined⟩, ?_, ?_⟩
  · simp [unsought]
  · simp [untried]
  · rw [dossier_cons_of_idle unsought untried]
    exact recounts.created
  · rw [dossier_cons_of_idle unsought untried]
    exact recounts.skipped

-----------------------------------------------------------------------------------------
-- Looking for something and making it
-----------------------------------------------------------------------------------------

/-- A program makes one call, which looks for the topic and finds it or not.
-/
def LooksFor (topic : Topic) (past : History) (isThere : Protocol (Except StoreError Bool))
    : Prop :=
  ∀ {history result},
    Course isThere history result
    → ∃ check,
        history = [check]
        ∧ sought? past check.question = some topic.sought
        ∧ check.question.isCreate = false
        ∧ (confirms check = true ↔ result = .ok true)

/-- A program tries once to create the topic, and does well when it has been made.
-/
def Makes (topic : Topic) (awaited : Bool) (past : History)
    (make : Protocol (Except StoreError Unit))
    : Prop :=
  ∀ {history result},
    Course make history result
    → ∃ create rest,
        topic.dossier past history = create :: rest
        ∧ create.question.isCreate = true
        ∧ Confined topic past history
        ∧ (outcomeOf result = .created ↔ made awaited (create :: rest) = true)

/-- Creating confirms nothing.
-/
theorem confirms_eq_false_of_isCreate (creates : exchange.question.isCreate = true)
    : confirms exchange = false := by
  obtain ⟨question, answer⟩ := exchange
  cases question with
  | createSolution | createTable | createColumn | createRelationship | addComponent => rfl
  | _ => cases creates

/-- What is looked for is not created by the same call.
-/
theorem attempt?_eq_none {query : Call} (quiet : query.isCreate = false)
    : attempt? past query = none := by
  rw [← Option.not_isSome_iff_eq_none, isSome_attempt?, quiet]
  exact Bool.false_ne_true

/-- A call that is about nothing is about no other topic.
-/
theorem Confined.idle (unsought : sought? past exchange.question = none)
    (untried : attempt? past exchange.question = none)
    : Confined topic past [exchange] := by
  refine ⟨?_, ?_, trivial⟩
  · simp [unsought]
  · simp [untried]

/-- A call that tries to create a topic is about nothing else.
-/
theorem Confined.attempt (unsought : sought? past exchange.question = none)
    (tried : attempt? past exchange.question = some topic.attempt)
    : Confined topic past [exchange] := by
  refine ⟨?_, ?_, trivial⟩
  · simp [unsought]
  · simp [tried]

/-- A call that looks for a topic is about nothing else.
-/
theorem Confined.look (sought : sought? past exchange.question = some topic.sought)
    (quiet : exchange.question.isCreate = false)
    : Confined topic past [exchange] := by
  refine ⟨?_, ?_, trivial⟩
  · simp [sought]
  · simp [attempt?_eq_none quiet]

/-- To look for a topic and leave it at that bears out that it was found, or that it was neither
found nor made.
-/
theorem Recounts.look (sought : sought? past exchange.question = some topic.sought)
    (quiet : exchange.question.isCreate = false) (uncreated : outcome ≠ .created)
    (confirmed : outcome = .skipped ↔ confirms exchange = true)
    : Recounts topic awaited past [exchange] outcome := by
  refine ⟨.look sought quiet, ?_, ?_⟩
  · rw [dossier_cons_of_sought sought]
    simp [Topic.dossier, made, succeeds, quiet, uncreated]
  · rw [dossier_cons_of_sought sought, confirmed]
    simp [Topic.dossier, found]

/-- Making something unless it is there bears out what becomes of it.
-/
theorem Recounts.ensure {isThere : Protocol (Except StoreError Bool)}
    {make : Protocol (Except StoreError Unit)}
    (looks : LooksFor topic past isThere)
    (makes
      : ∀ {check : Dialogue.Exchange Call Answer},
          sought? past check.question = some topic.sought
          → Makes topic awaited (past ++ [check]) make)
    (course : Course (ensure isThere make) history outcome)
    : Recounts topic awaited past history outcome := by
  rcases course_ensure_iff.mp course with ⟨cause, looking, rfl⟩ | ⟨looking, rfl⟩
    | ⟨_, later, result, looking, making, rfl, rfl⟩
  · obtain ⟨check, rfl, sought, quiet, confirmed⟩ := looks looking
    exact .look sought quiet Outcome.noConfusion (by simpa using confirmed)
  · obtain ⟨check, rfl, sought, quiet, confirmed⟩ := looks looking
    exact .look sought quiet Outcome.noConfusion (by simpa using confirmed)
  · obtain ⟨check, rfl, sought, quiet, confirmed⟩ := looks looking
    obtain ⟨create, rest, tried, creates, confined, well⟩ := makes sought making
    have unconfirmed : confirms check = false := by simpa using confirmed
    refine ⟨(Confined.look sought quiet).append confined, ?_, ?_⟩
    · rw [List.singleton_append, dossier_cons_of_sought sought, tried, well]
      simp [made, succeeds, quiet]
    · rw [List.singleton_append, dossier_cons_of_sought sought, tried]
      have absent : outcomeOf result ≠ .skipped := by
        cases result with
        | _ => exact Outcome.noConfusion
      simp [found, unconfirmed, confirms_eq_false_of_isCreate creates, creates, absent]

end Tablewright.Provision
