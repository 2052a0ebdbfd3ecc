import Tablewright.Dialogue

/-! Courses of dialogues: every sequence of questions and answers that a dialogue can take, whoever
answers and in whatever way.
-/

namespace Tablewright.Dialogue

variable {Question : Type} {Answer : Question → Type} {α β σ : Type}

/-- A question with the answer that was given to it.
-/
structure Exchange (Question : Type) (Answer : Question → Type) where
  question : Question
  answer : Answer question

/-- A dialogue can take a course: from its first question to its result, with any answers.
-/
inductive Course
    : Dialogue Question Answer α → List (Exchange Question Answer) → α → Prop
  | done (result : α) : Course (.done result) [] result
  | ask {question : Question} {answer : Answer question}
    {next : Answer question → Dialogue Question Answer α}
    {history : List (Exchange Question Answer)} {result : α}
    (rest : Course (next answer) history result)
    : Course (.ask question next) (⟨question, answer⟩ :: history) result

/-- A dialogue that is over has no exchanges left.
-/
theorem course_pure_iff {history : List (Exchange Question Answer)} {value result : α}
    : Course (pure value : Dialogue Question Answer α) history result
      ↔ history = [] ∧ result = value := by
  constructor
  · intro course
    cases course
    exact ⟨rfl, rfl⟩
  · intro same
    obtain ⟨rfl, rfl⟩ := same
    exact .done result

/-- A dialogue that asks a question goes on with one of its answers.
-/
theorem course_ask_iff {question : Question}
    {next : Answer question → Dialogue Question Answer α}
    {history : List (Exchange Question Answer)} {result : α}
    : Course (.ask question next) history result
      ↔ ∃ answer later,
          Course (next answer) later result
          ∧ history = ⟨question, answer⟩ :: later := by
  constructor
  · intro course
    cases course with
    | ask rest => exact ⟨_, _, rest, rfl⟩
  · intro parts
    obtain ⟨answer, later, rest, rfl⟩ := parts
    exact .ask rest

/-- Two dialogues in a row take the course of the first one and then one of the second.
Witness: induction on the first dialogue, whose questions come before all others.
-/
theorem course_bind_iff {dialogue : Dialogue Question Answer α}
    {next : α → Dialogue Question Answer β} {history : List (Exchange Question Answer)}
    {result : β}
    : Course (dialogue >>= next) history result
      ↔ ∃ first found later,
          Course dialogue first found
          ∧ Course (next found) later result
          ∧ history = first ++ later := by
  change Course (dialogue.bind next) history result ↔ _
  induction dialogue generalizing history with
  | done found =>
      constructor
      · intro course
        exact ⟨[], found, history, .done found, course, rfl⟩
      · intro parts
        obtain ⟨_, _, later, first, course, rfl⟩ := parts
        cases first
        exact course
  | ask question rest ih =>
      constructor
      · intro course
        cases course with
        | ask onward =>
            obtain ⟨first, found, later, begun, continued, rfl⟩ := (ih _).mp onward
            exact ⟨_, found, later, .ask begun, continued, rfl⟩
      · intro parts
        obtain ⟨_, found, later, begun, continued, rfl⟩ := parts
        cases begun with
        | ask onward => exact .ask ((ih _).mpr ⟨_, found, later, onward, continued, rfl⟩)

/-- A dialogue that only turns its last result into another one takes the same courses.
-/
theorem course_bind_pure_iff {dialogue : Dialogue Question Answer α} {turn : α → β}
    {history : List (Exchange Question Answer)} {result : β}
    : Course (dialogue >>= fun found => pure (turn found)) history result
      ↔ ∃ found, Course dialogue history found ∧ result = turn found := by
  rw [course_bind_iff]
  constructor
  · intro parts
    obtain ⟨first, found, _, course, ended, rfl⟩ := parts
    obtain ⟨rfl, rfl⟩ := course_pure_iff.mp ended
    exact ⟨found, by rwa [List.append_nil], rfl⟩
  · intro parts
    obtain ⟨found, course, rfl⟩ := parts
    exact ⟨history, found, [], course, .done _, (List.append_nil history).symm⟩

/-- The exchanges of a dialogue with a world.
-/
def transcript (respond : σ → (question : Question) → Answer question × σ)
    : Dialogue Question Answer α → σ → List (Exchange Question Answer)
  | done _, _ => []
  | ask question next, world =>
    let (answer, world) := respond world question
    ⟨question, answer⟩ :: (next answer).transcript respond world

/-- Whatever world answers, the dialogue takes a course to the result that it gives there.
-/
theorem course_transcript (respond : σ → (question : Question) → Answer question × σ)
    (dialogue : Dialogue Question Answer α) (world : σ)
    : dialogue.Course (dialogue.transcript respond world) (dialogue.run respond world).1 := by
  induction dialogue generalizing world with
  | done result => exact .done result
  | ask question next ih => exact .ask (ih _ _)

-----------------------------------------------------------------------------------------
-- Questions that a dialogue can ask
-----------------------------------------------------------------------------------------

section Asks

variable {Allowed Permitted : Question → Prop} {dialogue : Dialogue Question Answer α}

/-- Every question that a dialogue can ask has a property, whatever was answered before.
-/
def Asks (Allowed : Question → Prop) : Dialogue Question Answer α → Prop
  | done _ => True
  | ask question next => Allowed question ∧ ∀ answer, (next answer).Asks Allowed

/-- A dialogue that is over asks nothing.
-/
theorem asks_pure (result : α) : (pure result : Dialogue Question Answer α).Asks Allowed :=
  trivial

/-- Dialogues in a row ask what either of them asks.
-/
theorem Asks.bind {next : α → Dialogue Question Answer β} (first : dialogue.Asks Allowed)
    (later : ∀ found, (next found).Asks Allowed)
    : (dialogue >>= next).Asks Allowed := by
  change (dialogue.bind next).Asks Allowed
  induction dialogue with
  | done result => exact later result
  | ask question rest ih => exact ⟨first.1, fun answer => ih answer (first.2 answer)⟩

/-- What has a property has any weaker one.
-/
theorem Asks.mono (asks : dialogue.Asks Allowed)
    (weaker : ∀ question, Allowed question → Permitted question)
    : dialogue.Asks Permitted := by
  induction dialogue with
  | done result => trivial
  | ask question rest ih =>
      exact ⟨weaker question asks.1, fun answer => ih answer (asks.2 answer)⟩

/-- A course has no other questions than those that the dialogue can ask.
-/
theorem Asks.of_course (asks : dialogue.Asks Allowed)
    {history : List (Exchange Question Answer)} {result : α}
    (course : Course dialogue history result)
    : ∀ exchange ∈ history, Allowed exchange.question := by
  induction course with
  | done result => exact List.forall_mem_nil _
  | ask rest ih => exact List.forall_mem_cons.mpr ⟨asks.1, ih (asks.2 _)⟩

end Asks

/-- Some answers make a dialogue ask a question.
-/
inductive CanAsk (question : Question) : Dialogue Question Answer α → Prop
  | now {next : Answer question → Dialogue Question Answer α} : CanAsk question (.ask question next)
  | later {other : Question} {next : Answer other → Dialogue Question Answer α}
    (answer : Answer other) (reached : CanAsk question (next answer))
    : CanAsk question (.ask other next)

namespace CanAsk

variable {question : Question} {dialogue : Dialogue Question Answer α}

/-- Dialogues in a row can ask what the first of them can.
-/
theorem bind (reached : CanAsk question dialogue) (next : α → Dialogue Question Answer β)
    : CanAsk question (dialogue >>= next) := by
  change CanAsk question (dialogue.bind next)
  induction reached with
  | now => exact .now
  | later answer _ ih => exact .later answer ih

/-- Dialogues in a row can ask what the later one can after some course of the first.
-/
theorem bind_of_course {next : α → Dialogue Question Answer β}
    {history : List (Exchange Question Answer)} {found : α}
    (course : Course dialogue history found) (reached : CanAsk question (next found))
    : CanAsk question (dialogue >>= next) := by
  change CanAsk question (dialogue.bind next)
  induction course with
  | done result => exact reached
  | ask _ ih => exact .later _ (ih reached)

end CanAsk

/-- A dialogue whose questions can all be answered has a course.
-/
theorem exists_course (answers : ∀ question : Question, Nonempty (Answer question))
    (dialogue : Dialogue Question Answer α)
    : ∃ history result, Course dialogue history result := by
  induction dialogue with
  | done result => exact ⟨[], result, .done result⟩
  | ask question next ih =>
      obtain ⟨answer⟩ := answers question
      obtain ⟨history, result, course⟩ := ih answer
      exact ⟨_, result, .ask course⟩

/-- What a dialogue can ask, it asks in one of its courses.
-/
theorem CanAsk.exists_course (answers : ∀ question : Question, Nonempty (Answer question))
    {question : Question} {dialogue : Dialogue Question Answer α}
    (reached : CanAsk question dialogue)
    : ∃ history result,
        Course dialogue history result ∧ ∃ exchange ∈ history, exchange.question = question := by
  induction reached with
  | @now next =>
      obtain ⟨answer⟩ := answers question
      obtain ⟨history, result, course⟩ := Dialogue.exists_course answers (next answer)
      exact ⟨_, result, .ask course, _, List.mem_cons_self, rfl⟩
  | later answer _ ih =>
      obtain ⟨history, result, course, exchange, listed, same⟩ := ih
      exact ⟨_, result, .ask course, exchange, List.mem_cons_of_mem _ listed, same⟩

end Tablewright.Dialogue
