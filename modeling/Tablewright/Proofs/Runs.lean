import Tablewright.Dialogue
import Tablewright.Proofs.Courses

/-! Runs of dialogues with a world: dialogues in a row are dealt with in a row, and the world
that one of them leaves behind is the world of the next.
-/

namespace Tablewright.Dialogue

variable {Question : Type} {Answer : Question → Type} {α β γ σ : Type}

-----------------------------------------------------------------------------------------
-- Dialogues in a row
-----------------------------------------------------------------------------------------

/-- A dialogue that goes on with its own result stays as it is.
-/
theorem bind_done (dialogue : Dialogue Question Answer α) : dialogue.bind done = dialogue := by
  induction dialogue with
  | done result => rfl
  | ask question next ih => exact congrArg (ask question) (funext ih)

/-- It does not matter which two of three dialogues in a row are put together first.
-/
theorem bind_bind (dialogue : Dialogue Question Answer α)
    (next : α → Dialogue Question Answer β) (last : β → Dialogue Question Answer γ)
    : (dialogue.bind next).bind last = dialogue.bind fun found => (next found).bind last := by
  induction dialogue with
  | done result => rfl
  | ask question rest ih => exact congrArg (ask question) (funext ih)

instance : LawfulMonad (Dialogue Question Answer) :=
  LawfulMonad.mk' _ bind_done (fun _ _ => rfl) bind_bind

/-- Only for results that a dialogue can come to does it matter how one goes on.
-/
theorem bind_congr_of_course {dialogue : Dialogue Question Answer α}
    {next other : α → Dialogue Question Answer β}
    (same : ∀ {history result}, Course dialogue history result → next result = other result)
    : dialogue >>= next = dialogue >>= other := by
  change dialogue.bind next = dialogue.bind other
  induction dialogue with
  | done result => exact same (.done result)
  | ask question rest ih =>
      refine congrArg (ask question) (funext fun answer => ?_)
      exact ih answer fun course => same (.ask course)

-----------------------------------------------------------------------------------------
-- Interpretations
-----------------------------------------------------------------------------------------

section Interpretations

variable {m : Type → Type} [Monad m] [LawfulMonad m]
variable {α β : Type} {Answer : Question → Type}

/-- One question is interpreted by the actions that answer it.
-/
theorem interpret_question (respond : (question : Question) → m (Answer question))
    (query : Question)
    : (ask query done : Dialogue Question Answer _).interpret respond = respond query :=
  bind_pure (respond query)

/-- Dialogues in a row are interpreted in a row.
-/
theorem interpret_bind (respond : (question : Question) → m (Answer question))
    (dialogue : Dialogue Question Answer α) (next : α → Dialogue Question Answer β)
    : (dialogue >>= next).interpret respond
      = dialogue.interpret respond >>= fun found => (next found).interpret respond := by
  change (dialogue.bind next).interpret respond = _
  induction dialogue with
  | done result => exact (pure_bind result fun found => (next found).interpret respond).symm
  | ask question rest ih =>
      simp only [bind, interpret, ih]
      exact (bind_assoc _ _ _).symm

end Interpretations

-----------------------------------------------------------------------------------------
-- Runs
-----------------------------------------------------------------------------------------

variable {respond : σ → (question : Question) → Answer question × σ}

/-- A dialogue that is over leaves the world as it is.
-/
@[simp]
theorem run_pure (result : α) (world : σ)
    : (pure result : Dialogue Question Answer α).run respond world = (result, world) :=
  rfl

/-- The second of two dialogues in a row meets the world that the first one leaves behind.
-/
theorem run_bind (dialogue : Dialogue Question Answer α)
    (next : α → Dialogue Question Answer β) (world : σ)
    : (dialogue >>= next).run respond world
      = (next (dialogue.run respond world).1).run respond (dialogue.run respond world).2 := by
  change (dialogue.bind next).run respond world = _
  induction dialogue generalizing world with
  | done result => rfl
  | ask question rest ih => exact ih _ _

/-- The exchanges of two dialogues in a row are those of the first one and then those of the second.
-/
theorem transcript_bind (dialogue : Dialogue Question Answer α)
    (next : α → Dialogue Question Answer β) (world : σ)
    : (dialogue >>= next).transcript respond world
      = dialogue.transcript respond world
        ++ (next (dialogue.run respond world).1).transcript respond
            (dialogue.run respond world).2 := by
  change (dialogue.bind next).transcript respond world = _
  induction dialogue generalizing world with
  | done result => rfl
  | ask question rest ih => exact congrArg (List.cons _) (ih _ _)

/-- A dialogue takes a course to the result that it gives.
-/
theorem course_of_run {dialogue : Dialogue Question Answer α} {world after : σ} {result : α}
    (ended : dialogue.run respond world = (result, after))
    : Course dialogue (dialogue.transcript respond world) result := by
  have course := course_transcript respond dialogue world
  rwa [ended] at course

/-- What every answer keeps true of a world, a dialogue keeps true of it.
-/
theorem run_preserves {Property : σ → Prop}
    (keeps : ∀ world question, Property world → Property (respond world question).2)
    (dialogue : Dialogue Question Answer α) {world : σ} (holds : Property world)
    : Property (dialogue.run respond world).2 := by
  induction dialogue generalizing world with
  | done result => exact holds
  | ask question next ih => exact ih _ (keeps world question holds)

end Tablewright.Dialogue
