/-! Programs that ask questions. A dialogue is a program whose only dealings with the world are
questions and their answers; whoever answers decides what the world is.
-/

namespace Tablewright

/-- A program that ends with a result or asks a question and goes on with its answer.
-/
inductive Dialogue (Question : Type) (Answer : Question → Type) (α : Type)
  | done (result : α)
  | ask (question : Question) (next : Answer question → Dialogue Question Answer α)

namespace Dialogue

variable {Question : Type} {Answer : Question → Type} {α β : Type}

/-- Goes on with the result.
-/
def bind : Dialogue Question Answer α → (α → Dialogue Question Answer β)
    → Dialogue Question Answer β
  | done result, next => next result
  | ask question rest, next => ask question fun answer => (rest answer).bind next

instance : Monad (Dialogue Question Answer) where
  pure := done
  bind := bind

/-- Asks one question.
-/
def question (question : Question) : Dialogue Question Answer (Answer question) :=
  ask question done

/-- Has the questions answered by actions of another kind, one after the other.
-/
def interpret {m : Type → Type} [Monad m] (respond : (question : Question) → m (Answer question))
    : Dialogue Question Answer α → m α
  | done result => pure result
  | ask question next => do (next (← respond question)).interpret respond

/-- Has the questions answered by a world that changes with each answer.
-/
def run {σ : Type} (respond : σ → (question : Question) → Answer question × σ)
    : Dialogue Question Answer α → σ → α × σ
  | done result, world => (result, world)
  | ask question next, world =>
    let (answer, world) := respond world question
    (next answer).run respond world

end Dialogue

end Tablewright
