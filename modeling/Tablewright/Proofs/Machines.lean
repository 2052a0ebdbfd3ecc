import Tablewright.Host
import Tablewright.Proofs.Runs

/-! Runs on a machine: what is only looked at stays as it is.
-/

namespace Tablewright.Host

variable {α : Type} {network : (question : Http.Question) → Http.Answer question}

/-- A path names something on a machine.
-/
def Machine.finds (machine : Machine) (path : String) : Bool :=
  (machine.files.open? machine.directory path).isOk

/-- A question that can be answered without touching the files.
-/
def Question.Looks : Question → Prop
  | .clear _ => False
  | .createDirectories _ => False
  | .writeText _ _ => False
  | _ => True

-----------------------------------------------------------------------------------------
-- Looking
-----------------------------------------------------------------------------------------

/-- A machine stays as it is while a program only looks.
-/
theorem run_of_looks {session : Session α} (looks : session.Asks Question.Looks)
    (machine : Machine)
    : (session.run (Machine.respond network) machine).2 = machine := by
  induction session generalizing machine with
  | done result => rfl
  | ask question next ih =>
      have kept : (Machine.respond network machine question).2 = machine := by
        cases question with
        | clear path => exact looks.1.elim
        | createDirectories path => exact looks.1.elim
        | writeText path text => exact looks.1.elim
        | _ => rfl
      change ((next (Machine.respond network machine question).1).run _
        (Machine.respond network machine question).2).2 = machine
      rw [kept]
      exact ih _ (looks.2 _) machine

-----------------------------------------------------------------------------------------
-- Single questions
-----------------------------------------------------------------------------------------

/-- The value of a variable is that in the environment.
-/
theorem run_valueOf (name : String) (machine : Machine)
    : (valueOf name).run (Machine.respond network) machine
      = (machine.environment name, machine) :=
  rfl

/-- A path names something when it can be opened.
-/
theorem run_pathExists (path : String) (machine : Machine)
    : (pathExists path).run (Machine.respond network) machine
      = (machine.finds path, machine) :=
  rfl

/-- Asking for the value of a variable only looks.
-/
theorem looks_valueOf (name : String) : (valueOf name).Asks Question.Looks :=
  ⟨trivial, fun _ => trivial⟩

/-- Asking for the home on record only looks.
-/
theorem looks_home : home.Asks Question.Looks :=
  ⟨trivial, fun _ => trivial⟩

/-- Asking whether a path names anything only looks.
-/
theorem looks_pathExists (path : String) : (pathExists path).Asks Question.Looks :=
  ⟨trivial, fun _ => trivial⟩

/-- Reading a text only looks.
-/
theorem looks_readText (path : String) : (readText path).Asks Question.Looks :=
  ⟨trivial, fun _ => trivial⟩

/-- Talking to a web service only looks, as far as files are concerned.
-/
theorem looks_exchange (talk : Http.Exchange α) : (exchange talk).Asks Question.Looks := by
  induction talk with
  | done result => exact Dialogue.asks_pure result
  | ask question next ih => exact ⟨trivial, ih⟩

end Tablewright.Host
