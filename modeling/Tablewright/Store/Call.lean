import Tablewright.Dialogue
import Tablewright.Entity.Basic
import Tablewright.Relationship.Basic
import Tablewright.Settings.Basic
import Tablewright.Store.Error

/-! Metadata stores as their callers see them: the calls and the types of their answers.
-/

namespace Tablewright.Store

/-- A call to a metadata store. A table is created together with its primary name, and a
relationship together with its lookup. To pause is to let time pass between two calls.
-/
inductive Call
  | whoAmI
  | findPublisher (namePrefix : String)
  | solutionExists (name : String)
  | createSolution (solution : SolutionSettings) (publisher : String)
  | tableExists (table : String)
  | columnExists (table column : String)
  | createTable (entity : Entity) (primary : Attribute)
  | createColumn (table : String) (attr : Attribute)
  | createRelationship (relationship : Relationship) (lookup : Attribute)
  | tableId (table : String)
  | solutionContains (solution id : String)
  | addComponent (solution id : String)
  | pause (milliseconds : Nat)
  deriving DecidableEq

/-- What a successful call gives.
-/
abbrev Result : Call → Type
  | .whoAmI => String
  | .findPublisher _ => Option String
  | .solutionExists _ => Bool
  | .createSolution _ _ => Unit
  | .tableExists _ => Bool
  | .columnExists _ _ => Bool
  | .createTable _ _ => Unit
  | .createColumn _ _ => Unit
  | .createRelationship _ _ => Unit
  | .tableId _ => Option String
  | .solutionContains _ _ => Bool
  | .addComponent _ _ => Unit
  | .pause _ => Unit

/-- The answer to a call: what it gives or why it fails.
-/
abbrev Answer (call : Call) : Type :=
  Except StoreError (Result call)

/-- A program that works on a metadata store.
-/
abbrev Protocol := Dialogue Call Answer

/-- Makes one call.
-/
def call (call : Call) : Protocol (Answer call) :=
  .ask call .done

/-- The call makes something.
-/
def Call.isCreate : Call → Bool
  | createSolution _ _ => true
  | createTable _ _ => true
  | createColumn _ _ => true
  | createRelationship _ _ => true
  | addComponent _ _ => true
  | _ => false

end Tablewright.Store
