import Tablewright.Relationship.Dependency

/-! The order in which tables and relationships are created.
-/

namespace Tablewright

/-- A table's turn: its tier, and the relationships that are created once its columns are there.
-/
structure Step where
  table : String
  tier : Nat
  relationships : List String
  deriving DecidableEq, Repr

/-- The turns of all tables, and the relationships that wait until every table is there.
-/
structure Plan where
  steps : List Step
  deferred : List String
  deriving DecidableEq, Repr

namespace Dependencies

/-- The names of the relationships that are created in a table's turn.
-/
def ownRelationships (dependencies : Dependencies) (table : String) : List String :=
  (dependencies.relationships.filter fun relationship =>
    relationship.referencingTable == table && !dependencies.isCyclic relationship).map (·.name)

/-- The tables with the relationships of their turns. Of a repeated name the last one has them.
-/
def turns (dependencies : Dependencies) : List String → List (String × List String)
  | [] => []
  | table :: rest =>
    (table, if table ∈ rest then [] else dependencies.ownRelationships table)
      :: dependencies.turns rest

/-- The relationships that lie on cycles.
-/
def deferred (dependencies : Dependencies) : List String :=
  (dependencies.relationships.filter dependencies.isCyclic).map (·.name)

/-- The steps of layers, counted from a tier upwards.
-/
def stepsFrom (tier : Nat) : List (List (String × List String)) → List Step
  | [] => []
  | layer :: rest =>
    (layer.map fun turn => ⟨turn.1, tier, turn.2⟩) ++ stepsFrom (tier + 1) rest

/-- The plan of tables and relationships.
-/
def plan (dependencies : Dependencies) : Except SchemaError Plan := do
  let layers ← layers dependencies.waits (dependencies.turns dependencies.tables)
  return ⟨stepsFrom 0 layers, dependencies.deferred⟩

end Dependencies

namespace Plan

/-- The tier of a table.
-/
def tier? (plan : Plan) (table : String) : Option Nat :=
  (plan.steps.find? fun step => step.table == table).map (·.tier)

/-- The position of a table among the steps.
-/
def position? (plan : Plan) (table : String) : Option Nat :=
  plan.steps.findIdx? fun step => step.table == table

/-- The tables of each tier, from the lowest tier on.
-/
def tiers (plan : Plan) : List (Nat × List String) :=
  (plan.steps.map (·.tier)).eraseDups.map fun tier =>
    (tier, (plan.steps.filter fun step => step.tier == tier).map (·.table))

end Plan

end Tablewright
