import Tablewright.Relationship.Basic

/-! Which tables depend on which: reachability along relationships, the relationships that lie on
cycles, and the layers of tables that the others form.
-/

namespace Tablewright

/-- Tables and the relationships between them. Names may repeat, and a relationship may mention
tables that are not there.
-/
structure Dependencies where
  tables : List String
  relationships : List Relationship

namespace Dependencies

/-- Both tables of a relationship are there.
-/
def knows (dependencies : Dependencies) (relationship : Relationship) : Bool :=
  dependencies.tables.contains relationship.referencingTable
    && dependencies.tables.contains relationship.referencedTable

/-- The tables that a table refers to.
-/
def references (dependencies : Dependencies) (table : String) : List String :=
  (dependencies.relationships.filter fun relationship =>
    relationship.referencingTable == table && dependencies.knows relationship).map
    (·.referencedTable)

/-- The tables that are met from a list of tables to visit, in steps from a table to those it
refers to. A table is visited while it is `fresh`, hence at most once.
-/
def visit (references : String → List String) (pending fresh : List String) : List String :=
  match pending with
  | [] => []
  | table :: pending =>
    if table ∈ fresh then
      table :: visit references (references table ++ pending) (fresh.erase table)
    else
      visit references pending fresh
termination_by (fresh.length, pending.length)
decreasing_by
  · rename_i h
    have := List.length_erase_of_mem h
    have := List.length_pos_of_mem h
    exact Prod.Lex.left _ _ (by omega)
  · exact Prod.Lex.right _ (Nat.lt_succ_self _)

/-- The tables that a table leads to, itself included.
-/
def reachable (dependencies : Dependencies) (table : String) : List String :=
  visit dependencies.references [table] dependencies.tables.eraseDups

/-- The relationship lies on a cycle: the table it refers to leads back to its own table.
-/
def isCyclic (dependencies : Dependencies) (relationship : Relationship) : Bool :=
  dependencies.knows relationship
    && (dependencies.reachable relationship.referencedTable).contains
      relationship.referencingTable

/-- The positions of the relationships that lie on cycles.
-/
def cyclicPositions (dependencies : Dependencies) : List Nat :=
  (dependencies.relationships.zipIdx.filter fun entry =>
    dependencies.isCyclic entry.1).map (·.2)

/-- Pairs of tables of which the first has to wait for the second.
-/
def waits (dependencies : Dependencies) : List (String × String) :=
  (dependencies.relationships.filter fun relationship =>
    dependencies.knows relationship && !dependencies.isCyclic relationship).map
    fun relationship => (relationship.referencingTable, relationship.referencedTable)

/-- No table that a table waits for is among those that remain.
-/
def isFree {α : Type} (waits : List (String × String)) (remaining : List (String × α))
    (table : String)
    : Bool :=
  waits.all fun wait => wait.1 != table || remaining.all fun entry => entry.1 != wait.2

/-- Entries by the layer of their table: first those that wait for nothing, then those that only
wait for the first ones, and so on. Fails when all that remain wait for each other.
-/
def layers {α : Type} (waits : List (String × String)) (remaining : List (String × α))
    : Except SchemaError (List (List (String × α))) :=
  match remaining with
  | [] => .ok []
  | entry :: rest =>
    let free := (entry :: rest).filter fun other => isFree waits (entry :: rest) other.1
    let blocked := (entry :: rest).filter fun other => !isFree waits (entry :: rest) other.1
    if _h : blocked.length < (entry :: rest).length then do
      return free :: (← layers waits blocked)
    else
      .error (.dependencyCycle entry.1)
termination_by remaining.length
decreasing_by exact _h

end Dependencies

end Tablewright
