import Tablewright.Index
import Tablewright.Store.Call

/-! A metadata store that is a value: publishers, solutions, tables and relationships by name. A new
table can stay out of sight for a number of checks, as it can in a live store.
-/

namespace Tablewright.Store

/-- A table of the store. It is out of sight for as many more checks as it is hidden from.
-/
structure TableRecord where
  id : String
  columns : NameSet
  hiddenFrom : Nat

/-- The record with one more column.
-/
def TableRecord.withColumn (record : TableRecord) (column : String) : TableRecord :=
  { record with columns := NameSet.add column record.columns }

/-- Something that the store has made.
-/
inductive Creation
  | solution (name : String)
  | table (name : String)
  | column (owner name : String)
  | relationship (name : String)
  | component (id : String)
  deriving DecidableEq, Repr

/-- The kind and the name of a creation.
-/
def Creation.text : Creation → String
  | solution name => "solution:" ++ name
  | table name => "table:" ++ name
  | column owner name => "column:" ++ owner ++ "." ++ name
  | relationship name => "relationship:" ++ name
  | component id => "component:" ++ id

/-- The contents of a store, what it refuses to make, and what it has made. New tables are hidden
from `delay` checks.
-/
structure Memory where
  publishers : Index String := .empty
  solutions : NameSet := Index.empty
  tables : Index TableRecord := .empty
  relationships : NameSet := Index.empty
  components : List (String × String) := []
  rejections : Index StoreError := .empty
  creations : List Creation := []
  lastId : Nat := 0
  delay : Nat := 0
  isOffline : Bool := false

namespace Memory

/-- The identifier of a number: twelve digits at least, behind zeros.
-/
def idOf (n : Nat) : String :=
  let digits := Nat.toDigits 10 n
  "00000000-0000-0000-0000-"
    ++ String.ofList (List.replicate (12 - digits.length) '0' ++ digits)

/-- The identifier of the user.
-/
def userId : String := idOf 0

/-- Adds a publisher.
-/
def withPublisher (namePrefix id : String) (memory : Memory) : Memory :=
  { memory with publishers := memory.publishers.insert namePrefix id }

/-- Adds a solution.
-/
def withSolution (name : String) (memory : Memory) : Memory :=
  { memory with solutions := NameSet.add name memory.solutions }

/-- A set of names.
-/
def nameSet (names : List String) : NameSet :=
  Index.ofList (names.map fun name => (name, ()))

/-- Adds a table, under the next identifier.
-/
def addTable (table : String) (columns : List String) (hiddenFrom : Nat) (memory : Memory)
    : Memory :=
  { memory with
    tables := memory.tables.insert table ⟨idOf (memory.lastId + 1), nameSet columns, hiddenFrom⟩
    lastId := memory.lastId + 1 }

/-- Adds a table that is in sight.
-/
def withTable (table : String) (columns : List String) (memory : Memory) : Memory :=
  memory.addTable table columns 0

/-- Refuses to make whatever has a name.
-/
def rejecting (name : String) (status : Nat) (message : String) (memory : Memory) : Memory :=
  { memory with rejections := memory.rejections.insert name (.remote status message) }

/-- Sets the record of a table.
-/
def setRecord (table : String) (record : TableRecord) (memory : Memory) : Memory :=
  { memory with tables := memory.tables.insert table record }

/-- Adds a relationship.
-/
def withRelationship (name : String) (memory : Memory) : Memory :=
  { memory with relationships := NameSet.add name memory.relationships }

/-- Registers an identifier as a component of a solution.
-/
def withComponent (solution id : String) (memory : Memory) : Memory :=
  { memory with
    components :=
      if (solution, id) ∈ memory.components then
        memory.components
      else
        memory.components ++ [(solution, id)] }

/-- Notes a creation.
-/
def note (creation : Creation) (memory : Memory) : Memory :=
  { memory with creations := memory.creations ++ [creation] }

/-- Something done in a store. It gives a result or fails, and what it changed before it failed
stays changed.
-/
abbrev Deed := ExceptT StoreError (StateM Memory)

/-- What a deed gives, and the store afterwards.
-/
def perform {α : Type} (memory : Memory) (deed : Deed α) : Except StoreError α × Memory :=
  deed.run.run memory

/-- Fails when the store refuses a name.
-/
def checkName (name : String) : Deed Unit := do
  match (← get).rejections.get? name with
  | some error => throw error
  | none => return ()

/-- The record of a table that has to be there.
-/
def record (table : String) : Deed TableRecord := do
  match (← get).tables.get? table with
  | some record => return record
  | none => throw (.remote 404 ("Could not find entity with name '" ++ table ++ "'"))

/-- Uses up the next identifier.
-/
def nextId : Deed String := do
  modify fun memory => { memory with lastId := memory.lastId + 1 }
  return idOf (← get).lastId

/-- Adds a name to the columns of a table, and tells whether it is new.
-/
def insertColumn (table column : String) (record : TableRecord) : Deed Bool := do
  modify (setRecord table (record.withColumn column))
  return !record.columns.contains column

/-- Makes a solution.
-/
def createSolution (name : String) : Deed Unit := do
  checkName name
  modify (withSolution name)
  modify (note (.solution name))

/-- Makes a table with one column.
-/
def createTable (table primary : String) : Deed Unit := do
  checkName table
  if (← get).tables.contains table then
    throw (.remote 400 ("An entity with the name " ++ table ++ " already exists"))
  else
    let id ← nextId
    let delay := (← get).delay
    modify (setRecord table ⟨id, nameSet [primary], delay⟩)
    modify (note (.table table))

/-- Makes a column of a table. The name is among the columns before it is known to be new.
-/
def createColumn (table column : String) : Deed Unit := do
  checkName column
  let record ← record table
  if ← insertColumn table column record then
    modify (note (.column table column))
  else
    throw (.remote 400 ("Attribute " ++ column ++ " already exists"))

/-- Makes a relationship with its lookup.
-/
def createRelationship (relationship : Relationship) (lookup : String) : Deed Unit := do
  checkName relationship.name
  let _ ← record relationship.referencedTable
  let record ← record relationship.referencingTable
  let _ ← insertColumn relationship.referencingTable lookup record
  modify (withRelationship relationship.name)
  modify (note (.relationship relationship.name))

/-- Makes something a component of a solution.
-/
def addComponent (solution id : String) : Deed Unit := do
  if (← get).solutions.contains solution then
    modify (withComponent solution id)
    modify (note (.component id))
  else
    throw (.remote 404 ("Solution " ++ solution ++ " not found"))

/-- Whether a table is in sight. A check of one that is not brings it nearer.
-/
def checkTable (memory : Memory) (table : String) : Bool × Memory :=
  match memory.tables.get? table with
  | none => (false, memory)
  | some record =>
    if record.hiddenFrom = 0 then
      (true, memory)
    else
      (false, memory.setRecord table { record with hiddenFrom := record.hiddenFrom - 1 })

/-- Whether a table has a column.
-/
def hasColumn (memory : Memory) (table column : String) : Bool :=
  match memory.tables.get? table with
  | some record => record.columns.contains column
  | none => false

/-- The tables that are components of a solution.
-/
def componentTables (memory : Memory) (solution : String) : List String :=
  (memory.tables.entries.filter fun (_, record) =>
    (solution, record.id) ∈ memory.components).map (·.1)

/-- The answer of a store that can be reached.
-/
def answer (memory : Memory) : (call : Call) → Answer call × Memory
  | .whoAmI => (.ok userId, memory)
  | .findPublisher namePrefix => (.ok (memory.publishers.get? namePrefix), memory)
  | .solutionExists name => (.ok (memory.solutions.contains name), memory)
  | .createSolution solution _ => memory.perform (createSolution solution.uniqueName)
  | .tableExists table =>
    let (found, memory) := memory.checkTable table
    (.ok found, memory)
  | .columnExists table column => (.ok (memory.hasColumn table column), memory)
  | .createTable entity primary =>
    memory.perform (createTable entity.logicalName primary.logicalName)
  | .createColumn table attr => memory.perform (createColumn table attr.logicalName)
  | .createRelationship relationship lookup =>
    memory.perform (createRelationship relationship lookup.logicalName)
  | .tableId table => (.ok ((memory.tables.get? table).map (·.id)), memory)
  | .solutionContains solution id => (.ok (decide ((solution, id) ∈ memory.components)), memory)
  | .addComponent solution id => memory.perform (addComponent solution id)
  | .pause _ => (.ok (), memory)

/-- The answer of a store. One that is offline refuses every connection.
-/
def respond (memory : Memory) (call : Call) : Answer call × Memory :=
  match call with
  | .pause _ => (.ok (), memory)
  | call =>
    if memory.isOffline then
      (.error (.transport "connection refused"), memory)
    else
      memory.answer call

end Memory

end Tablewright.Store
