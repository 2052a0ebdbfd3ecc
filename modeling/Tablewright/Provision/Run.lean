import Tablewright.Provision.Report
import Tablewright.Schema.Compile
import Tablewright.Store.Call

/-! Provisioning: bringing a metadata store to what a compiled schema asks for. Every item is looked
for first and made only if it is absent, so that a run can be repeated.
-/

namespace Tablewright.Provision

open Store (Answer Call Protocol call)

/-- Makes something unless it is there.
-/
def ensure (isThere : Protocol (Except StoreError Bool))
    (make : Protocol (Except StoreError Unit))
    : Protocol Outcome := do
  match ← isThere with
  | .error cause => return .failed cause
  | .ok true => return .skipped
  | .ok false =>
    match ← make with
    | .ok _ => return .created
    | .error cause => return .failed cause

/-- Deals with each of a list in turn.
-/
def each {α β : Type} (deal : α → Protocol β) : List α → Protocol (List β)
  | [] => return []
  | a :: rest => do
    let b ← deal a
    return b :: (← each deal rest)

/-- Looks for a table until it is in sight, with pauses between the attempts that are left.
-/
def awaitTable (table : String) (interval attempts : Nat)
    : Nat → Protocol (Except StoreError Unit)
  | 0 => return .error (.notVisible table attempts)
  | left + 1 => do
    match ← call (.tableExists table) with
    | .error cause => return .error cause
    | .ok true => return .ok ()
    | .ok false =>
      if left = 0 then
        return .error (.notVisible table attempts)
      else
        let _ ← call (.pause interval)
        awaitTable table interval attempts left

/-- Waits until a table is in sight. It is looked for at least once.
-/
def waitUntilVisible (table : String) (settings : ProvisionSettings)
    : Protocol (Except StoreError Unit) :=
  let attempts := max settings.visibilityAttempts 1
  awaitTable table settings.visibilityIntervalMilliseconds attempts attempts

/-- Makes the solution unless it is there. It belongs to the publisher with the configured prefix.
-/
def ensureSolution (settings : Settings) : Protocol (Except PreconditionError Outcome) := do
  match ← call (.solutionExists settings.solution.uniqueName) with
  | .error cause => return .ok (.failed cause)
  | .ok true => return .ok .skipped
  | .ok false =>
    match ← call (.findPublisher settings.publisher.namePrefix) with
    | .error cause => return .error (.publisherLookup cause)
    | .ok none => return .error (.publisherNotFound settings.publisher.namePrefix)
    | .ok (some publisher) =>
      match ← call (.createSolution settings.solution publisher) with
      | .ok _ => return .ok .created
      | .error cause => return .ok (.failed cause)

/-- Makes a table with its primary name and waits until it is in sight.
-/
def createTable (settings : ProvisionSettings) (entity : Entity)
    : Protocol (Except StoreError Unit) := do
  match ← call (.createTable entity entity.creationPrimary) with
  | .error cause => return .error cause
  | .ok _ => waitUntilVisible entity.logicalName settings

/-- Makes a table unless it is there.
-/
def ensureTable (settings : ProvisionSettings) (entity : Entity) : Protocol Outcome :=
  ensure (call (.tableExists entity.logicalName)) (createTable settings entity)

/-- The name of a column's item.
-/
def columnItem (entity : Entity) (attr : Attribute) (outcome : Outcome) : ReportItem :=
  ⟨.column, entity.logicalName ++ "." ++ attr.logicalName, outcome⟩

/-- Makes a column unless it is there.
-/
def ensureColumn (entity : Entity) (attr : Attribute) : Protocol ReportItem := do
  let outcome ← ensure (call (.columnExists entity.logicalName attr.logicalName))
    (call (.createColumn entity.logicalName attr))
  return columnItem entity attr outcome

/-- Makes the columns of a table, given what became of the table. A new table has its primary name
already.
-/
def ensureColumns (entity : Entity) : Outcome → Protocol (List ReportItem)
  | .created =>
    each (ensureColumn entity) (entity.plainAttributes.filter fun attr => !attr.isPrimaryName)
  | .skipped => each (ensureColumn entity) entity.plainAttributes
  | _ =>
    return entity.plainAttributes.map fun attr =>
      columnItem entity attr (.blocked (.noTable entity.logicalName))

/-- The first of a relationship's tables that is not available.
-/
def missingTable? (available : List String) (relationship : Relationship) : Option String :=
  [relationship.referencedTable, relationship.referencingTable].find? fun table =>
    !available.contains table

/-- Makes a relationship unless its lookup is there.
-/
def ensureRelationship (compiled : CompiledSchema) (available : List String)
    (relationship : Relationship)
    : Protocol ReportItem := do
  match missingTable? available relationship with
  | some table => return item (.blocked (.noTable table))
  | none =>
    match compiled.lookup? relationship with
    | none => return item (.blocked (.noLookup relationship.referencingAttribute))
    | some lookup =>
      let column :=
        Call.columnExists relationship.referencingTable relationship.referencingAttribute
      return item (← ensure (call column) (call (.createRelationship relationship lookup)))
where
  item (outcome : Outcome) : ReportItem := ⟨.relationship, relationship.name, outcome⟩

/-- Makes the relationships of some names.
-/
def ensureRelationships (compiled : CompiledSchema) (available : List String)
    (names : List String)
    : Protocol (List ReportItem) :=
  each (ensureRelationship compiled available) (names.filterMap compiled.relationship?)

/-- Takes the steps of a plan: each makes a table, its columns and its relationships. Gives the
items and the tables that are available afterwards.
-/
def takeSteps (compiled : CompiledSchema) (settings : Settings) (available : List String)
    : List Step → Protocol (List ReportItem × List String)
  | [] => return ([], available)
  | step :: rest =>
    match compiled.entity? step.table with
    | none => takeSteps compiled settings available rest
    | some entity => do
      let outcome ← ensureTable settings.provision entity
      let available :=
        if outcome.isPresent then entity.logicalName :: available else available
      let columns ← ensureColumns entity outcome
      let relationships ← ensureRelationships compiled available step.relationships
      let (items, available) ← takeSteps compiled settings available rest
      let table : ReportItem := ⟨.table, entity.logicalName, outcome⟩
      return (table :: (columns ++ relationships ++ items), available)

/-- Makes a table a component of the solution unless it is one.
-/
def addTable (solution table : String) : Protocol Outcome := do
  match ← call (.tableId table) with
  | .error cause => return .failed cause
  | .ok none => return .blocked (.noTableId table)
  | .ok (some id) =>
    ensure (call (.solutionContains solution id)) (call (.addComponent solution id))

/-- The component of a table, for which the solution and the table have to be there.
-/
def ensureComponent (settings : Settings) (solutionIsThere : Bool) (available : List String)
    (table : String)
    : Protocol ReportItem := do
  if !solutionIsThere then
    return ⟨.component, table, .blocked .noSolution⟩
  else if !available.contains table then
    return ⟨.component, table, .blocked (.noTable table)⟩
  else
    return ⟨.component, table, ← addTable settings.solution.uniqueName table⟩

/-- Brings a store to what a compiled schema asks for. A run goes on after a failure, except when
the store cannot be reached or has no publisher for a new solution.
-/
def run (compiled : CompiledSchema) (settings : Settings)
    : Protocol (Except PreconditionError Report) := do
  match ← call .whoAmI with
  | .error cause => return .error (.unreachable cause)
  | .ok _ =>
    match ← ensureSolution settings with
    | .error error => return .error error
    | .ok outcome =>
      let (items, available) ← takeSteps compiled settings [] compiled.plan.steps
      let deferred ← ensureRelationships compiled available compiled.plan.deferred
      let components ← each (ensureComponent settings outcome.isPresent available)
        (compiled.plan.steps.map (·.table))
      let solution : ReportItem := ⟨.solution, settings.solution.uniqueName, outcome⟩
      return .ok ⟨solution :: (items ++ deferred ++ components)⟩

end Tablewright.Provision
