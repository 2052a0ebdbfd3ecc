import Tablewright.Proofs.Courses
import Tablewright.Provision.Run

/-! Histories of store calls: what has to have been answered before something is created, and what a
history tries to create.
-/

namespace Tablewright.Provision

open Store (Answer Call)

/-- Store calls with their answers, the oldest first.
-/
abbrev History := List (Dialogue.Exchange Call Answer)

-----------------------------------------------------------------------------------------
-- Permitted calls
-----------------------------------------------------------------------------------------

/-- A table has been in sight.
-/
def Seen (past : History) (table : String) : Prop :=
  ⟨.tableExists table, .ok true⟩ ∈ past

/-- What the past of a call has to be like. Directly before something is created, the store has
answered that it is not there; a solution needs a publisher besides, a column its table and a
relationship both of its tables to have been in sight.
-/
def Permitted (settings : Settings) (past : History) : Call → Prop
  | .createSolution solution publisher =>
    [⟨.solutionExists solution.uniqueName, .ok false⟩,
      ⟨.findPublisher settings.publisher.namePrefix, .ok (some publisher)⟩] <:+ past
  | .createTable entity _ => [⟨.tableExists entity.logicalName, .ok false⟩] <:+ past
  | .createColumn table attr =>
    [⟨.columnExists table attr.logicalName, .ok false⟩] <:+ past ∧ Seen past table
  | .createRelationship relationship _ =>
    [⟨.columnExists relationship.referencingTable relationship.referencingAttribute,
      .ok false⟩] <:+ past
    ∧ Seen past relationship.referencedTable
    ∧ Seen past relationship.referencingTable
  | .addComponent solution id =>
    ∃ table,
      [⟨.tableId table, .ok (some id)⟩, ⟨.solutionContains solution id, .ok false⟩] <:+ past
  | _ => True

/-- Every call of a history is permitted by those before it.
-/
def Lawful (settings : Settings) (past : History) : History → Prop
  | [] => True
  | exchange :: rest =>
    Permitted settings past exchange.question ∧ Lawful settings (past ++ [exchange]) rest

-----------------------------------------------------------------------------------------
-- Attempts
-----------------------------------------------------------------------------------------

/-- Something that a run tries to create. A component is one of a table, though the store is only
told the table's id.
-/
inductive Attempt
  | solution (name : String)
  | table (name : String)
  | column (table name : String)
  | relationship (name : String)
  | component (solution : String) (table : Option String)
  deriving DecidableEq, Repr

/-- The table whose id a call asks for.
-/
def askedTable? : Call → Option String
  | .tableId table => some table
  | _ => none

/-- The table whose id was asked for last.
-/
def lastAsked? (past : History) : Option String :=
  (past.filterMap fun exchange => askedTable? exchange.question).getLast?

/-- What a call tries to create.
-/
def attempt? (past : History) : Call → Option Attempt
  | .createSolution solution _ => some (.solution solution.uniqueName)
  | .createTable entity _ => some (.table entity.logicalName)
  | .createColumn table attr => some (.column table attr.logicalName)
  | .createRelationship relationship _ => some (.relationship relationship.name)
  | .addComponent solution _ => some (.component solution (lastAsked? past))
  | _ => none

/-- What the calls of a history try to create, in their order.
-/
def attempts (past : History) : History → List Attempt
  | [] => []
  | exchange :: rest =>
    (attempt? past exchange.question).toList ++ attempts (past ++ [exchange]) rest

-----------------------------------------------------------------------------------------
-- Histories in a row
-----------------------------------------------------------------------------------------

variable {settings : Settings} {past first later history : History} {table : String}

/-- Exactly the calls that create something are attempts.
-/
theorem isSome_attempt? (past : History) (call : Call)
    : (attempt? past call).isSome = call.isCreate := by
  cases call with
  | _ => rfl

/-- A table that has been in sight has been so whatever came afterwards.
-/
theorem Seen.append (seen : Seen past table) (later : History) : Seen (past ++ later) table :=
  List.mem_append_left later seen

/-- A table that came in sight has been so whatever came before.
-/
theorem Seen.prepend (seen : Seen later table) (past : History) : Seen (past ++ later) table :=
  List.mem_append_right past seen

/-- Lawful histories in a row are lawful.
-/
theorem Lawful.append (before : Lawful settings past first)
    (after : Lawful settings (past ++ first) later)
    : Lawful settings past (first ++ later) := by
  induction first generalizing past with
  | nil => simpa using after
  | cons exchange rest ih =>
      refine ⟨before.1, ih before.2 ?_⟩
      simpa only [List.append_assoc, List.singleton_append] using after

/-- In a lawful history each call is permitted where it stands.
-/
theorem Lawful.permitted {before after : History} {exchange : Dialogue.Exchange Call Answer}
    (lawful : Lawful settings past (before ++ exchange :: after))
    : Permitted settings (past ++ before) exchange.question := by
  induction before generalizing past with
  | nil => simpa using lawful.1
  | cons earlier rest ih =>
      simpa only [List.append_assoc, List.singleton_append] using ih lawful.2

/-- The attempts of histories in a row are those of the first one and then those of the second.
-/
theorem attempts_append (past first later : History)
    : attempts past (first ++ later)
      = attempts past first ++ attempts (past ++ first) later := by
  induction first generalizing past with
  | nil => simp [attempts]
  | cons exchange rest ih =>
      simp only [List.cons_append, attempts, ih, List.append_assoc, List.nil_append]

/-- A table that a history tries to create is among its attempts.
-/
theorem mem_attempts_of_createTable {entity : Entity} {primary : Attribute}
    {answer : Answer (.createTable entity primary)}
    (member : ⟨.createTable entity primary, answer⟩ ∈ history)
    : .table entity.logicalName ∈ attempts past history := by
  obtain ⟨before, after, rfl⟩ := List.append_of_mem member
  rw [attempts_append]
  exact List.mem_append_right _ List.mem_cons_self

-----------------------------------------------------------------------------------------
-- Histories that keep to an agenda
-----------------------------------------------------------------------------------------

/-- After some past, a history makes permitted calls only and tries nothing but what is on an
agenda, in the order of the agenda and each entry once.
-/
structure Conforms (settings : Settings) (past : History) (agenda : List Attempt)
    (history : History)
    : Prop where
  lawful : Lawful settings past history
  within : (attempts past history).Sublist agenda

namespace Conforms

variable {agenda others : List Attempt}

/-- Nothing happens and nothing is on the agenda.
-/
theorem nil : Conforms settings past [] [] :=
  ⟨trivial, .slnil⟩

/-- A permitted call has what it tries to create on its agenda.
-/
theorem create {exchange : Dialogue.Exchange Call Answer} {attempt : Attempt}
    (creates : attempt? past exchange.question = some attempt)
    (permitted : Permitted settings past exchange.question)
    : Conforms settings past [attempt] [exchange] := by
  refine ⟨⟨permitted, trivial⟩, ?_⟩
  simp [attempts, creates]

/-- A call that creates nothing needs no permission and no agenda.
-/
theorem look {exchange : Dialogue.Exchange Call Answer}
    (creates : exchange.question.isCreate = false)
    : Conforms settings past [] [exchange] := by
  obtain ⟨question, answer⟩ := exchange
  cases question with
  | createSolution | createTable | createColumn | createRelationship | addComponent =>
      cases creates
  | _ => exact ⟨⟨trivial, trivial⟩, .slnil⟩

/-- A history may leave out what is on the agenda.
-/
theorem mono (conforms : Conforms settings past agenda history)
    (fewer : agenda.Sublist others)
    : Conforms settings past others history :=
  ⟨conforms.lawful, conforms.within.trans fewer⟩

/-- Histories in a row keep to their agendas in a row.
-/
theorem append (before : Conforms settings past agenda first)
    (after : Conforms settings (past ++ first) others later)
    : Conforms settings past (agenda ++ others) (first ++ later) := by
  refine ⟨before.lawful.append after.lawful, ?_⟩
  rw [attempts_append]
  exact before.within.append after.within

end Conforms

end Tablewright.Provision
