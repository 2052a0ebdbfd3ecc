import Tablewright.Proofs.Provision.Calls
import Tablewright.Proofs.Provision.Turns
import Tablewright.Provision.Preview

/-! The names that a run tells a store: those of tables and columns are well formed, except for a
primary name that a table declares without declaring the column.
-/

namespace Tablewright

/-- The names of tables and columns that a call tells a store.
-/
def Store.Call.names : Store.Call → List String
  | tableExists table => [table]
  | columnExists table column => [table, column]
  | createTable entity primary => [entity.logicalName, primary.logicalName]
  | createColumn table attr => [table, attr.logicalName]
  | createRelationship link lookup =>
    [link.referencedTable, link.referencingTable, link.referencingAttribute, lookup.logicalName]
  | tableId table => [table]
  | _ => []

/-- A call makes a declared table with the primary name that the table overrides.
-/
inductive Schema.Overrides (schema : Schema) : Store.Call → String → Prop
  | intro {table : Table} {entity : Entity} {primary : Attribute}
    (declared : table ∈ schema.tables) (same : entity.logicalName = table.logicalName)
    (override : table.primaryNameColumn = some primary.logicalName)
    : Overrides schema (.createTable entity primary) primary.logicalName

namespace Provision

open Dialogue (CanAsk Course)
open Store (Call)

variable {schema : Schema} {publisherPrefix : String} {compiled : CompiledSchema}
variable {settings : Settings}

-----------------------------------------------------------------------------------------
-- The names that a run tells
-----------------------------------------------------------------------------------------

/-- A new table of a compiled schema has a well-formed primary name, or one that its declaration
overrides.
-/
theorem isLogicalName_creationPrimary
    (compiles : schema.compile publisherPrefix = .ok compiled) {entity : Entity}
    (listed : entity ∈ compiled.entities)
    : IsLogicalName entity.creationPrimary.logicalName
      ∨ ∃ table ∈ schema.tables,
          entity.logicalName = table.logicalName
          ∧ table.primaryNameColumn = some entity.creationPrimary.logicalName := by
  have coherent := CompiledSchema.coherent_of_compile compiles
  obtain ⟨valid, encoded, _, _⟩ := Schema.compile_eq_ok_iff.mp compiles
  obtain ⟨_, tables⟩ := Schema.validate_eq_ok_iff.mp valid
  obtain ⟨table, declared, made⟩ :=
    exists_mem_of_forall₂ (Schema.entities_eq_ok_iff.mp encoded) listed
  obtain ⟨named, _, columns⟩ := tables table declared
  rw [coherent.creationPrimary_logicalName listed]
  obtain ⟨_, _, _, rfl⟩ := Entity.ofTable_eq_ok_iff.mp made
  have resolved := PrimaryName.resolves table publisherPrefix
  change IsLogicalName (PrimaryName.resolve table publisherPrefix).name
    ∨ ∃ other ∈ schema.tables, table.logicalName = other.logicalName
        ∧ other.primaryNameColumn = some (PrimaryName.resolve table publisherPrefix).name
  generalize PrimaryName.resolve table publisherPrefix = primary at resolved ⊢
  cases resolved with
  | override override => exact .inr ⟨table, declared, rfl, override⟩
  | convention _ conventional =>
      obtain ⟨member, same⟩ := Table.mem_of_find?_eq_some conventional
      exact .inl (same ▸ (columns _ member).1)
  | firstRequiredString _ _ member | firstString _ _ member => exact .inl (columns _ member).1
  | synthesized => exact .inl named.append_name

/-- The tables and the lookup of a compiled relationship have well-formed names.
-/
theorem isLogicalName_of_relationship (coherent : compiled.Coherent) {link : Relationship}
    (member : link ∈ compiled.relationships)
    : IsLogicalName link.referencedTable
      ∧ IsLogicalName link.referencingTable
      ∧ IsLogicalName link.referencingAttribute := by
  obtain ⟨target, there, referenced⟩ := coherent.targets link member
  obtain ⟨entity, listed, attr, own, _, source⟩ := coherent.lookups link member
  obtain ⟨table, column⟩ := ColumnName.mk.inj source
  rw [← referenced, table, column]
  exact ⟨coherent.tableNames target there, coherent.tableNames entity listed,
    coherent.columnNames entity listed attr own⟩

/-- A call that serves a task of a compiled schema tells well-formed names and overrides.
-/
theorem names_of_serves (compiles : schema.compile publisherPrefix = .ok compiled) {task : Task}
    (asked : task ∈ compiled.tasks) {query : Call} (serves : Serves compiled settings task query)
    {name : String} (told : name ∈ query.names)
    : IsLogicalName name ∨ schema.Overrides query name := by
  have coherent := CompiledSchema.coherent_of_compile compiles
  rw [mem_tasks_iff] at asked
  have column {entity : Entity} {attr : Attribute}
      (asked : entity ∈ compiled.entities ∧ attr ∈ entity.plainAttributes)
      (told : name ∈ [entity.logicalName, attr.logicalName])
      : IsLogicalName name := by
    rcases List.mem_pair.mp told with rfl | rfl
    · exact coherent.tableNames entity asked.1
    · exact coherent.columnNames entity asked.1 attr (List.mem_of_mem_filter asked.2)
  cases serves with
  | tableExists entity =>
      obtain rfl := List.mem_singleton.mp told
      exact .inl (coherent.tableNames entity asked)
  | createTable entity =>
      rcases List.mem_pair.mp told with rfl | rfl
      · exact .inl (coherent.tableNames entity asked)
      · refine (isLogicalName_creationPrimary compiles asked).imp_right fun overridden => ?_
        obtain ⟨table, declared, same, override⟩ := overridden
        exact .intro declared same override
  | columnExists entity attr => exact .inl (column asked told)
  | createColumn entity attr => exact .inl (column asked told)
  | lookupExists link =>
      obtain ⟨_, referencing, named⟩ := isLogicalName_of_relationship coherent asked
      rcases List.mem_pair.mp told with rfl | rfl
      · exact .inl referencing
      · exact .inl named
  | @createRelationship link lookup found =>
      obtain ⟨referenced, referencing, own⟩ := isLogicalName_of_relationship coherent asked
      obtain ⟨other, same, named⟩ := coherent.exists_lookup asked
      obtain rfl := Option.some.inj (found.symm.trans same)
      have known : name ∈ [link.referencedTable, link.referencingTable, link.referencingAttribute,
          lookup.logicalName] := told
      simp only [named, List.mem_cons, List.not_mem_nil, or_false, or_self] at known
      rcases known with rfl | rfl | rfl
      · exact .inl referenced
      · exact .inl referencing
      · exact .inl own
  | tableId component =>
      obtain rfl := List.mem_singleton.mp told
      obtain ⟨entity, listed, rfl⟩ := asked
      exact .inl (coherent.tableNames entity listed)
  | pause | solutionContains | addComponent => cases told

/-- A run tells well-formed names, apart from overrides that it makes tables with.
-/
theorem names_of_course_run (compiles : schema.compile publisherPrefix = .ok compiled)
    {history : History} {result : Except PreconditionError Report}
    (course : Course (run compiled settings) history result)
    : ∀ exchange ∈ history, ∀ name ∈ exchange.question.names,
        IsLogicalName name ∨ schema.Overrides exchange.question name := by
  have coherent := CompiledSchema.coherent_of_compile compiles
  intro exchange exchanged name told
  rcases (asks_run coherent.toWellFormed settings).of_course course exchange exchanged with
    opens | ⟨task, listed, serves⟩
  · generalize exchange.question = query at opens told
    cases opens with
    | _ => cases told
  · exact names_of_serves compiles (mem_tasks_of_mem_schedule coherent listed) serves told

-----------------------------------------------------------------------------------------
-- The overrides that a run tells
-----------------------------------------------------------------------------------------

/-- Every call can be answered.
-/
theorem answer_nonempty (query : Call) : Nonempty (Store.Answer query) :=
  ⟨.error (.transport "")⟩

/-- To deal with tasks can make every table that is among them: when it is not there.
Witness: induction on the tasks before it, whatever becomes of these.
-/
theorem canAsk_perform {entity : Entity} {tasks : List Task} (listed : .table entity ∈ tasks)
    (report : List ReportItem)
    : CanAsk (.createTable entity entity.creationPrimary)
        (perform compiled settings tasks report) := by
  induction tasks generalizing report with
  | nil => cases listed
  | cons task rest ih =>
      rw [perform]
      rcases List.mem_cons.mp listed with rfl | later
      · refine CanAsk.bind ?_ _
        exact .later (.ok false) .now
      · split
        · exact ih later report
        · obtain ⟨history, outcome, course⟩ :=
            Dialogue.exists_course answer_nonempty (pursue compiled settings report task)
          exact .bind_of_course course ((ih later _).bind _)

/-- A run can make every table of a compiled schema.
-/
theorem canAsk_run (coherent : compiled.Coherent) (settings : Settings) {entity : Entity}
    (listed : entity ∈ compiled.entities)
    : CanAsk (.createTable entity entity.creationPrimary) (run compiled settings) := by
  have task : .table entity ∈ schedule compiled :=
    mem_schedule_of_mem_tasks coherent (mem_tasks_iff.mpr listed)
  rw [run_eq_perform coherent.toWellFormed]
  refine .later (.ok "") (.later (.ok true) ?_)
  exact (canAsk_perform task _).bind _

/-- Every primary name that a table overrides is told a store in some run.
-/
theorem exists_course_of_override (compiles : schema.compile publisherPrefix = .ok compiled)
    (settings : Settings) {table : Table} (declared : table ∈ schema.tables) {name : String}
    (override : table.primaryNameColumn = some name)
    : ∃ history result,
        Course (run compiled settings) history result
        ∧ ∃ exchange ∈ history,
            name ∈ exchange.question.names ∧ schema.Overrides exchange.question name := by
  have coherent := CompiledSchema.coherent_of_compile compiles
  obtain ⟨entity, found, made⟩ := CompiledSchema.exists_entity_of_declared compiles declared
  obtain ⟨listed, same⟩ := coherent.entity?_eq_some_iff.mp found
  have primary : entity.creationPrimary.logicalName = name := by
    rw [coherent.creationPrimary_logicalName listed]
    obtain ⟨_, _, _, rfl⟩ := Entity.ofTable_eq_ok_iff.mp made
    change (PrimaryName.resolve table publisherPrefix).name = name
    rw [PrimaryName.resolve, override]
  obtain ⟨history, result, course, exchange, exchanged, asked⟩ :=
    (canAsk_run coherent settings listed).exists_course answer_nonempty
  refine ⟨history, result, course, exchange, exchanged, ?_⟩
  rw [asked, ← primary]
  exact ⟨List.mem_cons_of_mem _ List.mem_cons_self, .intro declared same (primary ▸ override)⟩

/-- Every name of a table or a column that a run of a compiled schema tells a store is well formed,
unless it makes a table with the primary name that is declared for it. So all of them are, in
every run and whatever the store answers, exactly when all such declared names are: nothing
checks these.
Witness: each of them is told in the run that does not find the table.
-/
theorem names_told (compiles : schema.compile publisherPrefix = .ok compiled)
    : (∀ settings history result,
        Course (run compiled settings) history result
        → ∀ exchange ∈ history, ∀ name ∈ exchange.question.names,
            IsLogicalName name ∨ schema.Overrides exchange.question name)
      ∧ ((∀ settings history result,
            Course (run compiled settings) history result
            → ∀ exchange ∈ history, ∀ name ∈ exchange.question.names, IsLogicalName name)
          ↔ ∀ table ∈ schema.tables, ∀ name,
              table.primaryNameColumn = some name → IsLogicalName name) := by
  refine ⟨fun _ _ _ => names_of_course_run compiles, ?_, ?_⟩
  · intro wellFormed table declared name override
    obtain ⟨history, result, course, exchange, exchanged, told, _⟩ :=
      exists_course_of_override compiles {} declared override
    exact wellFormed {} history result course exchange exchanged name told
  · intro checked settings history result course exchange exchanged name told
    rcases names_of_course_run compiles course exchange exchanged name told with named | overridden
    · exact named
    · generalize exchange.question = query at overridden
      cases overridden with
      | intro declared _ override => exact checked _ declared _ override

-----------------------------------------------------------------------------------------
-- A guild
-----------------------------------------------------------------------------------------

/-- A guild has members, with a primary name that has a blank and is not a column.
-/
def guild : Schema where
  tables := [
    {
      logicalName := "member"
      displayName := "Member"
      pluralName := "Members"
      primaryNameColumn := some "full name"
    }
  ]

/-- What the guild is compiled to.
-/
def guildCompiled : CompiledSchema where
  entities := [
    ⟨"member", "Member", "Members", "Member table", "members", ⟨.override, "full name"⟩, []⟩
  ]
  relationships := []
  plan := { steps := [⟨"member", 0, []⟩], deferred := [] }

/-- The guild compiles.
-/
theorem guild_compiles : guild.compile "x" = .ok guildCompiled := by
  refine Schema.compile_eq_ok_iff.mpr ⟨rfl, rfl, rfl, ?_⟩
  change Dependencies.plan ⟨["member"], []⟩ = .ok guildCompiled.plan
  cbv

/-- A primary name with a blank is no logical name.
-/
theorem not_isLogicalName_full_name : ¬ IsLogicalName "full name" := by
  rw [← isLogicalName_iff]
  decide

/-- The guild is compiled, and the run on an empty store tells it a name with a blank.
-/
theorem guild_told_malformed
    : guild.compile "x" = .ok guildCompiled
      ∧ ∃ exchange
          ∈ (run guildCompiled {}).transcript Store.Memory.respond (previewStore {}),
          ∃ name ∈ exchange.question.names, ¬ IsLogicalName name := by
  have told
      : (((run guildCompiled {}).transcript Store.Memory.respond (previewStore {})).any
          fun exchange => exchange.question.names.contains "full name") = true := by
    decide
  obtain ⟨exchange, exchanged, named⟩ := List.any_eq_true.mp told
  exact ⟨guild_compiles, exchange, exchanged, "full name", List.contains_iff_mem.mp named,
    not_isLogicalName_full_name⟩

/-- Not all names that runs tell a store for the guild are well formed.
-/
theorem names_told_guild
    : guild.compile "x" = .ok guildCompiled
      ∧ ¬ ∀ settings history result,
          Course (run guildCompiled settings) history result
          → ∀ exchange ∈ history, ∀ name ∈ exchange.question.names, IsLogicalName name := by
  refine ⟨guild_compiles, fun wellFormed => ?_⟩
  have checked := (names_told guild_compiles).2.mp wellFormed
  exact not_isLogicalName_full_name (checked _ List.mem_cons_self "full name" rfl)

end Provision

end Tablewright
