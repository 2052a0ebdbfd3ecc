import Tablewright.Proofs.Provision.Attempts
import Tablewright.Proofs.Schema.Compiled

/-! The agenda of a run: everything that a run may try to create, in order. For a compiled schema
nothing stands on it twice, and no table stands behind a relationship that was put off.
-/

namespace Tablewright.Provision

/-- The columns of an entity as attempts.
-/
def columnAgenda (entity : Entity) : List Attempt :=
  (entity.plainAttributes.map (·.logicalName)).map (.column entity.logicalName)

/-- The relationships of some names as attempts.
-/
def relationshipAgenda (compiled : CompiledSchema) (names : List String) : List Attempt :=
  ((names.filterMap compiled.relationship?).map (·.name)).map .relationship

/-- What a step may create: its table, then the table's columns, then the relationships of the step.
-/
def stepAgenda (compiled : CompiledSchema) (step : Step) : List Attempt :=
  match compiled.entity? step.table with
  | none => []
  | some entity =>
    .table entity.logicalName
      :: (columnAgenda entity ++ relationshipAgenda compiled step.relationships)

/-- The components of a solution as attempts.
-/
def componentAgenda (compiled : CompiledSchema) (solution : String) : List Attempt :=
  (compiled.plan.steps.map (·.table)).map fun table => .component solution (some table)

/-- What a run may create: the solution, then the steps, then the relationships that were put off,
and last the components.
-/
def agenda (compiled : CompiledSchema) (settings : Settings) : List Attempt :=
  .solution settings.solution.uniqueName
    :: (compiled.plan.steps.flatMap (stepAgenda compiled)
      ++ relationshipAgenda compiled compiled.plan.deferred
      ++ componentAgenda compiled settings.solution.uniqueName)

variable {compiled : CompiledSchema}

-----------------------------------------------------------------------------------------
-- What stands on the agenda
-----------------------------------------------------------------------------------------

/-- The relationships that are found under names have these names.
-/
theorem map_name_filterMap_relationship? (names : List String)
    : (names.filterMap compiled.relationship?).map (·.name)
      = names.filter fun name => (compiled.relationship? name).isSome := by
  induction names with
  | nil => rfl
  | cons name rest ih =>
      cases found : compiled.relationship? name with
      | none => simp [found, ih]
      | some relationship =>
          have same : relationship.name = name := by
            simpa using List.find?_some found
          simp [found, ih, same]

/-- Relationships of distinct names stand on an agenda once.
-/
theorem relationshipAgenda_nodup {names : List String} (distinct : names.Nodup)
    : (relationshipAgenda compiled names).Nodup := by
  rw [relationshipAgenda, map_name_filterMap_relationship?]
  exact (distinct.filter _).map fun _ _ => Attempt.relationship.inj

/-- Only relationships stand among relationships, and only those of the given names.
-/
theorem exists_of_mem_relationshipAgenda {names : List String} {attempt : Attempt}
    (member : attempt ∈ relationshipAgenda compiled names)
    : ∃ name ∈ names, attempt = .relationship name := by
  rw [relationshipAgenda, map_name_filterMap_relationship?] at member
  obtain ⟨name, kept, rfl⟩ := List.mem_map.mp member
  exact ⟨name, List.mem_of_mem_filter kept, rfl⟩

/-- A step creates its table, columns of that table and relationships of the step.
-/
theorem mem_stepAgenda_cases {step : Step} {attempt : Attempt}
    (member : attempt ∈ stepAgenda compiled step)
    : attempt = .table step.table
      ∨ (∃ name, attempt = .column step.table name)
      ∨ ∃ name ∈ step.relationships, attempt = .relationship name := by
  rw [stepAgenda] at member
  cases found : compiled.entity? step.table with
  | none => simp [found] at member
  | some entity =>
      have same : entity.logicalName = step.table := by simpa using List.find?_some found
      simp only [found, List.mem_cons, List.mem_append] at member
      rcases member with table | column | relationship
      · exact .inl (same ▸ table)
      · obtain ⟨name, _, rfl⟩ := List.mem_map.mp column
        exact .inr (.inl ⟨name, by rw [same]⟩)
      · exact .inr (.inr (exists_of_mem_relationshipAgenda relationship))

/-- Steps of different tables without a relationship in common create nothing in common.
-/
theorem stepAgenda_disjoint {step other : Step} (different : step.table ≠ other.table)
    (apart : step.relationships.Disjoint other.relationships)
    : (stepAgenda compiled step).Disjoint (stepAgenda compiled other) := by
  intro attempt mine yours
  rcases mem_stepAgenda_cases mine with rfl | ⟨name, rfl⟩ | ⟨name, planned, rfl⟩
  · rcases mem_stepAgenda_cases yours with same | ⟨_, same⟩ | ⟨_, _, same⟩
    · exact different (Attempt.table.inj same)
    · cases same
    · cases same
  · rcases mem_stepAgenda_cases yours with same | ⟨_, same⟩ | ⟨_, _, same⟩
    · cases same
    · exact different (Attempt.column.inj same).1
    · cases same
  · rcases mem_stepAgenda_cases yours with same | ⟨_, same⟩ | ⟨_, there, same⟩
    · cases same
    · cases same
    · cases same
      exact apart planned there

/-- The steps create tables, columns and relationships of the steps.
-/
theorem mem_steps_cases {attempt : Attempt}
    (member : attempt ∈ compiled.plan.steps.flatMap (stepAgenda compiled))
    : (∃ table, attempt = .table table)
      ∨ (∃ table name, attempt = .column table name)
      ∨ ∃ name ∈ compiled.plan.steps.flatMap (·.relationships),
          attempt = .relationship name := by
  obtain ⟨step, taken, own⟩ := List.mem_flatMap.mp member
  rcases mem_stepAgenda_cases own with table | ⟨name, column⟩ | ⟨name, planned, relationship⟩
  · exact .inl ⟨_, table⟩
  · exact .inr (.inl ⟨_, name, column⟩)
  · exact .inr (.inr ⟨name, List.mem_flatMap.mpr ⟨step, taken, planned⟩, relationship⟩)

/-- Between the solution and the components there are tables, columns and relationships.
-/
theorem mem_planned_cases {attempt : Attempt}
    (member : attempt ∈ compiled.plan.steps.flatMap (stepAgenda compiled)
      ++ relationshipAgenda compiled compiled.plan.deferred)
    : (∃ table, attempt = .table table)
      ∨ (∃ table name, attempt = .column table name)
      ∨ ∃ name, attempt = .relationship name := by
  rcases List.mem_append.mp member with step | late
  · rcases mem_steps_cases step with table | column | ⟨name, _, relationship⟩
    · exact .inl table
    · exact .inr (.inl column)
    · exact .inr (.inr ⟨name, relationship⟩)
  · obtain ⟨name, _, relationship⟩ := exists_of_mem_relationshipAgenda late
    exact .inr (.inr ⟨name, relationship⟩)

-----------------------------------------------------------------------------------------
-- Nothing stands on the agenda twice
-----------------------------------------------------------------------------------------

section WellFormed

variable (wellFormed : compiled.WellFormed)
include wellFormed

/-- A step creates nothing twice.
-/
theorem stepAgenda_nodup {step : Step} (taken : step ∈ compiled.plan.steps)
    : (stepAgenda compiled step).Nodup := by
  rw [stepAgenda]
  cases found : compiled.entity? step.table with
  | none => exact List.nodup_nil
  | some entity =>
      obtain ⟨member, _⟩ := wellFormed.entity?_eq_some_iff.mp found
      have names : (entity.plainAttributes.map (·.logicalName)).Nodup :=
        (wellFormed.attributes entity member).sublist (List.filter_sublist.map _)
      have columns : (columnAgenda entity).Nodup :=
        names.map fun _ _ same => (Attempt.column.inj same).2
      have relationships : step.relationships.Nodup :=
        (List.nodup_flatMap.mp (List.nodup_append.mp wellFormed.planned_nodup).1).1 step taken
      apply List.nodup_cons.mpr
      constructor
      · simp [columnAgenda, relationshipAgenda]
      · apply List.nodup_append.mpr
        refine ⟨columns, relationshipAgenda_nodup relationships, ?_⟩
        intro column among relationship after same
        obtain ⟨_, _, rfl⟩ := List.mem_map.mp among
        obtain ⟨name, _, rfl⟩ := exists_of_mem_relationshipAgenda after
        cases same

/-- The steps create nothing twice, since no two of them have one table or one relationship.
-/
theorem steps_agenda_nodup
    : (compiled.plan.steps.flatMap (stepAgenda compiled)).Nodup := by
  have tables := List.pairwise_map.mp wellFormed.steps_nodup
  have relationships :=
    (List.nodup_flatMap.mp (List.nodup_append.mp wellFormed.planned_nodup).1).2
  apply List.nodup_flatMap.mpr
  constructor
  · exact fun step => stepAgenda_nodup wellFormed
  · exact (tables.and relationships).imp fun apart => stepAgenda_disjoint apart.1 apart.2

/-- No step creates a relationship that was put off.
-/
theorem ne_deferred_of_mem_steps {attempt : Attempt}
    (step : attempt ∈ compiled.plan.steps.flatMap (stepAgenda compiled)) {name : String}
    (put : name ∈ compiled.plan.deferred)
    : attempt ≠ .relationship name := by
  obtain ⟨_, _, apart⟩ := List.nodup_append.mp wellFormed.planned_nodup
  rcases mem_steps_cases step with ⟨_, rfl⟩ | ⟨_, _, rfl⟩ | ⟨other, planned, rfl⟩
  · exact Attempt.noConfusion
  · exact Attempt.noConfusion
  · exact fun same => apart other planned name put (Attempt.relationship.inj same)

/-- Nothing stands on the agenda of a run twice.
-/
theorem agenda_nodup (settings : Settings) : (agenda compiled settings).Nodup := by
  have deferred := (List.nodup_append.mp wellFormed.planned_nodup).2.1
  have components : (componentAgenda compiled settings.solution.uniqueName).Nodup :=
    wellFormed.steps_nodup.map fun _ _ same => Option.some.inj (Attempt.component.inj same).2
  have planned : (compiled.plan.steps.flatMap (stepAgenda compiled)
      ++ relationshipAgenda compiled compiled.plan.deferred).Nodup := by
    apply List.nodup_append.mpr
    refine ⟨steps_agenda_nodup wellFormed, relationshipAgenda_nodup deferred, ?_⟩
    intro earlier step later late same
    subst same
    obtain ⟨name, put, rfl⟩ := exists_of_mem_relationshipAgenda late
    exact ne_deferred_of_mem_steps wellFormed step put rfl
  apply List.nodup_cons.mpr
  constructor
  · intro member
    rcases List.mem_append.mp member with early | component
    · rcases mem_planned_cases early with ⟨_, same⟩ | ⟨_, _, same⟩ | ⟨_, same⟩
      all_goals cases same
    · obtain ⟨_, _, same⟩ := List.mem_map.mp component
      cases same
  · apply List.nodup_append.mpr
    refine ⟨planned, components, ?_⟩
    intro earlier early later component same
    subst same
    obtain ⟨_, _, rfl⟩ := List.mem_map.mp component
    rcases mem_planned_cases early with ⟨_, same⟩ | ⟨_, _, same⟩ | ⟨_, same⟩
    all_goals cases same

/-- On the agenda of a run no table stands behind a relationship that was put off.
Witness: such a relationship stands behind all steps, and behind these there are no tables.
-/
theorem agenda_deferred_last (settings : Settings)
    : (agenda compiled settings).Pairwise fun earlier later =>
        ∀ name ∈ compiled.plan.deferred,
          earlier = .relationship name → ∀ table, later ≠ .table table := by
  have late {attempt : Attempt}
      (member : attempt ∈ relationshipAgenda compiled compiled.plan.deferred
        ++ componentAgenda compiled settings.solution.uniqueName) (table : String)
      : attempt ≠ .table table := by
    intro same
    subst same
    rcases List.mem_append.mp member with relationship | component
    · obtain ⟨_, _, same⟩ := exists_of_mem_relationshipAgenda relationship
      cases same
    · obtain ⟨_, _, same⟩ := List.mem_map.mp component
      cases same
  rw [agenda, List.append_assoc, List.pairwise_cons, List.pairwise_append]
  refine ⟨?_, ?_, ?_, ?_⟩
  · intro later _ name _ impossible
    cases impossible
  · exact List.pairwise_of_forall_mem_list fun earlier step _ _ name put same =>
      absurd same (ne_deferred_of_mem_steps wellFormed step put)
  · exact List.pairwise_of_forall_mem_list fun _ _ later member _ _ _ => late member
  · exact fun _ _ later member _ _ _ => late member

end WellFormed

end Tablewright.Provision
