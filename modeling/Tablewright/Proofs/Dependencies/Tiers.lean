import Mathlib.Data.List.Permutation
import Tablewright.Proofs.Dependencies.Layers
import Tablewright.Proofs.Dependencies.Reachability

/-! Plans of tables. Once the relationships on cycles are put off, no waiting goes round: all tables
have a plan, whose tiers are the lengths of the longest chains of relationships.
-/

namespace Tablewright.Dependencies

open Relation (ReflTransGen)

variable (dependencies : Dependencies)

-----------------------------------------------------------------------------------------
-- Waiting goes down in reach
-----------------------------------------------------------------------------------------

/-- The tables that a table has to wait for: those that it refers to by relationships that lie on no
cycle.
-/
def prerequisites (table : String) : List String :=
  (dependencies.relationships.filter fun relationship =>
    relationship.referencingTable = table
    ∧ relationship.referencedTable ∈ dependencies.tables
    ∧ ¬ dependencies.OnCycle relationship).map (·.referencedTable)

/-- The relationship that makes a table a prerequisite of another.
-/
theorem mem_prerequisites_iff {table other : String}
    : other ∈ dependencies.prerequisites table
      ↔ ∃ relationship ∈ dependencies.relationships,
          relationship.referencingTable = table
          ∧ relationship.referencedTable = other
          ∧ other ∈ dependencies.tables
          ∧ ¬ dependencies.OnCycle relationship := by
  simp only [prerequisites, List.mem_map, List.mem_filter, decide_eq_true_iff]
  constructor
  · intro listed
    obtain ⟨relationship, ⟨member, rfl, there, acyclic⟩, rfl⟩ := listed
    exact ⟨relationship, member, rfl, rfl, there, acyclic⟩
  · intro refers
    obtain ⟨relationship, member, rfl, rfl, there, acyclic⟩ := refers
    exact ⟨relationship, ⟨member, rfl, there, acyclic⟩, rfl⟩

/-- A known table waits for its prerequisites.
-/
theorem mem_waits_iff {table other : String}
    : (table, other) ∈ dependencies.waits
      ↔ table ∈ dependencies.tables ∧ other ∈ dependencies.prerequisites table := by
  simp only [waits, mem_prerequisites_iff, List.mem_map, List.mem_filter, Bool.and_eq_true,
    Bool.not_eq_true', knows_iff, ← Bool.not_eq_true, isCyclic_iff, Prod.mk.injEq]
  constructor
  · intro waiting
    obtain ⟨relationship, ⟨member, ⟨known, there⟩, acyclic⟩, rfl, rfl⟩ := waiting
    exact ⟨known, relationship, member, rfl, rfl, there, acyclic⟩
  · intro needed
    obtain ⟨known, relationship, member, rfl, rfl, there, acyclic⟩ := needed
    exact ⟨relationship, ⟨member, ⟨known, there⟩, acyclic⟩, rfl, rfl⟩

/-- The number of tables that a table leads to.
-/
def reach (table : String) : Nat :=
  (dependencies.tables.filter fun other =>
    (dependencies.reachable table).contains other).length

/-- Every table reaches more tables than one that it waits for: all that the other one reaches, and
itself, since no relationship outside a cycle is led back from.
-/
theorem waits_ranked : Ranked dependencies.waits dependencies.reach := by
  intro wait waiting
  obtain ⟨table, other⟩ := wait
  obtain ⟨known, awaited⟩ := dependencies.mem_waits_iff.mp waiting
  obtain ⟨relationship, member, rfl, rfl, there, acyclic⟩ :=
    dependencies.mem_prerequisites_iff.mp awaited
  have refers : dependencies.Refers relationship.referencingTable
      relationship.referencedTable :=
    ⟨relationship, member, rfl, rfl, known, there⟩
  have fewer : (dependencies.tables.filter fun other =>
      (dependencies.reachable relationship.referencedTable).contains other)
        = (dependencies.tables.filter fun other =>
          (dependencies.reachable relationship.referencingTable).contains other).filter
            fun other =>
              (dependencies.reachable relationship.referencedTable).contains other := by
    rw [List.filter_filter]
    refine List.filter_congr fun other _ => ?_
    rw [Bool.eq_iff_iff, Bool.and_eq_true]
    simp only [List.contains_iff_mem, mem_reachable_iff]
    constructor
    · intro reached
      obtain ⟨_, path⟩ := reached
      exact ⟨⟨there, path⟩, known, .head refers path⟩
    · exact And.left
  simp only [reach]
  rw [fewer]
  refine List.length_filter_lt_length_iff_exists.mpr
    ⟨relationship.referencingTable, List.mem_filter.mpr ⟨known, ?_⟩, ?_⟩
  · exact List.contains_iff_mem.mpr (dependencies.mem_reachable_iff.mpr ⟨known, .refl⟩)
  · rw [List.contains_iff_mem, mem_reachable_iff]
    exact fun ⟨_, back⟩ => acyclic ⟨known, there, back⟩

-----------------------------------------------------------------------------------------
-- Plans
-----------------------------------------------------------------------------------------

/-- A plan that follows some tiers: its steps are the turns of all tables, sorted by tier without
changing the order inside a tier, and the relationships on cycles are put off.
-/
structure Follows (plan : Plan) (tier : String → Nat) : Prop where
  tiering : Tiering dependencies.waits dependencies.tables tier
  ascending : plan.steps.Pairwise fun step later => step.tier ≤ later.tier
  sorted
    : ∀ n,
        plan.steps.filter (fun step => step.tier == n)
        = ((dependencies.turns dependencies.tables).filter fun turn => tier turn.1 == n).map
            fun turn => ⟨turn.1, n, turn.2⟩
  deferred : plan.deferred = dependencies.deferred

/-- The turns are those of the tables, in their order.
-/
theorem turns_map_fst (tables : List String)
    : (dependencies.turns tables).map (·.1) = tables := by
  induction tables with
  | nil => rfl
  | cons table rest ih => simp [turns, ih]

/-- Every one of distinct tables takes its own relationships.
-/
theorem turns_of_nodup {tables : List String} (distinct : tables.Nodup)
    : dependencies.turns tables
      = tables.map fun table => (table, dependencies.ownRelationships table) := by
  induction tables with
  | nil => rfl
  | cons table rest ih =>
      obtain ⟨fresh, others⟩ := List.nodup_cons.mp distinct
      simp [turns, fresh, ih others]

/-- A table's turn has the relationships of the table that lie on no cycle.
-/
theorem mem_ownRelationships_iff {table name : String}
    : name ∈ dependencies.ownRelationships table
      ↔ ∃ relationship ∈ dependencies.relationships,
          relationship.referencingTable = table
          ∧ ¬ dependencies.OnCycle relationship
          ∧ relationship.name = name := by
  simp [ownRelationships, ← isCyclic_iff, and_assoc]

/-- The relationships on cycles are put off.
-/
theorem mem_deferred_iff {name : String}
    : name ∈ dependencies.deferred
      ↔ ∃ relationship ∈ dependencies.relationships,
          dependencies.OnCycle relationship ∧ relationship.name = name := by
  simp [deferred, ← isCyclic_iff, and_assoc]

/-- Any tables and relationships have a plan that follows a tiering.
Witness: what waits is ranked by reach, so that the layers exist.
-/
theorem exists_plan
    : ∃ plan tier, dependencies.plan = .ok plan ∧ dependencies.Follows plan tier := by
  obtain ⟨found, tier, layered, tiering, sorted⟩ :=
    layers_tiered dependencies.waits_ranked (dependencies.turns dependencies.tables)
  rw [turns_map_fst] at tiering
  refine ⟨⟨stepsFrom 0 found, dependencies.deferred⟩, tier, ?_, tiering,
    stepsFrom_pairwise 0 found, ?_, rfl⟩
  · rw [plan, layered]
    rfl
  · intro n
    have steps := stepsFrom_filter 0 n found
    rwa [Nat.zero_add, sorted n] at steps

section Follows

variable {dependencies} {plan : Plan} {tier : String → Nat}

/-- A tiering gives every table exactly one more than the largest tier among its prerequisites, and
zero without any.
-/
theorem Tiering.exact (tiering : Tiering dependencies.waits dependencies.tables tier)
    {table : String} (known : table ∈ dependencies.tables)
    : tier table
      = ((dependencies.prerequisites table).map fun other => tier other + 1).max?.getD 0 := by
  have above {other : String} (awaited : other ∈ dependencies.prerequisites table)
      : tier other < tier table := by
    obtain ⟨_, _, _, _, there, _⟩ := dependencies.mem_prerequisites_iff.mp awaited
    exact tiering.above (dependencies.mem_waits_iff.mpr ⟨known, awaited⟩) known there
  rcases tiering.tight known with lowest | ⟨other, _, waiting, next⟩
  · have none : dependencies.prerequisites table = [] := by
      refine List.eq_nil_iff_forall_not_mem.mpr fun other awaited => ?_
      have := above awaited
      omega
    simp [none, lowest]
  · have greatest : ((dependencies.prerequisites table).map fun other => tier other + 1).max?
        = some (tier table) := by
      refine List.max?_eq_some_iff.mpr ⟨?_, ?_⟩
      · exact List.mem_map.mpr
          ⟨other, (dependencies.mem_waits_iff.mp waiting).2, next.symm⟩
      · intro bound member
        obtain ⟨other, awaited, rfl⟩ := List.mem_map.mp member
        exact above awaited
    rw [greatest, Option.getD_some]

/-- The steps of a plan are the turns of all tables, in some order.
Witness: the steps of each tier are those turns that have it.
-/
theorem Follows.steps_perm (follows : dependencies.Follows plan tier)
    : plan.steps.Perm
        ((dependencies.turns dependencies.tables).map fun turn =>
          ⟨turn.1, tier turn.1, turn.2⟩) := by
  have layer (n : Nat)
      : plan.steps.filter (fun step => step.tier == n)
        = ((dependencies.turns dependencies.tables).map fun turn =>
            (⟨turn.1, tier turn.1, turn.2⟩ : Step)).filter fun step => step.tier == n := by
    rw [follows.sorted, List.filter_map]
    refine List.map_congr_left fun turn member => ?_
    rw [eq_of_beq (List.mem_filter.mp member).2]
  refine List.perm_iff_count.mpr fun step => ?_
  have counted (steps : List Step)
      : (steps.filter fun other => other.tier == step.tier).count step = steps.count step :=
    List.count_filter (beq_self_eq_true step.tier)
  rw [← counted, layer, counted]

/-- The steps of a plan are the turns with the tiers of their tables.
-/
theorem Follows.mem_steps_iff (follows : dependencies.Follows plan tier) {step : Step}
    : step ∈ plan.steps
      ↔ (step.table, step.relationships) ∈ dependencies.turns dependencies.tables
        ∧ step.tier = tier step.table := by
  rw [follows.steps_perm.mem_iff, List.mem_map]
  constructor
  · intro made
    obtain ⟨turn, member, rfl⟩ := made
    exact ⟨member, rfl⟩
  · intro taken
    obtain ⟨member, same⟩ := taken
    exact ⟨_, member, by rw [← same]⟩

/-- The steps of a plan are those of the tables, in some order.
-/
theorem Follows.tables_perm (follows : dependencies.Follows plan tier)
    : (plan.steps.map (·.table)).Perm dependencies.tables := by
  have steps := follows.steps_perm.map (·.table)
  rwa [List.map_map, Function.comp_def, turns_map_fst] at steps

/-- The steps of a plan are those of known tables, and every known table has one.
-/
theorem Follows.mem_tables_iff (follows : dependencies.Follows plan tier) {table : String}
    : table ∈ dependencies.tables ↔ ∃ step ∈ plan.steps, step.table = table := by
  rw [← follows.tables_perm.mem_iff, List.mem_map]

/-- Of the steps of a plan, one of a lower tier stands earlier.
-/
theorem Follows.lt_of_tier_lt (follows : dependencies.Follows plan tier)
    {earlier later : Nat} {step other : Step} (here : plan.steps[earlier]? = some step)
    (there : plan.steps[later]? = some other) (lower : step.tier < other.tier)
    : earlier < later := by
  by_contra late
  obtain ⟨within, rfl⟩ := List.getElem?_eq_some_iff.mp here
  obtain ⟨inside, rfl⟩ := List.getElem?_eq_some_iff.mp there
  rcases Nat.lt_or_eq_of_le (Nat.le_of_not_lt late) with before | same
  · have := List.pairwise_iff_getElem.mp follows.ascending later earlier inside within before
    omega
  · subst same
    exact Nat.lt_irrefl _ lower

/-- The step of a table that another one waits for stands before the step of that one.
-/
theorem Follows.prerequisite_first (follows : dependencies.Follows plan tier)
    {position : Nat} {step : Step} (here : plan.steps[position]? = some step) {table : String}
    (awaited : table ∈ dependencies.prerequisites step.table)
    : ∃ earlier < position, ∃ other, plan.steps[earlier]? = some other ∧ other.table = table := by
  have member := List.mem_of_getElem? here
  have known := follows.mem_tables_iff.mpr ⟨step, member, rfl⟩
  obtain ⟨_, _, _, _, there, _⟩ := dependencies.mem_prerequisites_iff.mp awaited
  obtain ⟨other, placed, rfl⟩ := follows.mem_tables_iff.mp there
  obtain ⟨earlier, found⟩ := List.mem_iff_getElem?.mp placed
  have lower : other.tier < step.tier := by
    rw [(follows.mem_steps_iff.mp placed).2, (follows.mem_steps_iff.mp member).2]
    exact follows.tiering.above (dependencies.mem_waits_iff.mpr ⟨known, awaited⟩) known there
  exact ⟨earlier, follows.lt_of_tier_lt found here lower, other, found, rfl⟩

/-- The steps of distinct tables list the own relationships of all tables, in some order.
-/
theorem Follows.placed_perm (follows : dependencies.Follows plan tier)
    (distinct : dependencies.tables.Nodup)
    : (plan.steps.flatMap (·.relationships)).Perm
        (dependencies.tables.flatMap dependencies.ownRelationships) := by
  have turns := follows.steps_perm.flatMap_right (·.relationships)
  rwa [turns_of_nodup _ distinct, List.flatMap_map, List.flatMap_map] at turns

/-- Relationships of distinct names between distinct tables are planned at most once: in one step or
among those that are put off.
-/
theorem Follows.relationships_nodup (follows : dependencies.Follows plan tier)
    (tables : dependencies.tables.Nodup)
    (names : (dependencies.relationships.map (·.name)).Nodup)
    : (plan.steps.flatMap (·.relationships) ++ plan.deferred).Nodup := by
  have unique {first second : Relationship} (one : first ∈ dependencies.relationships)
      (two : second ∈ dependencies.relationships) (same : first.name = second.name)
      : first = second :=
    List.inj_on_of_nodup_map names one two same
  rw [follows.deferred, ((follows.placed_perm tables).append_right _).nodup_iff, List.nodup_append,
    List.nodup_flatMap]
  refine ⟨⟨?_, ?_⟩, ?_, ?_⟩
  · intro table _
    exact names.sublist (List.filter_sublist.map _)
  · refine tables.imp fun {table other} different => ?_
    intro name mine yours
    obtain ⟨first, here, own, _, rfl⟩ := dependencies.mem_ownRelationships_iff.mp mine
    obtain ⟨second, there, others, _, same⟩ := dependencies.mem_ownRelationships_iff.mp yours
    obtain rfl := unique there here same
    exact different (own.symm.trans others)
  · exact names.sublist (List.filter_sublist.map _)
  · intro name placed other put equal
    obtain ⟨table, _, own⟩ := List.mem_flatMap.mp placed
    obtain ⟨first, here, _, acyclic, rfl⟩ := dependencies.mem_ownRelationships_iff.mp own
    obtain ⟨second, there, cyclic, same⟩ := dependencies.mem_deferred_iff.mp put
    obtain rfl := unique there here (same.trans equal.symm)
    exact acyclic cyclic

end Follows

-----------------------------------------------------------------------------------------
-- Exact plans
-----------------------------------------------------------------------------------------

/-- What a plan of distinct tables is to be. A table's tier is one more than the largest tier among
its prerequisites, and zero without any. Steps stand in the order of their tiers and, inside a tier,
in the order of the tables. Each relationship on no cycle is placed in the step of its table, and
that step comes behind the step of the table that the relationship refers to.
-/
structure ExactPlan (plan : Plan) (tier : String → Nat) : Prop where
  tiers
    : ∀ table ∈ dependencies.tables,
        tier table
        = ((dependencies.prerequisites table).map fun other => tier other + 1).max?.getD 0
  ascending : plan.steps.Pairwise fun step later => step.tier ≤ later.tier
  sorted
    : ∀ n,
        plan.steps.filter (fun step => step.tier == n)
        = (dependencies.tables.filter fun table => tier table == n).map fun table =>
            ⟨table, n, dependencies.ownRelationships table⟩
  behind
    : ∀ {position : Nat} {step : Step} {relationship : Relationship},
        plan.steps[position]? = some step
        → relationship ∈ dependencies.relationships
        → relationship.referencingTable = step.table
        → ¬ dependencies.OnCycle relationship
        → relationship.name ∈ step.relationships
          ∧ (relationship.referencedTable ∈ dependencies.tables
              → ∃ earlier < position,
                  ∃ other,
                    plan.steps[earlier]? = some other
                    ∧ other.table = relationship.referencedTable)

/-- Distinct tables always have a plan, whatever relationships there are between them, and it is
exact.
-/
theorem plan_exact (distinct : dependencies.tables.Nodup)
    : ∃ plan tier, dependencies.plan = .ok plan ∧ dependencies.ExactPlan plan tier := by
  obtain ⟨plan, tier, planned, follows⟩ := dependencies.exists_plan
  refine ⟨plan, tier, planned, fun table => follows.tiering.exact, follows.ascending, ?_, ?_⟩
  · intro n
    rw [follows.sorted n, dependencies.turns_of_nodup distinct, List.filter_map, List.map_map]
    rfl
  · intro position step relationship here member own acyclic
    constructor
    · have turn := (follows.mem_steps_iff.mp (List.mem_of_getElem? here)).1
      rw [dependencies.turns_of_nodup distinct] at turn
      obtain ⟨table, _, same⟩ := List.mem_map.mp turn
      obtain ⟨rfl, placed⟩ := Prod.mk.inj same
      rw [← placed, ← own]
      exact dependencies.mem_ownRelationships_iff.mpr ⟨relationship, member, rfl, acyclic, rfl⟩
    · intro there
      exact follows.prerequisite_first here
        (dependencies.mem_prerequisites_iff.mpr ⟨relationship, member, own, rfl, there, acyclic⟩)

/-- Loans refer to persons, persons and teams to each other, persons to a site, and a site to a
table that is not there.
-/
def lending : Dependencies where
  tables := ["loan", "person", "team", "site"]
  relationships := [
    ⟨"borrower", "loan", "person", "personid", "Borrower", true⟩,
    ⟨"team", "person", "team", "teamid", "Team", false⟩,
    ⟨"lead", "team", "person", "leadid", "Lead", false⟩,
    ⟨"home", "person", "site", "siteid", "Home", false⟩,
    ⟨"region", "site", "region", "regionid", "Region", false⟩
  ]

/-- The tables of lending are distinct, and so their plan is exact.
-/
theorem plan_exact_lending
    : lending.tables.Nodup
      ∧ lending.plan
        = .ok ⟨
            [⟨"team", 0, []⟩, ⟨"site", 0, ["region"]⟩, ⟨"person", 1, ["home"]⟩,
              ⟨"loan", 2, ["borrower"]⟩],
            ["team", "lead"]⟩
      ∧ ∃ plan tier, lending.plan = .ok plan ∧ lending.ExactPlan plan tier :=
  ⟨by decide, by cbv, plan_exact lending (by decide)⟩

end Tablewright.Dependencies
