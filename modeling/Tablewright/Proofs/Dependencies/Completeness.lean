import Tablewright.Proofs.Dependencies.Tiers

/-! Plans lose and duplicate nothing: every table has its step, and every relationship from a known
table is listed once, either among those that are put off or in the step of its table.
-/

namespace Tablewright.Dependencies

variable (dependencies : Dependencies)

/-- A plan that loses and duplicates nothing. Its steps are those of the tables. The relationships
on cycles are put off, and every step lists the other relationships from its table, all in the order
in which they are declared. Relationships from unknown tables are listed nowhere, and all others
once. Since names may repeat, lists are compared rather than names.
-/
structure Complete (plan : Plan) : Prop where
  tables : (plan.steps.map (·.table)).Perm dependencies.tables
  deferred
    : plan.deferred
      = (dependencies.relationships.filter fun relationship =>
          dependencies.OnCycle relationship).map (·.name)
  placed
    : ∀ step ∈ plan.steps,
        step.relationships
        = (dependencies.relationships.filter fun relationship =>
            relationship.referencingTable = step.table
            ∧ ¬ dependencies.OnCycle relationship).map (·.name)
  entries
    : (plan.deferred ++ plan.steps.flatMap (·.relationships)).Perm
        ((dependencies.relationships.filter fun relationship =>
          relationship.referencingTable ∈ dependencies.tables).map (·.name))

/-- The elements that have one of some distinct keys are those of each of the keys.
Witness: induction on the keys; those of the first key and those of the others make up all of them.
-/
theorem flatMap_filter_perm {α β : Type} [DecidableEq β] (key : α → β) (list : List α)
    {keys : List β} (distinct : keys.Nodup)
    : (keys.flatMap fun wanted => list.filter fun element => key element = wanted).Perm
        (list.filter fun element => key element ∈ keys) := by
  induction keys with
  | nil => simp
  | cons wanted rest ih =>
      obtain ⟨absent, others⟩ := List.nodup_cons.mp distinct
      have parts := List.filter_append_perm (fun element => decide (key element = wanted))
        (list.filter fun element => key element ∈ wanted :: rest)
      rw [List.filter_filter, List.filter_filter] at parts
      rw [List.flatMap_cons]
      refine .trans (.append (.of_eq ?_) ((ih others).trans (.of_eq ?_))) parts
      · refine List.filter_congr fun element _ => ?_
        by_cases same : key element = wanted <;> simp [same]
      · refine List.filter_congr fun element _ => ?_
        by_cases same : key element = wanted <;> simp [same, absent]

/-- Whether a relationship counts as cyclic is whether it lies on a cycle.
-/
theorem isCyclic_eq_decide (relationship : Relationship)
    : dependencies.isCyclic relationship = decide (dependencies.OnCycle relationship) := by
  rw [Bool.eq_iff_iff, isCyclic_iff, decide_eq_true_iff]

/-- The relationships that are put off are those on cycles, in their order.
-/
theorem deferred_eq
    : dependencies.deferred
      = (dependencies.relationships.filter fun relationship =>
          dependencies.OnCycle relationship).map (·.name) :=
  congrArg _ (List.filter_congr fun relationship _ => dependencies.isCyclic_eq_decide relationship)

/-- The own relationships of a table are those from it that lie on no cycle, in their order.
-/
theorem ownRelationships_eq (table : String)
    : dependencies.ownRelationships table
      = (dependencies.relationships.filter fun relationship =>
          relationship.referencingTable = table
          ∧ ¬ dependencies.OnCycle relationship).map (·.name) := by
  rw [ownRelationships]
  refine congrArg _ (List.filter_congr fun relationship _ => ?_)
  rw [isCyclic_eq_decide, Bool.decide_and, decide_not, Bool.beq_eq_decide_eq]

/-- What is put off and the own relationships of all distinct tables are the relationships from
these tables.
Witness: those on no cycle are dealt out by table, and a relationship on a cycle is from a known
table as well.
-/
theorem deferred_append_own_perm (distinct : dependencies.tables.Nodup)
    : (dependencies.deferred
          ++ dependencies.tables.flatMap dependencies.ownRelationships).Perm
        ((dependencies.relationships.filter fun relationship =>
          relationship.referencingTable ∈ dependencies.tables).map (·.name)) := by
  have dealt := flatMap_filter_perm (·.referencingTable)
    (dependencies.relationships.filter fun relationship => ¬ dependencies.OnCycle relationship)
    distinct
  have parts := List.filter_append_perm
    (fun relationship => decide (dependencies.OnCycle relationship))
    (dependencies.relationships.filter fun relationship =>
      relationship.referencingTable ∈ dependencies.tables)
  simp only [List.filter_filter, ← Bool.decide_and] at dealt parts
  rw [deferred_eq, funext dependencies.ownRelationships_eq, ← List.map_flatMap,
    ← List.map_append]
  refine List.Perm.map _ (.trans (.append (.of_eq ?_) (dealt.trans (.of_eq ?_))) parts)
  · refine List.filter_congr fun relationship _ => ?_
    rw [decide_eq_decide, iff_self_and]
    exact And.left
  · refine List.filter_congr fun relationship _ => ?_
    rw [Bool.decide_and, decide_not, Bool.and_comm]

/-- Distinct tables have a plan that loses and duplicates nothing, whatever relationships there are.
-/
theorem plan_complete (distinct : dependencies.tables.Nodup)
    : ∃ plan, dependencies.plan = .ok plan ∧ dependencies.Complete plan := by
  obtain ⟨plan, tier, planned, follows⟩ := dependencies.exists_plan
  refine ⟨plan, planned, follows.tables_perm, ?_, ?_, ?_⟩
  · rw [follows.deferred, deferred_eq]
  · intro step member
    have turn := (follows.mem_steps_iff.mp member).1
    rw [dependencies.turns_of_nodup distinct] at turn
    obtain ⟨table, _, same⟩ := List.mem_map.mp turn
    obtain ⟨rfl, placed⟩ := Prod.mk.inj same
    rw [← placed, ownRelationships_eq]
  · rw [follows.deferred]
    exact .trans (.append_left _ (follows.placed_perm distinct))
      (dependencies.deferred_append_own_perm distinct)

/-- Invoices refer to customers twice by one name, customers to themselves, to their region and to
an agency that is not there, regions back to customers, and a memo that is not there to an invoice.
-/
def billing : Dependencies where
  tables := ["invoice", "customer", "region"]
  relationships := [
    ⟨"payer", "invoice", "customer", "payerid", "Payer", true⟩,
    ⟨"parent", "customer", "customer", "parentid", "Parent", false⟩,
    ⟨"payer", "invoice", "customer", "payerid", "Payer", true⟩,
    ⟨"home", "customer", "region", "regionid", "Home", false⟩,
    ⟨"payer", "customer", "agency", "agencyid", "Agency", false⟩,
    ⟨"about", "memo", "invoice", "invoiceid", "About", false⟩,
    ⟨"head", "region", "customer", "headid", "Head", false⟩
  ]

/-- The tables of billing are distinct, and so their plan is complete.
-/
theorem plan_complete_billing
    : billing.tables.Nodup
      ∧ billing.plan
        = .ok ⟨
            [⟨"customer", 0, ["payer"]⟩, ⟨"region", 0, []⟩,
              ⟨"invoice", 1, ["payer", "payer"]⟩],
            ["parent", "home", "head"]⟩
      ∧ ∃ plan, billing.plan = .ok plan ∧ billing.Complete plan :=
  ⟨by decide, by cbv, plan_complete billing (by decide)⟩

end Tablewright.Dependencies
