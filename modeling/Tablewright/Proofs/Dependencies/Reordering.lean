import Tablewright.Proofs.Dependencies.Tiers

/-! The order in which tables and relationships are listed is of no consequence for what depends on
what: the same relationships lie on cycles, and the same tables have the same tiers.
-/

namespace Tablewright.Dependencies

/-- The same tables and relationships, perhaps listed in another order.
-/
structure Reordered (dependencies other : Dependencies) : Prop where
  tables : dependencies.tables.Perm other.tables
  relationships : dependencies.relationships.Perm other.relationships

/-- A tiering puts no table above its tier in another tiering with at least the same tables and
waits.
Witness: induction on the tier; a table above the lowest tier is just above one that it waits for.
-/
theorem Tiering.le {waits moreWaits : List (String × String)} {tables moreTables : List String}
    {tier other : String → Nat} (tiering : Tiering waits tables tier)
    (larger : Tiering moreWaits moreTables other) (more : waits ⊆ moreWaits)
    (there : tables ⊆ moreTables) {table : String} (known : table ∈ tables)
    : tier table ≤ other table := by
  induction level : tier table using Nat.strong_induction_on generalizing table with
  | _ level ih =>
      rcases tiering.tight known with lowest | ⟨awaited, listed, waiting, next⟩
      · omega
      · have below := ih (tier awaited) (by omega) listed rfl
        have above := larger.above (more waiting) (there known) (there listed)
        omega

namespace Reordered

variable {dependencies other : Dependencies} (same : dependencies.Reordered other)
include same

/-- What is in another order is so from both sides.
-/
theorem symm : other.Reordered dependencies :=
  ⟨same.tables.symm, same.relationships.symm⟩

/-- The same tables refer to each other.
-/
theorem refers_eq : dependencies.Refers = other.Refers := by
  funext source target
  simp only [Refers, same.tables.mem_iff, same.relationships.mem_iff]

/-- The same relationships lie on cycles.
-/
theorem onCycle_iff {relationship : Relationship}
    : dependencies.OnCycle relationship ↔ other.OnCycle relationship := by
  simp only [OnCycle, same.refers_eq, same.tables.mem_iff]

/-- The same relationships count as cyclic.
-/
theorem isCyclic_eq : dependencies.isCyclic = other.isCyclic := by
  funext relationship
  rw [Bool.eq_iff_iff, isCyclic_iff, isCyclic_iff, same.onCycle_iff]

/-- The same relationships are put off.
-/
theorem deferred_perm : dependencies.deferred.Perm other.deferred := by
  rw [deferred, deferred, same.isCyclic_eq]
  exact (same.relationships.filter _).map _

/-- The same tables wait for each other.
-/
theorem waits_subset : dependencies.waits ⊆ other.waits := by
  rintro ⟨table, awaited⟩ waiting
  simp only [mem_waits_iff, mem_prerequisites_iff, same.tables.mem_iff,
    same.relationships.mem_iff, same.onCycle_iff] at waiting ⊢
  exact waiting

/-- Tables have the same tiers in plans of both.
-/
theorem tier_eq {plan otherPlan : Plan} {tier otherTier : String → Nat}
    (follows : dependencies.Follows plan tier) (too : other.Follows otherPlan otherTier)
    {table : String} (known : table ∈ dependencies.tables)
    : tier table = otherTier table :=
  Nat.le_antisymm
    (follows.tiering.le too.tiering same.waits_subset same.tables.subset known)
    (too.tiering.le follows.tiering same.symm.waits_subset same.symm.tables.subset
      (same.tables.subset known))

/-- Plans of both have the same steps when each of the distinct tables takes the same relationships
in its turn.
-/
theorem steps_perm {plan otherPlan : Plan} {tier otherTier : String → Nat}
    (follows : dependencies.Follows plan tier) (too : other.Follows otherPlan otherTier)
    (distinct : dependencies.tables.Nodup)
    (own : dependencies.ownRelationships = other.ownRelationships)
    : plan.steps.Perm otherPlan.steps := by
  have steps {some : Dependencies} {made : Plan} {tiers : String → Nat}
      (kept : some.Follows made tiers) (apart : some.tables.Nodup)
      : made.steps.Perm
          (some.tables.map fun table => ⟨table, tiers table, some.ownRelationships table⟩) := by
    have turns := kept.steps_perm
    rwa [turns_of_nodup _ apart, List.map_map] at turns
  refine (steps follows distinct).trans (.trans ?_
    (steps too (same.tables.nodup_iff.mp distinct)).symm)
  refine .trans (.of_eq (List.map_congr_left fun table known => ?_)) (same.tables.map _)
  rw [same.tier_eq follows too known, own]

end Reordered

end Tablewright.Dependencies
