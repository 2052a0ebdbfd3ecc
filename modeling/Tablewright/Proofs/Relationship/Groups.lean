import Mathlib.Data.List.Dedup
import Tablewright.Proofs.Checks
import Tablewright.Proofs.Indexes
import Tablewright.Relationship.Basic

/-! Relationships in the order of their names and by the tables they refer to. What is sorted by
distinct names does not depend on the order in which it was listed before.
-/

namespace Tablewright.Relationship

-----------------------------------------------------------------------------------------
-- Lists in the order of keys
-----------------------------------------------------------------------------------------

section Sorted

variable {α : Type} (key : α → String) {list other : List α}

/-- Ascending lists of the same elements are equal.
-/
theorem eq_of_ascending_of_perm (ascending : list.Pairwise fun a b => key a < key b)
    (too : other.Pairwise fun a b => key a < key b) (same : list.Perm other)
    : list = other :=
  same.eq_of_pairwise (fun _ _ _ _ before after => absurd after (String.lt_asymm before))
    ascending too

/-- Sorting elements of distinct keys makes the keys ascend.
-/
theorem mergeSort_ascending (distinct : (list.map key).Nodup)
    : (list.mergeSort fun a b => decide (key a ≤ key b)).Pairwise fun a b => key a < key b := by
  let before (a b : α) : Bool := decide (key a ≤ key b)
  have sorted : (list.mergeSort before).Pairwise fun a b => before a b = true :=
    List.pairwise_mergeSort (fun a b c => by simpa [before] using String.le_trans)
      (fun a b => by simpa [before] using String.le_total _ _) list
  have kept := ((List.mergeSort_perm list before).map key).nodup_iff.mpr distinct
  refine (sorted.and (List.pairwise_map.mp kept)).imp fun {a b} ordered => ?_
  obtain ⟨least, different⟩ := ordered
  exact Decidable.byContradiction fun notBefore =>
    different (String.le_antisymm (of_decide_eq_true least) (String.not_lt.mp notBefore))

/-- Sorting by distinct keys does not depend on the order before.
-/
theorem mergeSort_eq_of_perm (distinct : (list.map key).Nodup) (same : list.Perm other)
    : list.mergeSort (fun a b => decide (key a ≤ key b))
      = other.mergeSort fun a b => decide (key a ≤ key b) :=
  eq_of_ascending_of_perm key (mergeSort_ascending key distinct)
    (mergeSort_ascending key ((same.map key).nodup_iff.mp distinct))
    ((List.mergeSort_perm _ _).trans (same.trans (List.mergeSort_perm _ _).symm))

end Sorted

-----------------------------------------------------------------------------------------
-- Tables that are referred to
-----------------------------------------------------------------------------------------

variable {relationships others : List Relationship}

/-- The tables that relationships refer to are the names of a collection.
-/
theorem referencedTables_eq_names (relationships : List Relationship)
    : referencedTables relationships
      = (Index.ofList <| relationships.map fun relationship =>
          (relationship.referencedTable, ())).names := by
  rw [Index.ofList, List.foldl_map]
  rfl

/-- A table is listed when some relationship refers to it.
-/
theorem mem_referencedTables_iff {table : String}
    : table ∈ referencedTables relationships
      ↔ ∃ relationship ∈ relationships, relationship.referencedTable = table := by
  rw [referencedTables_eq_names, Index.mem_names_iff, Index.contains_ofList, List.any_map]
  simp [Function.comp_def]

/-- The tables that relationships refer to ascend.
-/
theorem referencedTables_ascending (relationships : List Relationship)
    : (referencedTables relationships).Pairwise (· < ·) := by
  rw [referencedTables_eq_names]
  exact Index.names_ascending _

/-- The tables that relationships refer to are listed once each.
-/
theorem referencedTables_nodup (relationships : List Relationship)
    : (referencedTables relationships).Nodup :=
  (referencedTables_ascending relationships).imp fun {_ _} before =>
    fun same => String.lt_irrefl _ (same ▸ before)

/-- There are as many tables that are referred to as distinct ones that relationships refer to.
-/
theorem referencedTables_length (relationships : List Relationship)
    : (referencedTables relationships).length
      = (relationships.map (·.referencedTable)).dedup.length := by
  refine List.Perm.length_eq ?_
  refine (List.perm_ext_iff_of_nodup (referencedTables_nodup relationships)
    (List.nodup_dedup _)).mpr fun table => ?_
  rw [mem_referencedTables_iff, List.mem_dedup, List.mem_map]

/-- The tables that relationships refer to do not depend on the order of these.
-/
theorem referencedTables_eq_of_perm (same : relationships.Perm others)
    : referencedTables relationships = referencedTables others := by
  refine eq_of_ascending_of_perm id (referencedTables_ascending relationships)
    (referencedTables_ascending others) ?_
  refine (List.perm_ext_iff_of_nodup (referencedTables_nodup relationships)
    (referencedTables_nodup others)).mpr fun table => ?_
  simp only [mem_referencedTables_iff, same.mem_iff]

-----------------------------------------------------------------------------------------
-- Groups and names
-----------------------------------------------------------------------------------------

/-- The relationships that refer to a table, in the order of their names.
-/
def group (relationships : List Relationship) (table : String) : List Relationship :=
  sortByName (relationships.filter fun relationship => relationship.referencedTable == table)

/-- There is a group for every table that is referred to.
-/
theorem groups_eq_map (relationships : List Relationship)
    : groups relationships
      = (referencedTables relationships).map fun table => (table, group relationships table) :=
  rfl

/-- A group has the relationships that refer to its table.
-/
theorem mem_group_iff {table : String} {relationship : Relationship}
    : relationship ∈ group relationships table
      ↔ relationship ∈ relationships ∧ relationship.referencedTable = table := by
  rw [group, sortByName, (List.mergeSort_perm _ _).mem_iff, List.mem_filter, beq_iff_eq]

/-- In a group of relationships of distinct names the names ascend.
-/
theorem group_ascending (distinct : (relationships.map (·.name)).Nodup) (table : String)
    : (group relationships table).Pairwise fun a b => a.name < b.name :=
  mergeSort_ascending _ (distinct.sublist (List.filter_sublist.map _))

/-- Names of relationships ascend when they are distinct.
-/
theorem sortedNames_ascending (distinct : (relationships.map (·.name)).Nodup)
    : (sortedNames relationships).Pairwise (· < ·) :=
  mergeSort_ascending id (by rwa [List.map_id])

/-- All names of relationships are listed, each once.
-/
theorem sortedNames_perm (relationships : List Relationship)
    : (sortedNames relationships).Perm (relationships.map (·.name)) :=
  List.mergeSort_perm _ _

/-- The groups of relationships of distinct names do not depend on the order of these.
-/
theorem groups_eq_of_perm (distinct : (relationships.map (·.name)).Nodup)
    (same : relationships.Perm others)
    : groups relationships = groups others := by
  have each (table : String) : group relationships table = group others table :=
    mergeSort_eq_of_perm _ (distinct.sublist (List.filter_sublist.map _)) (same.filter _)
  rw [groups_eq_map, groups_eq_map, referencedTables_eq_of_perm same]
  simp only [each]

/-- The sorted names of relationships do not depend on the order of these.
-/
theorem sortedNames_eq_of_perm (distinct : (relationships.map (·.name)).Nodup)
    (same : relationships.Perm others)
    : sortedNames relationships = sortedNames others :=
  mergeSort_eq_of_perm id (by rwa [List.map_id]) (same.map _)

end Tablewright.Relationship
