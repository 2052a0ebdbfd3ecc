import Mathlib.Logic.Relation
import Tablewright.Relationship.Plan

/-! Reachability along relationships: the traversal meets exactly the tables that a path leads to,
so that a relationship counts as cyclic exactly when it lies on a cycle.
-/

namespace Tablewright.Dependencies

open Relation (ReflTransGen)

-----------------------------------------------------------------------------------------
-- What the traversal meets
-----------------------------------------------------------------------------------------

/-- A table leads to another by steps along references, through `fresh` tables only.
-/
inductive LeadsWithin (references : String → List String) (fresh : List String)
    : String → String → Prop
  | self {table} (there : table ∈ fresh) : LeadsWithin references fresh table table
  | step {table next target} (there : table ∈ fresh) (linked : next ∈ references table)
    (below : LeadsWithin references fresh next target)
    : LeadsWithin references fresh table target

/-- More fresh tables leave every path in place.
-/
theorem LeadsWithin.mono {references : String → List String} {fresh more : List String}
    {source target : String} (path : LeadsWithin references fresh source target)
    (subset : fresh ⊆ more)
    : LeadsWithin references more source target := by
  induction path with
  | self there => exact .self (subset there)
  | step there linked _ ih => exact .step (subset there) linked ih

/-- A path avoids a table, or it can be taken up behind its last visit there.
Witness: induction on the path; the last visit lies in the rest of the path or at its head.
-/
theorem LeadsWithin.erase {references : String → List String} {fresh : List String}
    {source target : String} (table : String)
    (path : LeadsWithin references fresh source target)
    : LeadsWithin references (fresh.erase table) source target
      ∨ target = table
      ∨ ∃ next ∈ references table,
          LeadsWithin references (fresh.erase table) next target := by
  induction path with
  | @self source there =>
      by_cases same : source = table
      · exact .inr (.inl same)
      · exact .inl (.self ((List.mem_erase_of_ne same).mpr there))
  | @step source next target there linked _ ih =>
      rcases ih with avoiding | behind
      · by_cases same : source = table
        · subst same
          exact .inr (.inr ⟨next, linked, avoiding⟩)
        · exact .inl (.step ((List.mem_erase_of_ne same).mpr there) linked avoiding)
      · exact .inr behind

/-- Every table that the traversal meets lies on a path from a table to visit.
-/
theorem leadsWithin_of_mem_visit {references : String → List String}
    {pending fresh : List String} {target : String}
    (met : target ∈ visit references pending fresh)
    : ∃ source ∈ pending, LeadsWithin references fresh source target := by
  fun_induction visit references pending fresh with
  | case1 => cases met
  | case2 fresh table pending there ih =>
      rcases List.mem_cons.mp met with rfl | later
      · exact ⟨target, List.mem_cons_self, .self there⟩
      · obtain ⟨source, member, path⟩ := ih later
        have wider := path.mono List.erase_subset
        rcases List.mem_append.mp member with linked | waiting
        · exact ⟨table, List.mem_cons_self, .step there linked wider⟩
        · exact ⟨source, List.mem_cons_of_mem _ waiting, wider⟩
  | case3 fresh table pending _ ih =>
      obtain ⟨source, member, path⟩ := ih met
      exact ⟨source, List.mem_cons_of_mem _ member, path⟩

/-- The traversal meets every table that a path leads to from a table to visit.
Witness: a path through the table just visited is taken up behind it, so that a path through
tables not yet visited is always left.
-/
theorem mem_visit_of_leadsWithin {references : String → List String}
    {pending fresh : List String} {source target : String} (member : source ∈ pending)
    (path : LeadsWithin references fresh source target)
    : target ∈ visit references pending fresh := by
  fun_induction visit references pending fresh generalizing source with
  | case1 => cases member
  | case2 fresh table pending there ih =>
      rcases path.erase table with avoiding | rfl | ⟨next, linked, behind⟩
      · rcases List.mem_cons.mp member with rfl | waiting
        · cases avoiding with
          | self _ => exact List.mem_cons_self
          | step _ linked below =>
              exact List.mem_cons_of_mem _ (ih (List.mem_append_left _ linked) below)
        · exact List.mem_cons_of_mem _ (ih (List.mem_append_right _ waiting) avoiding)
      · exact List.mem_cons_self
      · exact List.mem_cons_of_mem _ (ih (List.mem_append_left _ linked) behind)
  | case3 fresh table pending absent ih =>
      rcases List.mem_cons.mp member with rfl | waiting
      · cases path with
        | self there => exact absurd there absent
        | step there _ _ => exact absurd there absent
      · exact ih waiting path

-----------------------------------------------------------------------------------------
-- Paths of relationships
-----------------------------------------------------------------------------------------

variable (dependencies : Dependencies)

/-- A relationship between tables that are there goes from one table to another.
-/
def Refers (source target : String) : Prop :=
  ∃ relationship ∈ dependencies.relationships,
    relationship.referencingTable = source
    ∧ relationship.referencedTable = target
    ∧ source ∈ dependencies.tables
    ∧ target ∈ dependencies.tables

/-- A relationship lies on a cycle: both its tables are there, and a path of relationships, possibly
an empty one, leads from the table it refers to back to its own.
-/
def OnCycle (relationship : Relationship) : Prop :=
  relationship.referencingTable ∈ dependencies.tables
  ∧ relationship.referencedTable ∈ dependencies.tables
  ∧ ReflTransGen dependencies.Refers relationship.referencedTable
      relationship.referencingTable

/-- Both tables are known exactly when both are in the list.
-/
@[simp]
theorem knows_iff {relationship : Relationship}
    : dependencies.knows relationship = true
      ↔ relationship.referencingTable ∈ dependencies.tables
        ∧ relationship.referencedTable ∈ dependencies.tables := by
  simp [knows]

/-- The references of a table are the tables that one step leads to.
-/
theorem mem_references_iff {source target : String}
    : target ∈ dependencies.references source ↔ dependencies.Refers source target := by
  simp only [references, List.mem_map, List.mem_filter, Bool.and_eq_true, beq_iff_eq,
    knows_iff, Refers]
  constructor
  · intro listed
    obtain ⟨relationship, ⟨member, rfl, known⟩, rfl⟩ := listed
    exact ⟨relationship, member, rfl, rfl, known⟩
  · intro refers
    obtain ⟨relationship, member, rfl, rfl, known⟩ := refers
    exact ⟨relationship, ⟨member, rfl, known⟩, rfl⟩

/-- A path through known tables is a path of relationships, and every path of relationships from a
known table is one, for no step leaves the known tables.
-/
theorem leadsWithin_iff {source target : String}
    : LeadsWithin dependencies.references dependencies.tables.eraseDups source target
      ↔ source ∈ dependencies.tables ∧ ReflTransGen dependencies.Refers source target := by
  constructor
  · intro path
    induction path with
    | self there => exact ⟨List.mem_eraseDups.mp there, .refl⟩
    | step there linked _ ih =>
        exact ⟨List.mem_eraseDups.mp there,
          .head (dependencies.mem_references_iff.mp linked) ih.2⟩
  · intro reached
    obtain ⟨there, path⟩ := reached
    induction path using ReflTransGen.head_induction_on with
    | refl => exact .self (List.mem_eraseDups.mpr there)
    | head linked _ ih =>
        obtain ⟨_, _, _, _, _, known⟩ := id linked
        exact .step (List.mem_eraseDups.mpr there)
          (dependencies.mem_references_iff.mpr linked) (ih known)

/-- The tables that a known table leads to are the ends of its paths.
-/
theorem mem_reachable_iff {source target : String}
    : target ∈ dependencies.reachable source
      ↔ source ∈ dependencies.tables ∧ ReflTransGen dependencies.Refers source target := by
  rw [← leadsWithin_iff]
  constructor
  · intro met
    obtain ⟨start, member, path⟩ := leadsWithin_of_mem_visit met
    exact List.mem_singleton.mp member ▸ path
  · exact mem_visit_of_leadsWithin (List.mem_singleton.mpr rfl)

/-- A relationship counts as cyclic exactly when it lies on a cycle.
-/
theorem isCyclic_iff {relationship : Relationship}
    : dependencies.isCyclic relationship = true ↔ dependencies.OnCycle relationship := by
  simp only [isCyclic, Bool.and_eq_true, knows_iff, List.contains_iff_mem, mem_reachable_iff,
    OnCycle]
  constructor
  · intro cyclic
    obtain ⟨⟨referencing, referenced⟩, _, path⟩ := cyclic
    exact ⟨referencing, referenced, path⟩
  · intro cycle
    obtain ⟨referencing, referenced, path⟩ := cycle
    exact ⟨⟨referencing, referenced⟩, referenced, path⟩

instance : DecidablePred dependencies.OnCycle :=
  fun _ => decidable_of_iff _ dependencies.isCyclic_iff

/-- The positions of cyclic relationships are those of the relationships that lie on a cycle, and
these are the ones that are deferred, in their order.
-/
theorem deferred_iff_onCycle
    : (∀ position,
        position ∈ dependencies.cyclicPositions
        ↔ ∃ relationship,
            dependencies.relationships[position]? = some relationship
            ∧ dependencies.OnCycle relationship)
      ∧ dependencies.deferred
        = (dependencies.relationships.filter dependencies.OnCycle).map (·.name) := by
  constructor
  · intro position
    simp only [cyclicPositions, List.mem_map, List.mem_filter, isCyclic_iff, Prod.exists,
      List.mk_mem_zipIdx_iff_getElem?, exists_eq_right]
  · have same : dependencies.isCyclic = fun relationship =>
        decide (dependencies.OnCycle relationship) := by
      funext relationship
      rw [Bool.eq_iff_iff, isCyclic_iff, decide_eq_true_iff]
    rw [deferred, same]

end Tablewright.Dependencies
