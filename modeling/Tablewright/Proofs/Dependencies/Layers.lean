import Mathlib.Order.WellFounded
import Tablewright.Relationship.Plan

/-! Layers of tables that wait for each other. Where no waiting goes round, every table gets a tier,
one above the highest tier it waits for, and each layer keeps the order of the tables.
-/

namespace Tablewright.Dependencies

-----------------------------------------------------------------------------------------
-- Tiers of tables that wait for each other
-----------------------------------------------------------------------------------------

/-- Every table waits for tables of lower rank only.
-/
def Ranked (waits : List (String × String)) (rank : String → Nat) : Prop :=
  ∀ wait ∈ waits, rank wait.2 < rank wait.1

/-- A tier for each of some tables: above the tiers of all tables it waits for, and no higher than
the next one above one of these.
-/
structure Tiering (waits : List (String × String)) (tables : List String)
    (tier : String → Nat)
    : Prop where
  above
    : ∀ {table other},
        (table, other) ∈ waits
        → table ∈ tables
        → other ∈ tables
        → tier other < tier table
  tight
    : ∀ {table},
        table ∈ tables
        → tier table = 0
          ∨ ∃ other ∈ tables, (table, other) ∈ waits ∧ tier table = tier other + 1

/-- A table is free exactly when it waits for none of the remaining ones.
-/
theorem isFree_iff {α : Type} {waits : List (String × String)}
    {remaining : List (String × α)} {table : String}
    : isFree waits remaining table = true
      ↔ ∀ other, (table, other) ∈ waits → other ∉ remaining.map (·.1) := by
  simp only [isFree, List.all_eq_true, Bool.or_eq_true, bne_iff_ne]
  constructor
  · intro free other waiting there
    obtain ⟨entry, member, rfl⟩ := List.mem_map.mp there
    rcases free _ waiting with different | absent
    · exact different rfl
    · exact absent entry member rfl
  · intro free wait waiting
    by_cases same : wait.1 = table
    · refine .inr (fun entry member there => free wait.2 ?_ ?_)
      · exact same ▸ waiting
      · exact List.mem_map.mpr ⟨entry, member, there⟩
    · exact .inl same

/-- Tiers of the tables that have to wait, raised by one above the free ones, are tiers of all.
Witness: a table has to wait because of a remaining one, which is free or has a tier already.
-/
theorem Tiering.raise {waits : List (String × String)} {tables : List String}
    {tier : String → Nat} (free : String → Bool)
    (freedom : ∀ table, free table = true ↔ ∀ other, (table, other) ∈ waits → other ∉ tables)
    (below : Tiering waits (tables.filter fun table => !free table) tier)
    : Tiering waits tables fun table => if free table then 0 else tier table + 1 := by
  constructor
  · intro table other waiting there known
    have bound : free table = false := by
      rw [← Bool.not_eq_true, freedom]
      exact fun none => none other waiting known
    cases loose : free other with
    | true => simp [bound]
    | false =>
        have lower := below.above waiting (List.mem_filter.mpr ⟨there, by simp [bound]⟩)
          (List.mem_filter.mpr ⟨known, by simp [loose]⟩)
        simpa [bound] using lower
  · intro table there
    cases bound : free table with
    | true => exact .inl (by simp)
    | false =>
        refine .inr ?_
        rcases below.tight (List.mem_filter.mpr ⟨there, by simp [bound]⟩) with
          lowest | ⟨other, remains, waiting, next⟩
        · have held : ¬ ∀ other, (table, other) ∈ waits → other ∉ tables := by
            rw [← freedom, bound]
            exact Bool.false_ne_true
          push Not at held
          obtain ⟨other, waiting, known⟩ := held
          refine ⟨other, known, waiting, ?_⟩
          cases loose : free other with
          | true => simp [lowest]
          | false =>
              have lower := below.above waiting
                (List.mem_filter.mpr ⟨there, by simp [bound]⟩)
                (List.mem_filter.mpr ⟨known, by simp [loose]⟩)
              omega
        · obtain ⟨known, loose⟩ := List.mem_filter.mp remains
          refine ⟨other, known, waiting, ?_⟩
          simp only [Bool.not_eq_true'] at loose
          simp [loose, next]

-----------------------------------------------------------------------------------------
-- The layers that are taken off one by one
-----------------------------------------------------------------------------------------

/-- Among remaining tables one is free: one of the lowest rank.
-/
theorem exists_free {α : Type} {waits : List (String × String)} {rank : String → Nat}
    (ranked : Ranked waits rank) {remaining : List (String × α)} (nonempty : remaining ≠ [])
    : ∃ entry ∈ remaining, isFree waits remaining entry.1 = true := by
  obtain ⟨first, member⟩ := List.exists_mem_of_ne_nil remaining nonempty
  obtain ⟨lowest, there, least⟩ :=
    (InvImage.wf (fun entry : String × α => rank entry.1) Nat.lt_wfRel.wf).has_min
      {entry | entry ∈ remaining} ⟨first, member⟩
  refine ⟨lowest, there, isFree_iff.mpr ?_⟩
  intro other waiting known
  obtain ⟨entry, remains, rfl⟩ := List.mem_map.mp known
  exact least entry remains (ranked _ waiting)

/-- The layers of ranked tables exist, and they sort the tables by a tiering without changing the
order of any two of one tier.
Witness: induction on the remaining tables; the free ones are the layer of tier zero, and the
others have their tiers, raised by one.
-/
theorem layers_tiered {α : Type} {waits : List (String × String)} {rank : String → Nat}
    (ranked : Ranked waits rank) (remaining : List (String × α))
    : ∃ found tier,
        layers waits remaining = .ok found
        ∧ Tiering waits (remaining.map (·.1)) tier
        ∧ ∀ n, found.getD n [] = remaining.filter fun entry => tier entry.1 == n := by
  induction size : remaining.length using Nat.strong_induction_on generalizing remaining with
  | _ size ih =>
      cases remaining with
      | nil => exact ⟨[], fun _ => 0, by rw [layers], ⟨by simp, by simp⟩, by simp⟩
      | cons entry rest =>
          let free := fun table => isFree waits (entry :: rest) table
          let blocked := (entry :: rest).filter fun other => !free other.1
          have smaller : blocked.length < (entry :: rest).length := by
            obtain ⟨lowest, there, loose⟩ := exists_free ranked (List.cons_ne_nil entry rest)
            exact List.length_filter_lt_length_iff_exists.mpr
              ⟨lowest, there, by simp [free, loose]⟩
          obtain ⟨found, tier, layered, tiering, sorted⟩ :=
            ih blocked.length (size ▸ smaller) blocked rfl
          refine ⟨(entry :: rest).filter (fun other => free other.1) :: found,
            fun table => if free table then 0 else tier table + 1, ?_, ?_, ?_⟩
          · rw [layers]
            simp only [blocked, free] at smaller layered
            rw [dif_pos smaller, layered]
            rfl
          · have named : blocked.map (·.1)
                = ((entry :: rest).map (·.1)).filter fun table => !free table := by
              rw [List.filter_map]
              rfl
            rw [named] at tiering
            exact tiering.raise free fun table => isFree_iff
          · intro n
            cases n with
            | zero =>
                rw [List.getD_cons_zero]
                refine List.filter_congr fun other _ => ?_
                cases loose : free other.1 <;> simp [loose]
            | succ n =>
                rw [List.getD_cons_succ, sorted n, List.filter_filter]
                refine List.filter_congr fun other _ => ?_
                cases loose : free other.1 <;> simp [loose]

-----------------------------------------------------------------------------------------
-- The steps of layers
-----------------------------------------------------------------------------------------

/-- The tiers of steps start at the tier they are counted from.
-/
theorem le_tier_of_mem_stepsFrom {start : Nat} {found : List (List (String × List String))}
    {step : Step} (member : step ∈ stepsFrom start found)
    : start ≤ step.tier := by
  induction found generalizing start with
  | nil => cases member
  | cons layer rest ih =>
      rcases List.mem_append.mp member with here | later
      · obtain ⟨turn, _, rfl⟩ := List.mem_map.mp here
        exact Nat.le_refl _
      · exact Nat.le_of_succ_le (ih later)

/-- Steps stand in the order of their tiers.
-/
theorem stepsFrom_pairwise (start : Nat) (found : List (List (String × List String)))
    : (stepsFrom start found).Pairwise fun step later => step.tier ≤ later.tier := by
  induction found generalizing start with
  | nil => exact .nil
  | cons layer rest ih =>
      refine List.pairwise_append.mpr ⟨?_, ih (start + 1), ?_⟩
      · exact List.pairwise_map.mpr (List.pairwise_of_forall fun _ _ => Nat.le_refl _)
      · intro step here later member
        obtain ⟨turn, _, rfl⟩ := List.mem_map.mp here
        exact Nat.le_of_succ_le (le_tier_of_mem_stepsFrom member)

/-- The steps of a tier are the turns of its layer, in the same order.
-/
theorem stepsFrom_filter (start n : Nat) (found : List (List (String × List String)))
    : (stepsFrom start found).filter (fun step => step.tier == start + n)
      = (found.getD n []).map fun turn => ⟨turn.1, start + n, turn.2⟩ := by
  induction found generalizing start n with
  | nil => rfl
  | cons layer rest ih =>
      rw [stepsFrom, List.filter_append, List.filter_map]
      cases n with
      | zero =>
          have none : (stepsFrom (start + 1) rest).filter
              (fun step => step.tier == start + 0) = [] := by
            refine List.filter_eq_nil_iff.mpr fun step member => ?_
            have later := le_tier_of_mem_stepsFrom member
            simp only [beq_iff_eq]
            omega
          rw [none, List.append_nil, List.getD_cons_zero,
            List.filter_eq_self.mpr (by simp)]
          rfl
      | succ n =>
          rw [List.filter_eq_nil_iff.mpr (by simp), List.map_nil, List.nil_append,
            List.getD_cons_succ, ← Nat.add_assoc, Nat.add_right_comm, ih]

end Tablewright.Dependencies
