import Mathlib.Data.Nat.Digits.Defs
import Tablewright.Proofs.Store.Creations

/-! Identifiers of tables: a store counts them up, so that no two of its tables share one.
-/

namespace Tablewright.Store.Memory

/-- Different numbers have different identifiers.
Witness: the digits can be read off behind the zeros.
-/
theorem idOf_injective : Function.Injective idOf := by
  intro n m same
  have value (k : Nat) : Nat.ofDigitChars 10
      (List.replicate (12 - (Nat.toDigits 10 k).length) '0' ++ Nat.toDigits 10 k) 0 = k := by
    rw [Nat.ofDigitChars_append, Nat.ofDigitChars_replicate_zero, Nat.mul_zero,
      Nat.ofDigitChars_toDigits (by decide) (by decide)]
  have spelled := String.ofList_inj.mp ((String.append_right_inj _).mp same)
  calc n = _ := (value n).symm
    _ = _ := congrArg (Nat.ofDigitChars 10 · 0) spelled
    _ = m := value m

/-- Every table of a store has an id that the store has given out, and no other table has it.
-/
structure Identified (memory : Memory) : Prop where
  given
    : ∀ {table record},
        memory.tables.get? table = some record
        → ∃ n ≤ memory.lastId, record.id = idOf n
  distinct
    : ∀ {table other record another},
        memory.tables.get? table = some record
        → memory.tables.get? other = some another
        → record.id = another.id
        → table = other

namespace Identified

variable {memory : Memory} {table : String} {record old : TableRecord}

/-- A store without tables has no table without an id of its own.
-/
theorem of_no_tables (none : ∀ table, memory.tables.get? table = none) : memory.Identified := by
  refine ⟨fun found => ?_, fun found => ?_⟩
  all_goals cases (none _).symm.trans found

/-- No table has the id that is given out next.
-/
theorem ne_next (identified : memory.Identified)
    (found : memory.tables.get? table = some record)
    : record.id ≠ idOf (memory.lastId + 1) := by
  intro same
  obtain ⟨n, earlier, given⟩ := identified.given found
  have equal : n = memory.lastId + 1 := idOf_injective (given.symm.trans same)
  omega

/-- A further table gets an id of its own.
-/
theorem addTable (identified : memory.Identified) (name : String) (columns : List String)
    (hiddenFrom : Nat)
    : (memory.addTable name columns hiddenFrom).Identified := by
  refine ⟨fun found => ?_, fun found too same => ?_⟩
  · rcases Index.get?_insert_eq_some_iff.mp found with ⟨_, rfl⟩ | ⟨_, before⟩
    · exact ⟨memory.lastId + 1, Nat.le_refl _, rfl⟩
    · obtain ⟨n, earlier, given⟩ := identified.given before
      exact ⟨n, Nat.le_succ_of_le earlier, given⟩
  · rcases Index.get?_insert_eq_some_iff.mp found with ⟨rfl, rfl⟩ | ⟨_, before⟩
    · rcases Index.get?_insert_eq_some_iff.mp too with ⟨rfl, rfl⟩ | ⟨_, earlier⟩
      · rfl
      · exact absurd same.symm (identified.ne_next earlier)
    · rcases Index.get?_insert_eq_some_iff.mp too with ⟨rfl, rfl⟩ | ⟨_, earlier⟩
      · exact absurd same (identified.ne_next before)
      · exact identified.distinct before earlier same

/-- A table whose record is set keeps its id if the record has it.
-/
theorem setRecord (identified : memory.Identified) (record : TableRecord)
    (found : memory.tables.get? table = some old) (sameId : record.id = old.id)
    : (memory.setRecord table record).Identified := by
  have records {other : String} {current : TableRecord}
      (there : (memory.setRecord table record).tables.get? other = some current)
      : ∃ before, memory.tables.get? other = some before ∧ current.id = before.id := by
    rcases Index.get?_insert_eq_some_iff.mp there with ⟨rfl, rfl⟩ | ⟨_, before⟩
    · exact ⟨old, found, sameId⟩
    · exact ⟨current, before, rfl⟩
  refine ⟨fun there => ?_, fun there too same => ?_⟩
  · obtain ⟨_, earlier, named⟩ := records there
    rw [named]
    exact identified.given earlier
  · obtain ⟨_, earlier, named⟩ := records there
    obtain ⟨_, before, called⟩ := records too
    exact identified.distinct earlier before (named.symm.trans (same.trans called))

end Identified

end Tablewright.Store.Memory
