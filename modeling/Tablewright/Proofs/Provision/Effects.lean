import Tablewright.Proofs.Provision.Parts
import Tablewright.Proofs.Provision.Performance
import Tablewright.Proofs.Store.Keeping

/-! Runs on a store that is a value: what a run that comes to a report consists of, and what present
outcomes of its parts say about the store afterwards.
-/

namespace Tablewright.Provision

open Store (Answer Call Holding Keeps Memory Protocol call)

variable {compiled : CompiledSchema} {settings : Settings} {report : List ReportItem}
variable {memory between after : Memory} {outcome : Outcome} {task : Task}

-----------------------------------------------------------------------------------------
-- Programs on a store that can be reached
-----------------------------------------------------------------------------------------

/-- A call to a store that can be reached is answered.
-/
theorem run_call (online : memory.isOffline = false) (query : Call)
    : (call query).run Memory.respond memory = memory.answer query :=
  Store.Memory.respond_of_online online query

/-- A program that goes on with the answer to its first call goes on from the store that this leaves
behind.
-/
theorem run_call_bind {α : Type} (online : memory.isOffline = false) (query : Call)
    (next : Answer query → Protocol α)
    : (call query >>= next).run Memory.respond memory
      = (next (memory.answer query).1).run Memory.respond (memory.answer query).2 := by
  rw [Dialogue.run_bind, run_call online]

/-- What becomes of something that is made unless it is there.
-/
theorem run_ensure (isThere : Protocol (Except StoreError Bool))
    (make : Protocol (Except StoreError Unit)) (memory : Memory)
    : (ensure isThere make).run Memory.respond memory
      = match isThere.run Memory.respond memory with
        | (.error cause, after) => (.failed cause, after)
        | (.ok true, after) => (.skipped, after)
        | (.ok false, after) =>
          (outcomeOf (make.run Memory.respond after).1, (make.run Memory.respond after).2) := by
  rw [ensure, Dialogue.run_bind]
  rcases isThere.run Memory.respond memory with ⟨_ | _ | _, after⟩
  · rfl
  · dsimp only
    rw [Dialogue.run_bind]
    cases (make.run Memory.respond after).1 with
    | _ => rfl
  · rfl

/-- A run comes to a report exactly when the store can be reached and something became of the
solution; the report has what became of the schedule besides.
-/
theorem run_eq_ok_iff (wellFormed : compiled.WellFormed) {report : Report}
    : (run compiled settings).run Memory.respond memory = (.ok report, after)
      ↔ memory.isOffline = false
        ∧ ∃ outcome between items,
            (ensureSolution settings).run Memory.respond memory = (.ok outcome, between)
            ∧ (perform compiled settings (schedule compiled)
                [⟨.solution, settings.solution.uniqueName, outcome⟩]).run Memory.respond between
              = (items, after)
            ∧ report = ⟨⟨.solution, settings.solution.uniqueName, outcome⟩ :: items⟩ := by
  rw [run_eq_perform wellFormed, Dialogue.run_bind]
  cases offline : memory.isOffline with
  | true =>
      have greeting : (call .whoAmI).run Memory.respond memory
          = (.error (.transport "connection refused"), memory) := by
        change memory.respond .whoAmI = _
        simp [Memory.respond, offline]
      rw [greeting]
      simp
  | false =>
      rw [run_call offline]
      change (Dialogue.run Memory.respond (ensureSolution settings >>= _) memory = _) ↔ _
      rw [Dialogue.run_bind]
      rcases (ensureSolution settings).run Memory.respond memory with ⟨_ | outcome, between⟩
      · simp
      · dsimp only
        rw [Dialogue.run_bind, Dialogue.run_pure]
        constructor
        · intro finished
          obtain ⟨same, rfl⟩ := Prod.mk.inj finished
          cases same
          exact ⟨rfl, outcome, between, _, rfl, rfl, rfl⟩
        · intro parts
          obtain ⟨_, _, _, items, ensured, performed, rfl⟩ := parts
          cases ensured
          rw [performed]

-----------------------------------------------------------------------------------------
-- What is there when a part of a run was present
-----------------------------------------------------------------------------------------

/-- What is present after it was to be made unless it was there has been found, or has been made
after it was found missing.
-/
theorem run_ensure_present {isThere : Protocol (Except StoreError Bool)}
    {make : Protocol (Except StoreError Unit)}
    (ended : (ensure isThere make).run Memory.respond memory = (outcome, after))
    (present : outcome.isPresent = true)
    : (isThere.run Memory.respond memory = (.ok true, after) ∧ outcome = .skipped)
      ∨ ∃ between,
          isThere.run Memory.respond memory = (.ok false, between)
          ∧ make.run Memory.respond between = (.ok (), after)
          ∧ outcome = .created := by
  rw [run_ensure] at ended
  rcases looked : isThere.run Memory.respond memory with ⟨_ | _ | _, between⟩
  · rw [looked] at ended
    cases ended
    cases present
  · simp only [looked] at ended
    rcases tried : make.run Memory.respond between with ⟨_ | _, last⟩
    · simp only [tried] at ended
      cases ended
      cases present
    · simp only [tried] at ended
      cases ended
      exact .inr ⟨between, rfl, tried, rfl⟩
  · rw [looked] at ended
    cases ended
    exact .inl ⟨rfl, rfl⟩

/-- A table is in sight when it was awaited with success.
Witness: induction on the attempts that are left.
-/
theorem shows_of_run_awaitTable {table : String} {interval attempts left : Nat}
    (online : memory.isOffline = false)
    (awaited
      : (awaitTable table interval attempts left).run Memory.respond memory = (.ok (), after))
    : after.shows table = true := by
  induction left generalizing memory with
  | zero => cases awaited
  | succ left ih =>
      rw [awaitTable, run_call_bind online] at awaited
      cases inSight : memory.shows table with
      | true =>
          simp only [Memory.answer, Store.Memory.checkTable_of_shows inSight] at awaited
          cases awaited
          exact inSight
      | false =>
          simp only [Memory.answer, Store.Memory.checkTable_fst, inSight] at awaited
          split at awaited
          · cases awaited
          · rw [Dialogue.run_bind] at awaited
            exact ih ((Keeps.checkTable memory table).isOffline.trans online) awaited

end Tablewright.Provision
