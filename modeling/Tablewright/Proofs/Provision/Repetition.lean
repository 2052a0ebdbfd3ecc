import Tablewright.Proofs.Provision.Accounts
import Tablewright.Proofs.Provision.Calls
import Tablewright.Proofs.Provision.Effects
import Tablewright.Proofs.Store.Settling
import Tablewright.Proofs.Store.Sight

/-! Runs in a row on one store. A new table that does not come in sight in time fails as not
visible, and later runs do not see it either: they try to create it again, and the store refuses
that until the table has come in sight.
-/

namespace Tablewright.Provision

open Dialogue (Course)
open Store (Call Memory Protocol call)
open Store.Memory (SameTerms alreadyExists)

variable {compiled : CompiledSchema} {settings : Settings} {report items : List ReportItem}
variable {memory after : Memory} {entity : Entity} {table : String}

-----------------------------------------------------------------------------------------
-- One visit to a table
-----------------------------------------------------------------------------------------

/-- What becomes of a table that is hidden from some number of checks, if the store has it, and from
how many checks it is hidden afterwards.
-/
def visit (settings : ProvisionSettings) (delay : Nat) (table : String)
    : Option Nat → Outcome × Nat
  | none =>
    let attempts := max settings.visibilityAttempts 1
    (if delay < attempts then .created else .failed (.notVisible table attempts),
      delay - attempts)
  | some 0 => (.skipped, 0)
  | some (left + 1) => (.failed (alreadyExists table), left)

/-- A check finds a table that is hidden no more, and brings any other one nearer.
-/
theorem run_tableExists (online : memory.isOffline = false) (table : String)
    : ∃ after,
        (call (.tableExists table)).run Memory.respond memory
          = (.ok (memory.hiddenFrom? table == some 0), after)
        ∧ after.hiddenFrom? table = (memory.hiddenFrom? table).map (· - 1)
        ∧ SameTerms memory after := by
  obtain ⟨seen, nearer⟩ := memory.checkTable_hiddenFrom? table
  have looked : (call (.tableExists table)).run Memory.respond memory
      = (.ok (memory.hiddenFrom? table == some 0), (memory.checkTable table).2) := by
    rw [run_call online, ← seen]
    rfl
  exact ⟨_, looked, nearer, .of_run looked⟩

/-- A store that does not refuse the name of a table creates it unless it has it.
-/
theorem run_createTable_call (online : memory.isOffline = false)
    (accepts : memory.rejections.get? entity.logicalName = none) (primary : Attribute)
    : ∃ after,
        (call (.createTable entity primary)).run Memory.respond memory
          = ((memory.hiddenFrom? entity.logicalName).elim (.ok ())
              fun _ => .error (alreadyExists entity.logicalName), after)
        ∧ after.hiddenFrom? entity.logicalName
          = some ((memory.hiddenFrom? entity.logicalName).getD memory.delay)
        ∧ SameTerms memory after := by
  have creates := Store.Memory.createTable_hiddenFrom? primary.logicalName accepts
  have asked : (call (.createTable entity primary)).run Memory.respond memory
      = memory.perform (Memory.createTable entity.logicalName primary.logicalName) :=
    run_call online _
  cases hidden : memory.hiddenFrom? entity.logicalName with
  | none =>
      rw [hidden] at creates
      obtain ⟨changed, created, delayed⟩ := creates
      rw [created] at asked
      exact ⟨changed, asked, delayed, .of_run asked⟩
  | some left =>
      simp only [hidden] at creates
      rw [creates] at asked
      exact ⟨memory, asked, hidden, .refl memory⟩

/-- A new table is seen when it is hidden from fewer checks than there are attempts, and every
attempt uses up one of these checks.
Witness: induction on the attempts that are left.
-/
theorem run_awaitTable_of_hiddenFrom? {interval attempts left hidden : Nat}
    (online : memory.isOffline = false) (found : memory.hiddenFrom? table = some hidden)
    : ∃ after,
        (awaitTable table interval attempts left).run Memory.respond memory
          = (if hidden < left then .ok () else .error (.notVisible table attempts), after)
        ∧ after.hiddenFrom? table = some (hidden - left) := by
  induction left generalizing memory hidden with
  | zero => exact ⟨memory, rfl, found⟩
  | succ left ih =>
      obtain ⟨between, looked, nearer, terms⟩ := run_tableExists online table
      rw [found] at looked nearer
      rw [awaitTable, Dialogue.run_bind, looked]
      cases hidden with
      | zero => exact ⟨between, rfl, nearer.trans (by rw [Nat.zero_sub]; rfl)⟩
      | succ hidden =>
          have missed : (some (hidden + 1) == some 0) = false := rfl
          simp only [missed]
          by_cases last : left = 0
          · subst last
            exact ⟨between, by simp, nearer⟩
          · obtain ⟨after, awaited, remaining⟩ := ih (terms.online online) nearer
            refine ⟨after, ?_, ?_⟩
            · simp only [last, if_false, Nat.add_lt_add_iff_right]
              rw [Dialogue.run_bind]
              exact awaited
            · rw [Nat.add_sub_add_right]
              exact remaining

/-- The creation of a table that the store has not got succeeds when the store shows the table in
time.
-/
theorem run_createTable_absent (settings : ProvisionSettings)
    (online : memory.isOffline = false)
    (accepts : memory.rejections.get? entity.logicalName = none)
    (absent : memory.hiddenFrom? entity.logicalName = none)
    : ∃ after,
        (createTable settings entity).run Memory.respond memory
          = (if memory.delay < max settings.visibilityAttempts 1 then
              .ok ()
            else
              .error (.notVisible entity.logicalName (max settings.visibilityAttempts 1)), after)
        ∧ after.hiddenFrom? entity.logicalName
          = some (memory.delay - max settings.visibilityAttempts 1) := by
  obtain ⟨changed, tried, delayed, terms⟩ :=
    run_createTable_call online accepts entity.creationPrimary
  rw [absent] at tried delayed
  rw [createTable, Dialogue.run_bind, tried]
  exact run_awaitTable_of_hiddenFrom? (terms.online online) delayed

/-- A table that the store has is not created again, be it in sight or not.
-/
theorem run_createTable_present (settings : ProvisionSettings)
    (online : memory.isOffline = false)
    (accepts : memory.rejections.get? entity.logicalName = none) {left : Nat}
    (present : memory.hiddenFrom? entity.logicalName = some left)
    : ∃ after,
        (createTable settings entity).run Memory.respond memory
          = (.error (alreadyExists entity.logicalName), after)
        ∧ after.hiddenFrom? entity.logicalName = some left := by
  obtain ⟨changed, tried, same, _⟩ := run_createTable_call online accepts entity.creationPrimary
  rw [present] at tried same
  rw [createTable, Dialogue.run_bind, tried]
  exact ⟨changed, rfl, same⟩

/-- What becomes of a table on a store that does not refuse its name, and for how long it is out of
sight afterwards.
-/
theorem run_ensureTable_of_accepting (settings : ProvisionSettings)
    (online : memory.isOffline = false)
    (accepts : memory.rejections.get? entity.logicalName = none)
    : ∃ after,
        (ensureTable settings entity).run Memory.respond memory
          = ((visit settings memory.delay entity.logicalName
              (memory.hiddenFrom? entity.logicalName)).1, after)
        ∧ after.hiddenFrom? entity.logicalName
          = some (visit settings memory.delay entity.logicalName
              (memory.hiddenFrom? entity.logicalName)).2 := by
  obtain ⟨between, looked, nearer, terms⟩ := run_tableExists online entity.logicalName
  have reachable := terms.online online
  have unrefused := terms.accepts accepts
  rw [ensureTable, run_ensure, looked]
  cases sight : memory.hiddenFrom? entity.logicalName with
  | none =>
      rw [sight] at nearer
      obtain ⟨after, made, left⟩ := run_createTable_absent settings reachable unrefused nearer
      rw [terms.delay] at made left
      refine ⟨after, ?_, left⟩
      change (outcomeOf _, _) = _
      rw [made, visit]
      dsimp only
      split
      · rfl
      · rfl
  | some checks =>
      rw [sight] at nearer
      cases checks with
      | zero => exact ⟨between, rfl, nearer⟩
      | succ left =>
          obtain ⟨after, made, same⟩ := run_createTable_present settings reachable unrefused nearer
          refine ⟨after, ?_, same⟩
          change (outcomeOf _, _) = _
          rw [made]
          rfl

-----------------------------------------------------------------------------------------
-- One run
-----------------------------------------------------------------------------------------

/-- The preconditions of a run are met: the store can be reached, and it has the solution or a
publisher for it.
-/
def Ready (settings : Settings) (memory : Memory) : Prop :=
  memory.isOffline = false
  ∧ (memory.holds (.solution settings.solution.uniqueName) = true
    ∨ (memory.publishers.get? settings.publisher.namePrefix).isSome = true)

/-- What dealing with the solution comes to when the store can be reached.
-/
theorem run_ensureSolution_cases (settings : Settings) (online : memory.isOffline = false)
    : (Ready settings memory
        ∧ ∃ outcome after,
            (ensureSolution settings).run Memory.respond memory = (.ok outcome, after))
      ∨ (¬ Ready settings memory
        ∧ ∃ error, (ensureSolution settings).run Memory.respond memory = (.error error, memory))
      := by
  rw [ensureSolution, run_call_bind online]
  simp only [Memory.answer]
  cases there : memory.solutions.contains settings.solution.uniqueName with
  | true => exact .inl ⟨⟨online, .inl there⟩, _, _, rfl⟩
  | false =>
      simp only [run_call_bind online, Memory.answer]
      cases found : memory.publishers.get? settings.publisher.namePrefix with
      | none =>
          refine .inr ⟨?_, _, rfl⟩
          rintro ⟨_, held | known⟩
          · exact Bool.noConfusion (there.symm.trans held)
          · rw [found] at known
            exact Bool.noConfusion known
      | some publisher =>
          refine .inl ⟨⟨online, .inr (by rw [found]; rfl)⟩, ?_⟩
          rw [run_call_bind online]
          split
          · exact ⟨_, _, rfl⟩
          · exact ⟨_, _, rfl⟩

/-- A run comes to a report exactly when its preconditions are met, and leaves the store as it is
otherwise.
-/
theorem run_cases (wellFormed : compiled.WellFormed) (settings : Settings) (memory : Memory)
    : (Ready settings memory
        ∧ ∃ report after,
            (run compiled settings).run Memory.respond memory = (.ok report, after))
      ∨ (¬ Ready settings memory
        ∧ ∃ error, (run compiled settings).run Memory.respond memory = (.error error, memory)) := by
  cases offline : memory.isOffline with
  | true =>
      refine .inr ⟨fun ready => Bool.noConfusion (offline.symm.trans ready.1),
        .unreachable (.transport "connection refused"), ?_⟩
      have greeting : (call .whoAmI).run Memory.respond memory
          = (.error (.transport "connection refused"), memory) := by
        change memory.respond .whoAmI = _
        simp [Memory.respond, offline]
      rw [run, Dialogue.run_bind, greeting]
      rfl
  | false =>
      rcases run_ensureSolution_cases settings offline with
        ⟨ready, outcome, between, ensured⟩ | ⟨unready, error, ensured⟩
      · exact .inl ⟨ready, _, _, (run_eq_ok_iff wellFormed).mpr
          ⟨offline, outcome, between, _, ensured, rfl, rfl⟩⟩
      · refine .inr ⟨unready, error, ?_⟩
        rw [run, run_call_bind offline]
        simp only [Memory.answer]
        rw [Dialogue.run_bind, ensured]
        rfl

/-- Dealing with other tasks than a table does not touch the table.
-/
theorem untouched_of_perform {tasks : List Task}
    (others : (.table, table) ∉ tasks.map Task.key)
    : (perform compiled settings tasks report).Asks fun query => ¬ query.Touches table := by
  refine (asks_perform tasks report).mono fun query served touches => ?_
  obtain ⟨task, listed, serves⟩ := served
  have different : task.key ≠ (.table, table) := fun same =>
    others (List.mem_map.mpr ⟨task, listed, same⟩)
  cases serves with
  | tableExists entity | createTable entity => exact different (congrArg (Prod.mk _) touches)
  | _ => exact touches

/-- Dealing with tasks among which one is never exempt is to deal with those before it, with the
task and then with those after it.
-/
theorem run_perform_split {before later : List Task} {task : Task} {items : List ReportItem}
    (due : ∀ report, isExempt report task = false)
    (performed
      : (perform compiled settings (before ++ task :: later) report).run Memory.respond memory
        = (items, after))
    : ∃ earlier between outcome middle others,
        (perform compiled settings before report).run Memory.respond memory = (earlier, between)
        ∧ (pursue compiled settings (report ++ earlier) task).run Memory.respond between
          = (outcome, middle)
        ∧ (perform compiled settings later (report ++ earlier ++ [task.item outcome])).run
            Memory.respond middle
          = (others, after)
        ∧ items = earlier ++ task.item outcome :: others := by
  rw [perform_append, Dialogue.run_bind] at performed
  rcases begun : (perform compiled settings before report).run Memory.respond memory with
    ⟨earlier, between⟩
  rw [begun, perform, due, if_neg Bool.false_ne_true, bind_assoc, Dialogue.run_bind] at performed
  rcases pursued : (pursue compiled settings (report ++ earlier) task).run Memory.respond between
    with ⟨outcome, middle⟩
  rw [pursued, bind_assoc, Dialogue.run_bind] at performed
  cases performed
  exact ⟨earlier, between, outcome, middle, _, rfl, pursued, rfl, rfl⟩

/-- Dealing with tasks among which one is a table has one item for the table, and leaves it out of
sight for as long as one visit does.
Witness: nothing before or after the visit touches the table.
-/
theorem run_perform_table {before later : List Task} {items : List ReportItem}
    (placed : Placed compiled before (.table entity) later)
    (online : memory.isOffline = false)
    (accepts : memory.rejections.get? entity.logicalName = none)
    (performed
      : (perform compiled settings (before ++ .table entity :: later) report).run Memory.respond
          memory
        = (items, after))
    : (∀ outcome,
        ⟨.table, entity.logicalName, outcome⟩ ∈ items
        ↔ outcome
          = (visit settings.provision memory.delay entity.logicalName
              (memory.hiddenFrom? entity.logicalName)).1)
      ∧ after.hiddenFrom? entity.logicalName
        = some (visit settings.provision memory.delay entity.logicalName
            (memory.hiddenFrom? entity.logicalName)).2 := by
  obtain ⟨earlier, between, outcome, middle, others, begun, visited, ended, rfl⟩ :=
    run_perform_split (fun _ => rfl) performed
  have terms := SameTerms.of_run begun
  have early := placed.key_notMem_before
  have late := placed.key_notMem_after
  obtain ⟨_, ensured, left⟩ := run_ensureTable_of_accepting settings.provision
    (terms.online online) (terms.accepts accepts)
  rw [terms.delay, Store.Memory.hiddenFrom?_of_run (untouched_of_perform early) begun]
    at ensured left
  obtain ⟨rfl, rfl⟩ := Prod.mk.inj (visited.symm.trans ensured)
  constructor
  · exact item_mem_iff (item_notMem_of_key (Dialogue.course_of_run begun) early)
      (item_notMem_of_key (Dialogue.course_of_run ended) late)
  · rw [← left]
    exact Store.Memory.hiddenFrom?_of_run (untouched_of_perform late) ended

/-- A run has one item for every table, and leaves the table out of sight for as long as one visit
does.
-/
theorem run_table (coherent : compiled.Coherent) {report : Report}
    (listed : entity ∈ compiled.entities)
    (accepts : memory.rejections.get? entity.logicalName = none)
    (ended : (run compiled settings).run Memory.respond memory = (.ok report, after))
    : (∀ outcome,
        ⟨.table, entity.logicalName, outcome⟩ ∈ report.items
        ↔ outcome
          = (visit settings.provision memory.delay entity.logicalName
              (memory.hiddenFrom? entity.logicalName)).1)
      ∧ after.hiddenFrom? entity.logicalName
        = some (visit settings.provision memory.delay entity.logicalName
            (memory.hiddenFrom? entity.logicalName)).2 := by
  obtain ⟨online, solution, between, items, ensured, performed, rfl⟩ :=
    (run_eq_ok_iff coherent.toWellFormed).mp ended
  have terms := SameTerms.of_run ensured
  have opening : (ensureSolution settings).Asks fun query =>
      ¬ query.Touches entity.logicalName :=
    (asks_ensureSolution settings).mono fun query opens touches => by cases opens with
      | _ => exact touches
  have asked : .table entity ∈ compiled.tasks := mem_tasks_iff.mpr listed
  obtain ⟨before, later, split⟩ :=
    List.append_of_mem (mem_schedule_of_mem_tasks coherent asked)
  rw [split] at performed
  obtain ⟨items, left⟩ := run_perform_table (.of_split coherent split) (terms.online online)
    (terms.accepts accepts) performed
  rw [terms.delay, Store.Memory.hiddenFrom?_of_run opening ensured] at items left
  refine ⟨fun outcome => ?_, left⟩
  rw [List.mem_cons, ← items]
  exact or_iff_right fun same => ItemKind.noConfusion (ReportItem.mk.inj same).1

-----------------------------------------------------------------------------------------
-- Runs in a row
-----------------------------------------------------------------------------------------

/-- The store that a number of runs in a row leave behind.
-/
def storeAfter (compiled : CompiledSchema) (settings : Settings) (memory : Memory) : Nat → Memory
  | 0 => memory
  | earlier + 1 =>
    ((run compiled settings).run Memory.respond
      (storeAfter compiled settings memory earlier)).2

/-- What a run says of a table after a number of earlier runs. A table that was not there before
all of them is created by the first run. If the attempts of that do not bring it in sight, every
later run uses up one more check of those that it is hidden from, takes it for missing, and is
refused when it tries to create it again.
-/
def verdict (settings : ProvisionSettings) (delay : Nat) (table : String) (isThere : Bool)
    (earlier : Nat)
    : Outcome :=
  let attempts := max settings.visibilityAttempts 1
  if isThere then
    .skipped
  else if delay < attempts then
    if earlier = 0 then .created else .skipped
  else if earlier = 0 then
    .failed (.notVisible table attempts)
  else if earlier ≤ delay - attempts then
    .failed (alreadyExists table)
  else
    .skipped

/-- From how many checks a table is hidden after a number of runs, if the store has it by then.
-/
def sightAfter (settings : ProvisionSettings) (delay : Nat) (isThere : Bool)
    : Nat → Option Nat
  | 0 => if isThere then some 0 else none
  | earlier + 1 =>
    some (if isThere then 0 else delay - max settings.visibilityAttempts 1 - earlier)

/-- A further visit says what the verdict is and leads to the next sight.
-/
theorem visit_sightAfter (settings : ProvisionSettings) (delay : Nat) (table : String)
    (isThere : Bool) (earlier : Nat)
    : (visit settings delay table (sightAfter settings delay isThere earlier)).1
        = verdict settings delay table isThere earlier
      ∧ some (visit settings delay table (sightAfter settings delay isThere earlier)).2
        = sightAfter settings delay isThere (earlier + 1) := by
  cases isThere with
  | true =>
      cases earlier with
      | _ => exact ⟨rfl, rfl⟩
  | false =>
      cases earlier with
      | zero =>
          simp only [sightAfter, visit, verdict, Bool.false_eq_true, if_false, if_true,
            Nat.sub_zero, and_self]
      | succ earlier =>
          simp only [sightAfter, verdict, Bool.false_eq_true, if_false, Nat.succ_ne_zero]
          generalize max settings.visibilityAttempts 1 = attempts
          cases remaining : delay - attempts - earlier with
          | zero =>
              have late : ¬ earlier + 1 ≤ delay - attempts := by omega
              rw [if_neg late, ite_self]
              refine ⟨rfl, congrArg some ?_⟩
              change 0 = _
              omega
          | succ left =>
              have slow : ¬ delay < attempts := by omega
              have early : earlier + 1 ≤ delay - attempts := by omega
              rw [if_neg slow, if_pos early]
              refine ⟨rfl, congrArg some ?_⟩
              change left = _
              omega

/-- Runs do not change the terms of a store.
-/
theorem sameTerms_storeAfter (compiled : CompiledSchema) (settings : Settings) (memory : Memory)
    (earlier : Nat)
    : SameTerms memory (storeAfter compiled settings memory earlier) := by
  induction earlier with
  | zero => exact .refl memory
  | succ earlier ih => exact ih.trans (.of_run rfl)

/-- Runs do not change whether the preconditions of a run are met.
-/
theorem ready_storeAfter_iff (wellFormed : compiled.WellFormed) (earlier : Nat)
    : Ready settings (storeAfter compiled settings memory earlier) ↔ Ready settings memory := by
  induction earlier with
  | zero => exact .rfl
  | succ earlier ih =>
      rw [storeAfter, ← ih]
      have terms := sameTerms_storeAfter compiled settings memory earlier
      rcases run_cases wellFormed settings (storeAfter compiled settings memory earlier) with
        ⟨ready, report, after, ended⟩ | ⟨_, error, ended⟩
      · rw [ended]
        refine iff_of_true ⟨(SameTerms.of_run ended).online ready.1, ?_⟩ ready
        exact ready.2.imp (Store.Keeps.of_run ended).holds
          fun known => (SameTerms.of_run ended).publishers ▸ known
      · rw [ended]

/-- From how many checks a table is hidden after a number of runs that come to reports.
Witness: induction on the runs; each of them visits the table once.
-/
theorem hiddenFrom?_storeAfter (coherent : compiled.Coherent) (ready : Ready settings memory)
    (listed : entity ∈ compiled.entities)
    (accepts : memory.rejections.get? entity.logicalName = none) {isThere : Bool}
    (start : memory.hiddenFrom? entity.logicalName = if isThere then some 0 else none)
    (earlier : Nat)
    : (storeAfter compiled settings memory earlier).hiddenFrom? entity.logicalName
      = sightAfter settings.provision memory.delay isThere earlier := by
  induction earlier with
  | zero => exact start
  | succ earlier ih =>
      have terms := sameTerms_storeAfter compiled settings memory earlier
      rcases run_cases coherent.toWellFormed settings
        (storeAfter compiled settings memory earlier) with
        ⟨_, report, after, ended⟩ | ⟨unready, _⟩
      · have left := (run_table coherent listed (terms.accepts accepts) ended).2
        rw [storeAfter, ended, left, ih, terms.delay]
        exact (visit_sightAfter _ _ _ _ _).2
      · exact absurd ((ready_storeAfter_iff coherent.toWellFormed earlier).mpr ready) unready

/-- What every run says of the tables of a schema, when the same schema is provisioned again and
again on a store that was set up by hand and refuses no names. All runs come to a report if the
first one does. No table is ever refused because it exists, unless new tables are hidden from more
checks than a run has attempts: then the first run fails as the table is not visible, and as many
later runs as there are more checks are refused.
Witness: the number of checks that a table is hidden from, after each of the runs.
-/
theorem tables_of_runs {schema : Schema} {publisherPrefix : String}
    (compiles : schema.compile publisherPrefix = .ok compiled) (settings : Settings)
    (built : memory.Built) (accepts : ∀ name, memory.rejections.get? name = none)
    (earlier : Nat)
    : match ((run compiled settings).run Memory.respond
        (storeAfter compiled settings memory earlier)).1 with
      | .error _ => ¬ Ready settings memory
      | .ok report =>
        Ready settings memory
        ∧ ∀ entity ∈ compiled.entities, ∀ outcome,
            ⟨.table, entity.logicalName, outcome⟩ ∈ report.items
            ↔ outcome
              = verdict settings.provision memory.delay entity.logicalName
                  (memory.holds (.table entity.logicalName)) earlier := by
  have coherent := CompiledSchema.coherent_of_compile compiles
  have stays : Ready settings (storeAfter compiled settings memory earlier)
      ↔ Ready settings memory :=
    ready_storeAfter_iff coherent.toWellFormed earlier
  have terms := sameTerms_storeAfter compiled settings memory earlier
  rcases run_cases coherent.toWellFormed settings (storeAfter compiled settings memory earlier)
    with ⟨ready, report, after, ended⟩ | ⟨unready, error, ended⟩
  · have begins := stays.mp ready
    rw [ended]
    refine ⟨begins, fun entity listed outcome => ?_⟩
    have start : memory.hiddenFrom? entity.logicalName
        = if memory.holds (.table entity.logicalName) then some 0 else none := by
      have settled := built.settled.2 begins.1
      rw [Memory.hiddenFrom?, Memory.holds, Index.contains]
      cases found : memory.tables.get? entity.logicalName with
      | none => rfl
      | some record => simp [settled.visible found]
    have items := (run_table coherent listed (terms.accepts (accepts _)) ended).1 outcome
    rw [hiddenFrom?_storeAfter coherent begins listed (accepts _) start, terms.delay,
      (visit_sightAfter _ _ _ _ _).1] at items
    exact items
  · rw [ended]
    exact fun ready => unready (stays.mpr ready)

/-- A store that hides new tables from more checks than an impatient run has attempts.
-/
def slowStore : Memory :=
  { previewStore {} with delay := 2 }

/-- Settings of a run that looks for a new table once.
-/
def impatient : Settings where
  provision := { visibilityAttempts := 1 }

/-- The slow store refuses no names.
-/
theorem slowStore_accepts (name : String) : slowStore.rejections.get? name = none :=
  Index.get?_empty name

/-- The items of a run after a number of earlier runs.
-/
def itemsOfRun (compiled : CompiledSchema) (settings : Settings) (memory : Memory)
    (earlier : Nat)
    : List ReportItem :=
  match ((run compiled settings).run Memory.respond
    (storeAfter compiled settings memory earlier)).1 with
  | .ok report => report.items
  | .error _ => []

/-- On the slow store, impatient runs say of a new table first that it is not visible, then that it
cannot be created, and then that it is there.
-/
theorem tables_of_runs_slow
    : staffing.compile "x" = .ok staffed
      ∧ slowStore.Built
      ∧ (∀ name, slowStore.rejections.get? name = none)
      ∧ (List.range 4).map (verdict impatient.provision slowStore.delay "person" false)
        = [.failed (.notVisible "person" 1), .failed (alreadyExists "person"), .skipped, .skipped]
      ∧ match ((run staffed impatient).run Memory.respond
          (storeAfter staffed impatient slowStore 1)).1 with
        | .error _ => ¬ Ready impatient slowStore
        | .ok report =>
          Ready impatient slowStore
          ∧ ∀ entity ∈ staffed.entities, ∀ outcome,
              ⟨.table, entity.logicalName, outcome⟩ ∈ report.items
              ↔ outcome
                = verdict impatient.provision slowStore.delay entity.logicalName
                    (slowStore.holds (.table entity.logicalName)) 1 :=
  ⟨staffing_compiles, .delay 2 (.publisher _ _ .empty), slowStore_accepts, by decide,
    tables_of_runs staffing_compiles impatient (.delay 2 (.publisher _ _ .empty))
      slowStore_accepts 1⟩

/-- The second of two runs is refused a table that the first one has created.
-/
theorem table_refused_by_second_run
    : staffing.compile "x" = .ok staffed
      ∧ slowStore.Built
      ∧ (∀ name, slowStore.rejections.get? name = none)
      ∧ ⟨.table, "person", .failed (.notVisible "person" 1)⟩
        ∈ itemsOfRun staffed impatient slowStore 0
      ∧ .table "person" ∈ (storeAfter staffed impatient slowStore 1).creations
      ∧ ⟨.table, "person",
          .failed (.remote 400 "An entity with the name person already exists")⟩
        ∈ itemsOfRun staffed impatient slowStore 1 :=
  ⟨staffing_compiles, .delay 2 (.publisher _ _ .empty), slowStore_accepts, by decide +kernel,
    by decide +kernel, by decide +kernel⟩

end Tablewright.Provision
