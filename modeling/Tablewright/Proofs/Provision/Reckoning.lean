import Tablewright.Proofs.Provision.Recounting
import Tablewright.Proofs.Provision.Turns

/-! Reckonings: in the end a task is exempt, or it has one item that the history bears out and that
says that it is blocked exactly when a table is missing.
-/

namespace Tablewright.Provision

open Dialogue (Course)
open Store (Answer Call Protocol call)

variable {compiled : CompiledSchema} {settings : Settings} {report items : List ReportItem}
variable {before after tasks : List Task} {task : Task} {topic : Topic} {past history : History}

-----------------------------------------------------------------------------------------
-- Turns
-----------------------------------------------------------------------------------------

/-- How the tasks around one task were dealt with, and whether the task itself was exempt when
its turn came or what became of it.
-/
inductive Turn (compiled : CompiledSchema) (settings : Settings) (report : List ReportItem)
    (before : List Task) (task : Task) (after : List Task)
    : History → List ReportItem → Prop
  | exempt {first later : History} {earlier others : List ReportItem}
    (begun : Course (perform compiled settings before report) first earlier)
    (exempt : isExempt (report ++ earlier) task = true)
    (ended : Course (perform compiled settings after (report ++ earlier)) later others)
    : Turn compiled settings report before task after (first ++ later) (earlier ++ others)
  | dealt {first own later : History} {earlier others : List ReportItem} {outcome : Outcome}
    (begun : Course (perform compiled settings before report) first earlier)
    (due : isExempt (report ++ earlier) task = false)
    (pursued : Course (pursue compiled settings (report ++ earlier) task) own outcome)
    (ended
      : Course (perform compiled settings after (report ++ earlier ++ [task.item outcome]))
          later others)
    : Turn compiled settings report before task after (first ++ (own ++ later))
        (earlier ++ task.item outcome :: others)

/-- Every task among others has its turn.
-/
theorem turn_of_course_perform
    (course
      : Course (perform compiled settings (before ++ task :: after) report) history items)
    : Turn compiled settings report before task after history items := by
  rw [perform_append] at course
  obtain ⟨first, earlier, _, begun, continued, rfl⟩ := Dialogue.course_bind_iff.mp course
  obtain ⟨_, performed, rfl⟩ := Dialogue.course_bind_pure_iff.mp continued
  rw [perform] at performed
  cases exempt : isExempt (report ++ earlier) task with
  | true =>
      rw [exempt, if_pos rfl] at performed
      exact .exempt begun exempt performed
  | false =>
      rw [exempt, if_neg Bool.false_ne_true] at performed
      obtain ⟨own, outcome, _, pursued, onward, rfl⟩ := Dialogue.course_bind_iff.mp performed
      obtain ⟨_, ended, rfl⟩ := Dialogue.course_bind_pure_iff.mp onward
      exact .dealt begun exempt pursued ended

-----------------------------------------------------------------------------------------
-- Items by their keys
-----------------------------------------------------------------------------------------

/-- The items of tasks have the keys of these, in their order.
-/
theorem map_itemKey_sublist
    (course : Course (perform compiled settings tasks report) history items)
    : (items.map itemKey).Sublist (tasks.map Task.key) := by
  induction tasks generalizing report history items with
  | nil =>
      obtain ⟨_, rfl⟩ := Dialogue.course_pure_iff.mp course
      exact .slnil
  | cons task rest ih =>
      rw [perform] at course
      split at course
      · exact (ih course).cons _
      · obtain ⟨_, outcome, _, _, continued, _⟩ := Dialogue.course_bind_iff.mp course
        obtain ⟨others, onward, rfl⟩ := Dialogue.course_bind_pure_iff.mp continued
        rw [List.map_cons, List.map_cons, Task.itemKey_item]
        exact (ih onward).cons_cons _

/-- The items of a task that was dealt with and of tasks after it have the keys of these.
-/
theorem map_itemKey_sublist_cons (task : Task) (outcome : Outcome)
    (ended : Course (perform compiled settings tasks report) history items)
    : ((task.item outcome :: items).map itemKey).Sublist ((task :: tasks).map Task.key) := by
  rw [List.map_cons, List.map_cons, Task.itemKey_item]
  exact (map_itemKey_sublist ended).cons_cons _

/-- Tasks add no items of a key that none of them has.
-/
theorem item_notMem_of_key
    (course : Course (perform compiled settings tasks report) history items)
    (absent : task.key ∉ tasks.map Task.key) (outcome : Outcome)
    : task.item outcome ∉ items := by
  intro member
  refine absent ((map_itemKey_sublist course).subset ?_)
  rw [← Task.itemKey_item task outcome]
  exact List.mem_map_of_mem member

/-- The items of a task that no other one has the key of are what became of the task.
-/
theorem item_mem_iff {earlier others : List ReportItem} {outcome : Outcome}
    (early : ∀ other, task.item other ∉ earlier) (late : ∀ other, task.item other ∉ others)
    (other : Outcome)
    : task.item other ∈ earlier ++ task.item outcome :: others ↔ other = outcome := by
  constructor
  · intro member
    rcases List.mem_append.mp member with first | rest
    · exact absurd first (early other)
    · rcases List.mem_cons.mp rest with same | last
      · cases task with
        | _ => exact (ReportItem.mk.inj same).2.2
      · exact absurd last (late other)
  · rintro rfl
    simp

-----------------------------------------------------------------------------------------
-- Topics of tasks
-----------------------------------------------------------------------------------------

/-- Different tasks of a schema neither look for the same nor try to create the same.
-/
theorem topic_ne (coherent : compiled.Coherent) {other : Task} (asked : task ∈ compiled.tasks)
    (too : other ∈ compiled.tasks) (different : task ≠ other)
    : (task.topic settings).sought ≠ (other.topic settings).sought
      ∧ (task.topic settings).attempt ≠ (other.topic settings).attempt := by
  have attempts {task other : Task} (asked : task ∈ compiled.tasks) (too : other ∈ compiled.tasks)
      (same : task.attempt settings = other.attempt settings) : task = other :=
    List.inj_on_of_nodup_map (attempts_nodup coherent.toWellFormed settings)
      (mem_schedule_of_mem_tasks coherent asked) (mem_schedule_of_mem_tasks coherent too) same
  constructor
  · intro same
    have here := mem_tasks_iff.mp asked
    have there := mem_tasks_iff.mp too
    cases task with
    | relationship link =>
        cases other with
        | relationship other =>
            obtain ⟨tables, columns⟩ := Attempt.column.inj same
            refine different (congrArg Task.relationship (coherent.eq_of_source_eq here there ?_))
            rw [Relationship.source, tables, columns, Relationship.source]
        | column entity attr =>
            obtain ⟨tables, columns⟩ := Attempt.column.inj same
            refine coherent.source_ne_of_plain there.1 there.2 here ?_
            rw [Relationship.source, tables, columns]
        | table | component => cases same
    | column entity attr =>
        cases other with
        | relationship other =>
            obtain ⟨tables, columns⟩ := Attempt.column.inj same
            refine coherent.source_ne_of_plain here.1 here.2 there ?_
            rw [Relationship.source, tables, columns]
        | table | column | component => exact different (attempts asked too same)
    | table | component =>
        cases other with
        | relationship other => cases same
        | table | column | component => exact different (attempts asked too same)
  · intro same
    refine different (attempts asked too ?_)
    cases task with
    | _ =>
        cases other with
        | _ => exact same

/-- Tasks of other topics leave the dossier of a topic empty.
-/
theorem dossier_eq_nil_of_course_perform
    (apart
      : ∀ task ∈ tasks,
          topic.sought ≠ (task.topic settings).sought
          ∧ topic.attempt ≠ (task.topic settings).attempt)
    (course : Course (perform compiled settings tasks report) history items)
    : topic.dossier past history = [] := by
  induction tasks generalizing report past history items with
  | nil =>
      obtain ⟨rfl, _⟩ := Dialogue.course_pure_iff.mp course
      rfl
  | cons task rest ih =>
      obtain ⟨head, others⟩ := List.forall_mem_cons.mp apart
      rw [perform] at course
      split at course
      · exact ih others course
      · obtain ⟨own, _, later, pursued, continued, rfl⟩ := Dialogue.course_bind_iff.mp course
        obtain ⟨_, onward, _⟩ := Dialogue.course_bind_pure_iff.mp continued
        rw [dossier_append, (recounts_pursue _ pursued).confined.dossier_eq_nil head.1 head.2,
          ih others onward, List.append_nil]

-----------------------------------------------------------------------------------------
-- Obstacles
-----------------------------------------------------------------------------------------

/-- Making something unless it is there is not blocked.
-/
theorem not_blocked_of_course_ensure {isThere : Protocol (Except StoreError Bool)}
    {make : Protocol (Except StoreError Unit)} {outcome : Outcome}
    (course : Course (ensure isThere make) history outcome)
    : outcome.isBlocked = false := by
  rcases course_ensure_iff.mp course with ⟨_, _, rfl⟩ | ⟨_, rfl⟩ | ⟨_, _, result, _, _, _, rfl⟩
  · rfl
  · rfl
  · cases result with
    | _ => rfl

/-- The solution is not blocked.
-/
theorem not_blocked_of_course_ensureSolution {outcome : Outcome}
    (course : Course (ensureSolution settings) history (.ok outcome))
    : outcome.isBlocked = false := by
  cases settles_of_course course with
  | unanswered | present => rfl
  | made publisher answer =>
      cases answer with
      | _ => rfl

/-- Nothing but a missing table blocks a task other than a component.
-/
theorem blocked_iff_of_course_pursue (coherent : compiled.Coherent)
    (asked : task ∈ compiled.tasks) (plain : ∀ name, task ≠ .component name)
    {outcome : Outcome}
    (course : Course (pursue compiled settings report task) history outcome)
    : outcome.isBlocked = true ↔ ∃ table ∈ task.needs, table ∉ presentTables report := by
  have own := mem_tasks_iff.mp asked
  cases task with
  | table entity => simp [not_blocked_of_course_ensure course, Task.needs]
  | column entity attr =>
      rw [pursue, pursueColumn] at course
      split at course
      · rename_i present
        have there := List.contains_iff_mem.mp present
        simp [not_blocked_of_course_ensure course, Task.needs, there]
      · rename_i absent
        obtain ⟨rfl, rfl⟩ := Dialogue.course_pure_iff.mp course
        have missing : entity.logicalName ∉ presentTables report := by simpa using absent
        simp [Task.needs, missing, Outcome.isBlocked]
  | relationship link =>
      rw [pursue, pursueRelationship] at course
      obtain ⟨lookup, found, _⟩ := coherent.exists_lookup own
      cases missing : missingTable? (presentTables report) link with
      | none =>
          simp only [missing, found] at course
          obtain ⟨referenced, referencing⟩ := missingTable?_eq_none_iff.mp missing
          simp [not_blocked_of_course_ensure course, Task.needs, referenced, referencing]
      | some table =>
          simp only [missing] at course
          obtain ⟨rfl, rfl⟩ := Dialogue.course_pure_iff.mp course
          refine iff_of_true rfl ⟨table, List.mem_of_find?_eq_some missing, ?_⟩
          simpa using List.find?_some missing
  | component name => exact absurd rfl (plain name)

/-- No task is blocked for want of a lookup.
-/
theorem ne_noLookup_of_course_pursue (coherent : compiled.Coherent)
    (asked : task ∈ compiled.tasks) {outcome : Outcome}
    (course : Course (pursue compiled settings report task) history outcome) (column : String)
    : outcome ≠ .blocked (.noLookup column) := by
  have own := mem_tasks_iff.mp asked
  rintro rfl
  cases task with
  | table entity => cases not_blocked_of_course_ensure course
  | column entity attr =>
      rw [pursue, pursueColumn] at course
      split at course
      · cases not_blocked_of_course_ensure course
      · cases (Dialogue.course_pure_iff.mp course).2
  | relationship link =>
      rw [pursue, pursueRelationship] at course
      obtain ⟨lookup, found, _⟩ := coherent.exists_lookup own
      cases missing : missingTable? (presentTables report) link with
      | none =>
          simp only [missing, found] at course
          cases not_blocked_of_course_ensure course
      | some table =>
          simp only [missing] at course
          cases (Dialogue.course_pure_iff.mp course).2
  | component name =>
      rw [pursue, pursueComponent] at course
      split at course
      · cases (Dialogue.course_pure_iff.mp course).2
      split at course
      · cases (Dialogue.course_pure_iff.mp course).2
      obtain ⟨answer, _, onward, _⟩ := course_call_bind_iff.mp course
      rcases answer with cause | _ | id
      · cases (Dialogue.course_pure_iff.mp onward).2
      · cases (Dialogue.course_pure_iff.mp onward).2
      · cases not_blocked_of_course_ensure onward

-----------------------------------------------------------------------------------------
-- Accounts of single tasks
-----------------------------------------------------------------------------------------

/-- Items of other tables do not change whether a table is present.
-/
theorem mem_presentTables_append {table : String}
    (absent : ∀ outcome, ⟨.table, table, outcome⟩ ∉ items)
    : table ∈ presentTables (report ++ items) ↔ table ∈ presentTables report := by
  simp only [mem_presentTables_iff, List.mem_append, absent, or_false]

/-- Items of tables that a task does not need do not change whether it is exempt.
-/
theorem isExempt_append
    (absent : ∀ table ∈ task.needs, ∀ outcome, ⟨.table, table, outcome⟩ ∉ items)
    : isExempt (report ++ items) task = isExempt report task := by
  cases task with
  | column entity attr =>
      have own := absent entity.logicalName (List.mem_singleton_self _) .created
      simp only [isExempt, List.mem_append, own, or_false]
  | _ => rfl

/-- What the history and the report of a run say about a task that became an item.
-/
structure Account (settings : Settings) (past history : History) (items : List ReportItem)
    (task : Task) (outcome : Outcome)
    : Prop where
  item : ∀ other, task.item other ∈ items ↔ other = outcome
  created
    : outcome = .created ↔ made task.isAwaited ((task.topic settings).dossier past history) = true
  skipped : outcome = .skipped ↔ found ((task.topic settings).dossier past history) = true
  blocked
    : (∀ name, task ≠ .component name)
      → (outcome.isBlocked = true ↔ ∃ table ∈ task.needs, table ∉ presentTables items)
  lookup : ∀ column, outcome ≠ .blocked (.noLookup column)

section Place

variable (coherent : compiled.Coherent) (placed : Placed compiled before task after)
include placed

/-- Items of a task in its place and of those after it do not say anything about a table that it
needs.
-/
theorem table_notMem_of_sublist {table : String} (needed : table ∈ task.needs)
    (keys : (items.map itemKey).Sublist ((task :: after).map Task.key)) (outcome : Outcome)
    : ⟨.table, table, outcome⟩ ∉ items := by
  intro there
  have key : (ItemKind.table, table) ∈ items.map itemKey :=
    List.mem_map.mpr ⟨_, there, rfl⟩
  exact placed.table_key_notMem needed (keys.subset key)

include coherent

/-- The topic of a task in its place is that of no task before or after it.
-/
theorem topic_ne_of_placed (settings : Settings)
    : (∀ other ∈ before,
        (task.topic settings).sought ≠ (other.topic settings).sought
        ∧ (task.topic settings).attempt ≠ (other.topic settings).attempt)
      ∧ ∀ other ∈ after,
          (task.topic settings).sought ≠ (other.topic settings).sought
          ∧ (task.topic settings).attempt ≠ (other.topic settings).attempt := by
  constructor
  · intro other early
    refine topic_ne coherent placed.own (placed.earlier early) ?_
    rintro rfl
    exact placed.key_notMem_before (List.mem_map_of_mem early)
  · intro other late
    have there : other ∈ before ++ task :: after :=
      List.mem_append_right _ (List.mem_cons_of_mem _ late)
    refine topic_ne coherent placed.own (placed.asked _ there) ?_
    rintro rfl
    exact placed.key_notMem_after (List.mem_map_of_mem late)

variable {first own later : History} {earlier others : List ReportItem} {outcome : Outcome}
variable (unreported : ∀ outcome, task.item outcome ∉ report)
variable (begun : Course (perform compiled settings before report) first earlier)
include unreported begun

/-- A task that was exempt at its turn is so in the end, and neither the report nor the history says
anything about it.
-/
theorem silent_of_exempt (exempt : isExempt (report ++ earlier) task = true)
    (ended : Course (perform compiled settings after (report ++ earlier)) later others)
    : isExempt (report ++ (earlier ++ others)) task = true
      ∧ (∀ outcome, task.item outcome ∉ report ++ (earlier ++ others))
      ∧ (task.topic settings).dossier past (first ++ later) = [] := by
  obtain ⟨earlierTopics, laterTopics⟩ := topic_ne_of_placed coherent placed settings
  refine ⟨?_, ?_, ?_⟩
  · have keys := (map_itemKey_sublist ended).cons task.key
    rw [← List.append_assoc,
      isExempt_append fun _ needed => table_notMem_of_sublist placed needed keys]
    exact exempt
  · intro outcome there
    rcases List.mem_append.mp there with said | there
    · exact unreported outcome said
    rcases List.mem_append.mp there with early | late
    · exact item_notMem_of_key begun placed.key_notMem_before outcome early
    · exact item_notMem_of_key ended placed.key_notMem_after outcome late
  · rw [dossier_append, dossier_eq_nil_of_course_perform earlierTopics begun,
      dossier_eq_nil_of_course_perform laterTopics ended]
    rfl

/-- A task that was dealt with at its turn has an account in the end.
-/
theorem account_of_dealt (past : History) (due : isExempt (report ++ earlier) task = false)
    (pursued : Course (pursue compiled settings (report ++ earlier) task) own outcome)
    (ended
      : Course (perform compiled settings after (report ++ earlier ++ [task.item outcome]))
          later others)
    : isExempt (report ++ (earlier ++ task.item outcome :: others)) task = false
      ∧ Account settings past (first ++ (own ++ later))
          (report ++ (earlier ++ task.item outcome :: others)) task outcome := by
  obtain ⟨earlierTopics, laterTopics⟩ := topic_ne_of_placed coherent placed settings
  have keys := map_itemKey_sublist_cons task outcome ended
  have recounts := recounts_pursue (past ++ first) pursued
  have dossier : (task.topic settings).dossier past (first ++ (own ++ later))
      = (task.topic settings).dossier (past ++ first) own := by
    rw [dossier_append, dossier_append, dossier_eq_nil_of_course_perform earlierTopics begun,
      dossier_eq_nil_of_course_perform laterTopics ended, List.nil_append, List.append_nil]
  rw [← List.append_assoc]
  refine ⟨?_, ?_, ?_, ?_, ?_, ?_⟩
  · rw [isExempt_append fun _ needed => table_notMem_of_sublist placed needed keys]
    exact due
  · refine item_mem_iff (fun other there => ?_) (item_notMem_of_key ended placed.key_notMem_after)
    rcases List.mem_append.mp there with said | early
    · exact unreported other said
    · exact item_notMem_of_key begun placed.key_notMem_before other early
  · rw [dossier]
    exact recounts.created
  · rw [dossier]
    exact recounts.skipped
  · intro plain
    rw [blocked_iff_of_course_pursue coherent placed.own plain pursued]
    refine exists_congr fun table => and_congr_right fun needed => ?_
    rw [mem_presentTables_append (table_notMem_of_sublist placed needed keys)]
  · exact ne_noLookup_of_course_pursue coherent placed.own pursued

end Place

/-- In the end a task is exempt, and neither the report nor the history says anything about it,
or it has an account.
Witness: no other task has its key or its topic, so only its own turn matters.
-/
theorem account_of_course_perform (past : History) (coherent : compiled.Coherent)
    (greeted : ∀ item ∈ report, item.kind = .solution) (listed : task ∈ schedule compiled)
    (course : Course (perform compiled settings (schedule compiled) report) history items)
    : (isExempt (report ++ items) task = true
        ∧ (∀ outcome, task.item outcome ∉ report ++ items)
        ∧ (task.topic settings).dossier past history = [])
      ∨ (isExempt (report ++ items) task = false
        ∧ ∃ outcome, Account settings past history (report ++ items) task outcome) := by
  obtain ⟨before, after, split⟩ := List.append_of_mem listed
  have placed := Placed.of_split coherent split
  have unreported (outcome : Outcome) : task.item outcome ∉ report := fun there =>
    task.kind_item_ne_solution outcome (greeted _ there)
  rw [split] at course
  cases turn_of_course_perform course with
  | exempt begun exempt ended =>
      exact .inl (silent_of_exempt coherent placed unreported begun exempt ended)
  | dealt begun due pursued ended =>
      obtain ⟨still, account⟩ :=
        account_of_dealt coherent placed unreported begun past due pursued ended
      exact .inr ⟨still, _, account⟩

end Tablewright.Provision
