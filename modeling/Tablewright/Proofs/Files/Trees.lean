import Tablewright.Files.Tree
import Tablewright.Proofs.Checks

/-! Trees of files by the steps that lead into them: what is there, what is put in its place, and
that everything elsewhere stays.
-/

namespace Tablewright.FileTree

variable {tree part : FileTree} {name : String} {steps : List String}

/-- The content of the file that some steps lead to.
-/
def contentAt? (tree : FileTree) (steps : List String) : Option ByteArray :=
  match tree.get steps with
  | .ok (file content) => some content
  | _ => none

/-- What is at the end of some steps, where names that do not exist are taken for directories
without entries.
-/
def branch : FileTree → List String → FileTree
  | tree, [] => tree
  | file content, _ :: _ => file content
  | directory entries, name :: steps =>
    ((entries.lookup name).getD (directory [])).branch steps

/-- Puts a tree at the end of some steps and makes the directories on the way.
-/
def graft (part : FileTree) : FileTree → List String → FileTree
  | _, [] => part
  | file content, _ :: _ => file content
  | directory entries, name :: steps =>
    directory <|
      setEntry name (graft part ((entries.lookup name).getD (directory [])) steps) entries

/-- No file is in the way of some steps, and their names are not too long.
-/
def Reaches : FileTree → List String → Prop
  | _, [] => True
  | file _, _ :: _ => False
  | directory entries, name :: steps =>
    checkName name = .ok () ∧ ((entries.lookup name).getD (directory [])).Reaches steps

/-- Removes what is at the end of some steps.
-/
def prune : FileTree → List String → FileTree
  | tree, [] => tree
  | file content, _ :: _ => file content
  | directory entries, [name] => directory (entries.filter (·.1 != name))
  | directory entries, name :: step :: steps =>
    match entries.lookup name with
    | none => directory entries
    | some child => directory (setEntry name (child.prune (step :: steps)) entries)

-----------------------------------------------------------------------------------------
-- Entries
-----------------------------------------------------------------------------------------

/-- The value of a name is that of the first entry with this name.
-/
theorem lookup_cons_eq_ite {α : Type} (first other : String) (value : α)
    (rest : List (String × α))
    : ((first, value) :: rest).lookup other
      = if other = first then some value else rest.lookup other := by
  by_cases same : other = first
  · simp [same]
  · simp [List.lookup_cons, beq_false_of_ne same, same]

/-- The tree of a name after an entry was set.
-/
theorem lookup_setEntry (name other : String) (tree : FileTree)
    (entries : List (String × FileTree))
    : (setEntry name tree entries).lookup other
      = if other = name then some tree else entries.lookup other := by
  induction entries with
  | nil => rw [setEntry, lookup_cons_eq_ite]
  | cons head rest ih =>
      obtain ⟨first, old⟩ := head
      rw [setEntry]
      by_cases here : first = name
      · subst here
        rw [if_pos rfl, lookup_cons_eq_ite, lookup_cons_eq_ite]
        split <;> rfl
      · rw [if_neg here, lookup_cons_eq_ite, lookup_cons_eq_ite, ih]
        by_cases found : other = first
        · subst found
          simp [here]
        · simp [found]

/-- The last tree that is set counts.
-/
theorem setEntry_setEntry (name : String) (tree other : FileTree)
    (entries : List (String × FileTree))
    : setEntry name other (setEntry name tree entries) = setEntry name other entries := by
  induction entries with
  | nil => simp [setEntry]
  | cons head rest ih =>
      obtain ⟨first, old⟩ := head
      by_cases here : first = name <;> simp [setEntry, here, ih]

/-- A name that is removed need not be set before.
-/
theorem filter_setEntry (name : String) (tree : FileTree) (entries : List (String × FileTree))
    : (setEntry name tree entries).filter (·.1 != name) = entries.filter (·.1 != name) := by
  induction entries with
  | nil => simp [setEntry]
  | cons head rest ih =>
      obtain ⟨first, old⟩ := head
      by_cases here : first = name <;> simp [setEntry, here, ih]

/-- The trees of other names stay when one is removed.
-/
theorem lookup_filter (name other : String) (entries : List (String × FileTree))
    : (entries.filter (·.1 != name)).lookup other
      = if other = name then none else entries.lookup other := by
  induction entries with
  | nil => simp
  | cons head rest ih =>
      obtain ⟨first, old⟩ := head
      rw [List.filter_cons, lookup_cons_eq_ite]
      by_cases here : first = name
      · subst here
        rw [if_neg (by simp), ih]
        by_cases same : other = first <;> simp [same]
      · rw [if_pos (by simpa using here), lookup_cons_eq_ite, ih]
        by_cases found : other = first
        · subst found
          simp [here]
        · simp [found]

/-- Nothing is removed under a name that does not exist.
-/
theorem filter_of_lookup_eq_none {entries : List (String × FileTree)}
    (absent : entries.lookup name = none)
    : entries.filter (·.1 != name) = entries := by
  induction entries with
  | nil => rfl
  | cons head rest ih =>
      obtain ⟨first, old⟩ := head
      rw [lookup_cons_eq_ite] at absent
      split at absent
      · cases absent
      · next different =>
        rw [List.filter_cons, if_pos (by simpa using Ne.symm different), ih absent]

-----------------------------------------------------------------------------------------
-- Looking
-----------------------------------------------------------------------------------------

/-- What some steps lead to is found in the first of them.
-/
theorem get_cons_eq_ok_iff {entries : List (String × FileTree)} {found : FileTree}
    : (directory entries).get (name :: steps) = .ok found
      ↔ checkName name = .ok ()
        ∧ ∃ child, entries.lookup name = some child ∧ child.get steps = .ok found := by
  rw [get]
  cases checkName name with
  | error fault => simp [bind, Except.bind]
  | ok done =>
      cases entries.lookup name with
      | none => simp [bind, Except.bind]
      | some child => simp [bind, Except.bind]

/-- A file is found where its content is.
-/
theorem contentAt?_eq_some_iff {content : ByteArray}
    : tree.contentAt? steps = some content ↔ tree.get steps = .ok (file content) := by
  rw [contentAt?]
  split
  · next found => rw [found]; simp
  · next other =>
    constructor
    · intro none
      cases none
    · intro found
      exact absurd found (other content)

/-- Where something is found, no file is in the way.
-/
theorem reaches_of_get_eq_ok {found : FileTree} (there : tree.get steps = .ok found)
    : tree.Reaches steps ∧ tree.branch steps = found := by
  induction steps generalizing tree with
  | nil =>
      rw [get] at there
      exact ⟨trivial, by simpa [branch] using there⟩
  | cons name steps ih =>
      cases tree with
      | file content => cases there
      | directory entries =>
          obtain ⟨short, child, listed, inside⟩ := get_cons_eq_ok_iff.mp there
          obtain ⟨reaches, same⟩ := ih inside
          rw [Reaches, branch, listed]
          exact ⟨⟨short, reaches⟩, same⟩

/-- What has something in it is a directory.
-/
theorem exists_get_of_get_append {more : List String} {found : FileTree} (filled : more ≠ [])
    (there : tree.get (steps ++ more) = .ok found)
    : ∃ entries, tree.get steps = .ok (directory entries) := by
  induction steps generalizing tree with
  | nil =>
      obtain ⟨next, later, rfl⟩ := List.exists_cons_of_ne_nil filled
      cases tree with
      | file content => cases there
      | directory entries => exact ⟨entries, rfl⟩
  | cons name steps ih =>
      cases tree with
      | file content => cases there
      | directory entries =>
          obtain ⟨short, child, listed, inside⟩ := get_cons_eq_ok_iff.mp there
          obtain ⟨others, below⟩ := ih inside
          exact ⟨others, get_cons_eq_ok_iff.mpr ⟨short, child, listed, below⟩⟩

/-- An empty directory has no files.
-/
theorem contentAt?_directory_nil (steps : List String)
    : (directory []).contentAt? steps = none := by
  rw [Option.eq_none_iff_forall_ne_some]
  intro content found
  rw [contentAt?_eq_some_iff] at found
  cases steps with
  | nil => cases found
  | cons name steps =>
      obtain ⟨_, _, listed, _⟩ := get_cons_eq_ok_iff.mp found
      cases listed

/-- What is in a directory is in the entry that the first step names, which is as good as an empty
directory where there is none.
-/
theorem contentAt?_directory_cons (entries : List (String × FileTree)) (name : String)
    (steps : List String)
    : (directory entries).contentAt? (name :: steps)
      = if 255 < name.utf8ByteSize then
          none
        else
          ((entries.lookup name).getD (directory [])).contentAt? steps := by
  rw [contentAt?, get, checkName]
  by_cases long : 255 < name.utf8ByteSize
  · rw [if_pos long, if_pos long]
    rfl
  · rw [if_neg long, if_neg long]
    cases entries.lookup name with
    | none => exact (contentAt?_directory_nil steps).symm
    | some child => rfl

/-- Files stay when a tree is set in a directory, if those below its name do.
-/
theorem contentAt?_setEntry {entries : List (String × FileTree)} {child : FileTree}
    {other : List String}
    (below
      : ∀ others, other = name :: others
        → child.contentAt? others
          = ((entries.lookup name).getD (directory [])).contentAt? others)
    : (directory (setEntry name child entries)).contentAt? other
      = (directory entries).contentAt? other := by
  cases other with
  | nil => rfl
  | cons first others =>
      rw [contentAt?_directory_cons, contentAt?_directory_cons, lookup_setEntry]
      by_cases same : first = name
      · subst same
        rw [if_pos rfl, Option.getD_some, below others rfl]
      · rw [if_neg same]

-----------------------------------------------------------------------------------------
-- Grafting
-----------------------------------------------------------------------------------------

/-- What was put at the end of some steps is there.
-/
theorem get_graft_append (reaches : tree.Reaches steps) (part : FileTree) (more : List String)
    : (graft part tree steps).get (steps ++ more) = part.get more := by
  induction steps generalizing tree with
  | nil => rfl
  | cons name steps ih =>
      cases tree with
      | file content => exact reaches.elim
      | directory entries =>
          obtain ⟨short, further⟩ := reaches
          rw [graft, List.cons_append, get, short, lookup_setEntry, if_pos rfl]
          exact ih further

/-- The last tree that is put somewhere counts.
-/
theorem graft_graft (part other tree : FileTree) (steps : List String)
    : graft other (graft part tree steps) steps = graft other tree steps := by
  induction steps generalizing tree with
  | nil => rfl
  | cons name steps ih =>
      cases tree with
      | file content => rfl
      | directory entries =>
          simp only [graft, lookup_setEntry, if_pos, Option.getD_some, setEntry_setEntry, ih]

/-- What was put at the end of some steps can be reached.
-/
theorem Reaches.graft (reaches : tree.Reaches steps) (part : FileTree)
    : (graft part tree steps).Reaches steps ∧ (graft part tree steps).branch steps = part := by
  have there := get_graft_append reaches part []
  rw [List.append_nil, get] at there
  exact reaches_of_get_eq_ok there

/-- Files elsewhere stay when a tree is put somewhere.
-/
theorem contentAt?_graft_of_not_isPrefix {other : List String} (apart : ¬ steps <+: other)
    : (graft part tree steps).contentAt? other = tree.contentAt? other := by
  induction steps generalizing tree other with
  | nil => exact absurd List.nil_prefix apart
  | cons name steps ih =>
      cases tree with
      | file content => rfl
      | directory entries =>
          rw [graft]
          refine contentAt?_setEntry fun others same => ih fun starts => apart ?_
          rw [same]
          exact List.cons_prefix_cons.mpr ⟨rfl, starts⟩

-----------------------------------------------------------------------------------------
-- Making directories
-----------------------------------------------------------------------------------------

/-- Directories below some steps are made in what is there.
-/
theorem makeDirectories_append (reaches : tree.Reaches steps) (more : List String)
    : tree.makeDirectories (steps ++ more)
      = (graft ((tree.branch steps).makeDirectories more).1 tree steps,
          ((tree.branch steps).makeDirectories more).2) := by
  induction steps generalizing tree with
  | nil => rfl
  | cons name steps ih =>
      cases tree with
      | file content => exact reaches.elim
      | directory entries =>
          obtain ⟨short, further⟩ := reaches
          rw [List.cons_append, makeDirectories, short, graft, branch]
          simp only [ih further]

/-- Directories are made only where no file is in the way.
-/
theorem reaches_of_makeDirectories {more : List String}
    (made : (tree.makeDirectories (steps ++ more)).2 = .ok ())
    : tree.Reaches steps := by
  induction steps generalizing tree with
  | nil => trivial
  | cons name steps ih =>
      cases tree with
      | file content => cases made
      | directory entries =>
          rw [List.cons_append, makeDirectories] at made
          cases short : checkName name with
          | error fault =>
              rw [short] at made
              cases made
          | ok done =>
              rw [short] at made
              exact ⟨short, ih made⟩

/-- Files stay when directories are made.
-/
theorem contentAt?_makeDirectories (tree : FileTree) (steps other : List String)
    : (tree.makeDirectories steps).1.contentAt? other = tree.contentAt? other := by
  induction steps generalizing tree other with
  | nil => cases tree <;> rfl
  | cons name steps ih =>
      cases tree with
      | file content => rfl
      | directory entries =>
          rw [makeDirectories]
          cases checkName name with
          | error fault => rfl
          | ok done => exact contentAt?_setEntry fun others _ => ih _ others

-----------------------------------------------------------------------------------------
-- Changing what is there
-----------------------------------------------------------------------------------------

section Alter

variable {change : Option FileTree → Except FileFault (Option FileTree)}

/-- The entry of the only step is changed.
-/
theorem alter_singleton (short : checkName name = .ok ()) (entries : List (String × FileTree))
    : (directory entries).alter change [name]
      = (change (entries.lookup name)).map fun result =>
          directory <|
            result.elim (entries.filter (·.1 != name)) fun tree => setEntry name tree entries := by
  rw [alter.eq_def]
  simp only [short, bind, Except.bind]
  cases change (entries.lookup name) with
  | error fault => rfl
  | ok result => cases result <;> rfl

/-- Behind the first step something changes in its entry.
-/
theorem alter_cons_cons (short : checkName name = .ok ()) {entries : List (String × FileTree)}
    {child : FileTree} (listed : entries.lookup name = some child) (next : String)
    (steps : List String)
    : (directory entries).alter change (name :: next :: steps)
      = (child.alter change (next :: steps)).map fun changed =>
          directory (setEntry name changed entries) := by
  rw [alter.eq_def]
  simp only [short, listed, bind, Except.bind]
  cases child.alter change (next :: steps) with
  | error fault => rfl
  | ok changed => rfl

/-- A change in a directory is one of the entry that the only step names, or one in the entry of the
first step.
-/
theorem alter_directory_cases {entries : List (String × FileTree)} {after : FileTree}
    (altered : (directory entries).alter change (name :: steps) = .ok after)
    : checkName name = .ok ()
      ∧ ((steps = []
          ∧ ∃ result,
              change (entries.lookup name) = .ok result
              ∧ after
                = directory (result.elim (entries.filter (·.1 != name)) fun tree =>
                    setEntry name tree entries))
        ∨ ∃ child changed,
            entries.lookup name = some child
            ∧ steps ≠ []
            ∧ child.alter change steps = .ok changed
            ∧ after = directory (setEntry name changed entries)) := by
  cases short : checkName name with
  | error fault =>
      rw [alter.eq_def] at altered
      simp [short, bind, Except.bind] at altered
  | ok done =>
      refine ⟨rfl, ?_⟩
      cases steps with
      | nil =>
          rw [alter_singleton short, map_eq_ok_iff] at altered
          obtain ⟨result, changed, rfl⟩ := altered
          exact .inl ⟨rfl, result, changed, rfl⟩
      | cons next later =>
          cases listed : entries.lookup name with
          | none =>
              rw [alter.eq_def] at altered
              simp [short, listed, bind, Except.bind] at altered
          | some child =>
              rw [alter_cons_cons short listed, map_eq_ok_iff] at altered
              obtain ⟨changed, inner, rfl⟩ := altered
              exact .inr ⟨child, changed, rfl, List.cons_ne_nil _ _, inner, rfl⟩

/-- What is changed behind some steps is changed in what was put there.
-/
theorem alter_graft_append (reaches : tree.Reaches steps) {more : List String}
    (filled : more ≠ [])
    : (graft part tree steps).alter change (steps ++ more)
      = (part.alter change more).map fun changed => graft changed tree steps := by
  induction steps generalizing tree with
  | nil =>
      rw [graft, List.nil_append]
      simp only [graft]
      cases part.alter change more <;> rfl
  | cons name steps ih =>
      cases tree with
      | file content => exact reaches.elim
      | directory entries =>
          obtain ⟨short, further⟩ := reaches
          obtain ⟨next, later, spelled⟩ :=
            List.exists_cons_of_ne_nil (List.append_ne_nil_of_right_ne_nil steps filled)
          have inner := ih further
          rw [spelled] at inner
          have listed := lookup_setEntry name name
            (graft part ((entries.lookup name).getD (directory [])) steps) entries
          rw [if_pos rfl] at listed
          rw [graft, List.cons_append, spelled, alter_cons_cons short listed, inner]
          cases part.alter change more with
          | error fault => rfl
          | ok changed => simp only [Except.map, graft, setEntry_setEntry]

/-- A change of what some steps lead to puts something else there, or removes it.
-/
theorem alter_of_get_eq_ok {found : FileTree} (there : tree.get steps = .ok found)
    (filled : steps ≠ [])
    : tree.alter change steps
      = (change (some found)).map fun result =>
          result.elim (tree.prune steps) fun changed => graft changed tree steps := by
  induction steps generalizing tree with
  | nil => exact absurd rfl filled
  | cons name steps ih =>
      cases tree with
      | file content => cases there
      | directory entries =>
          obtain ⟨short, child, listed, inside⟩ := get_cons_eq_ok_iff.mp there
          cases steps with
          | nil =>
              cases inside
              rw [alter_singleton short, listed]
              cases change (some found) with
              | error fault => rfl
              | ok result => cases result <;> rfl
          | cons next later =>
              rw [alter_cons_cons short listed, ih inside (List.cons_ne_nil _ _)]
              cases change (some found) with
              | error fault => rfl
              | ok result => cases result <;> simp [Except.map, prune, graft, listed]

/-- A change that refuses to make something new finds something to change.
-/
theorem exists_get_of_alter {after : FileTree} (altered : tree.alter change steps = .ok after)
    (refuses : ∀ result, change none ≠ .ok result)
    : ∃ found, tree.get steps = .ok found := by
  induction steps generalizing tree after with
  | nil => cases tree <;> cases altered
  | cons name steps ih =>
      cases tree with
      | file content => cases altered
      | directory entries =>
          obtain ⟨short, ⟨rfl, result, changed, _⟩ | ⟨child, _, listed, _, inner, _⟩⟩ :=
            alter_directory_cases altered
          · cases listed : entries.lookup name with
            | none =>
                rw [listed] at changed
                exact absurd changed (refuses result)
            | some child => exact ⟨child, get_cons_eq_ok_iff.mpr ⟨short, child, listed, rfl⟩⟩
          · obtain ⟨found, there⟩ := ih inner
            exact ⟨found, get_cons_eq_ok_iff.mpr ⟨short, child, listed, there⟩⟩

/-- What a change puts somewhere is found there.
-/
theorem get_alter {after : FileTree}
    (places : ∀ found result, change found = .ok result → result = some part)
    (altered : tree.alter change steps = .ok after)
    : after.get steps = .ok part := by
  induction steps generalizing tree after with
  | nil => cases tree <;> cases altered
  | cons name steps ih =>
      cases tree with
      | file content => cases altered
      | directory entries =>
          obtain ⟨short, ⟨rfl, result, changed, rfl⟩ | ⟨_, changed, _, _, inner, rfl⟩⟩ :=
            alter_directory_cases altered
          · obtain rfl := places _ _ changed
            refine get_cons_eq_ok_iff.mpr ⟨short, part, ?_, rfl⟩
            rw [Option.elim, lookup_setEntry, if_pos rfl]
          · refine get_cons_eq_ok_iff.mpr ⟨short, changed, ?_, ih inner⟩
            rw [lookup_setEntry, if_pos rfl]

/-- Files elsewhere stay when a change puts a file somewhere and refuses to replace directories.
-/
theorem contentAt?_alter_of_ne {content : ByteArray} {after : FileTree} {other : List String}
    (places : ∀ found result, change found = .ok result
      → result = some (file content) ∧ ∀ entries, found ≠ some (directory entries))
    (altered : tree.alter change steps = .ok after) (different : other ≠ steps)
    : after.contentAt? other = tree.contentAt? other := by
  induction steps generalizing tree after other with
  | nil => cases tree <;> cases altered
  | cons name steps ih =>
      cases tree with
      | file old => cases altered
      | directory entries =>
          obtain ⟨_, ⟨rfl, result, changed, rfl⟩ | ⟨child, changed, listed, _, inner, rfl⟩⟩ :=
            alter_directory_cases altered
          · obtain ⟨rfl, plain⟩ := places _ _ changed
            refine contentAt?_setEntry fun others same => ?_
            cases others with
            | nil => exact absurd same different
            | cons next later =>
                -- A file has no files below it, and a directory was refused.
                cases there : entries.lookup name with
                | none => exact (contentAt?_directory_nil _).symm
                | some old =>
                    cases old with
                    | file replaced => rfl
                    | directory inside => exact absurd there (plain inside)
          · refine contentAt?_setEntry fun others same => ?_
            rw [listed, Option.getD_some]
            exact ih inner fun here => different (by rw [same, here])

end Alter

-----------------------------------------------------------------------------------------
-- Removing
-----------------------------------------------------------------------------------------

/-- Files elsewhere stay when something is removed.
-/
theorem contentAt?_prune_of_not_isPrefix {other : List String} (apart : ¬ steps <+: other)
    : (tree.prune steps).contentAt? other = tree.contentAt? other := by
  induction steps generalizing tree other with
  | nil => exact absurd List.nil_prefix apart
  | cons name steps ih =>
      cases tree with
      | file content => rfl
      | directory entries =>
          cases steps with
          | nil =>
              cases other with
              | nil => rfl
              | cons first others =>
                  have different : first ≠ name := fun same =>
                    apart (List.cons_prefix_cons.mpr ⟨same.symm, List.nil_prefix⟩)
                  rw [prune, contentAt?_directory_cons, contentAt?_directory_cons, lookup_filter,
                    if_neg different]
          | cons next later =>
              rw [prune]
              cases listed : entries.lookup name with
              | none => rfl
              | some child =>
                  refine contentAt?_setEntry fun others same => ?_
                  rw [listed, Option.getD_some]
                  refine ih fun starts => apart ?_
                  rw [same]
                  exact List.cons_prefix_cons.mpr ⟨rfl, starts⟩

/-- What was removed is not found.
-/
theorem get_prune_ne_ok (filled : steps ≠ []) (found : FileTree)
    : (tree.prune steps).get steps ≠ .ok found := by
  induction steps generalizing tree with
  | nil => exact absurd rfl filled
  | cons name steps ih =>
      cases tree with
      | file content => exact fun there => by cases there
      | directory entries =>
          cases steps with
          | nil =>
              rw [prune]
              intro there
              obtain ⟨_, child, listed, _⟩ := get_cons_eq_ok_iff.mp there
              rw [lookup_filter, if_pos rfl] at listed
              cases listed
          | cons next later =>
              rw [prune]
              cases listed : entries.lookup name with
              | none =>
                  intro there
                  obtain ⟨_, child, too, _⟩ := get_cons_eq_ok_iff.mp there
                  rw [listed] at too
                  cases too
              | some child =>
                  intro there
                  obtain ⟨_, other, too, inside⟩ := get_cons_eq_ok_iff.mp there
                  rw [lookup_setEntry, if_pos rfl] at too
                  cases too
                  exact ih (List.cons_ne_nil _ _) inside

/-- A directory stays one when something in it is removed.
-/
theorem exists_get_prune_append {more : List String} {entries : List (String × FileTree)}
    (filled : more ≠ []) (there : tree.get steps = .ok (directory entries))
    : ∃ others, (tree.prune (steps ++ more)).get steps = .ok (directory others) := by
  induction steps generalizing tree with
  | nil =>
      cases there
      obtain ⟨name, later, rfl⟩ := List.exists_cons_of_ne_nil filled
      cases later with
      | nil => exact ⟨_, rfl⟩
      | cons next later =>
          rw [List.nil_append, prune]
          split <;> exact ⟨_, rfl⟩
  | cons name steps ih =>
      cases tree with
      | file content => cases there
      | directory listing =>
          obtain ⟨short, child, listed, inside⟩ := get_cons_eq_ok_iff.mp there
          obtain ⟨others, below⟩ := ih inside
          obtain ⟨next, later, spelled⟩ :=
            List.exists_cons_of_ne_nil (List.append_ne_nil_of_right_ne_nil steps filled)
          rw [List.cons_append, spelled, prune, listed, ← spelled]
          refine ⟨others, get_cons_eq_ok_iff.mpr ⟨short, _, ?_, below⟩⟩
          rw [lookup_setEntry, if_pos rfl]

/-- What was removed can be made again.
-/
theorem Reaches.prune (reaches : tree.Reaches steps) : (tree.prune steps).Reaches steps := by
  induction steps generalizing tree with
  | nil => trivial
  | cons name steps ih =>
      cases tree with
      | file content => exact reaches
      | directory entries =>
          obtain ⟨short, further⟩ := reaches
          cases steps with
          | nil => exact ⟨short, trivial⟩
          | cons next later =>
              rw [FileTree.prune]
              cases listed : entries.lookup name with
              | none => exact ⟨short, further⟩
              | some child =>
                  rw [listed] at further
                  refine ⟨short, ?_⟩
                  rw [lookup_setEntry, if_pos rfl]
                  exact ih further

/-- There is nothing in an empty directory.
-/
theorem branch_directory_nil (steps : List String)
    : (directory []).branch steps = directory [] := by
  induction steps with
  | nil => rfl
  | cons name steps ih => exact ih

/-- Where nothing is found, there is as much as in an empty directory.
-/
theorem branch_of_get_ne_ok (reaches : tree.Reaches steps)
    (absent : ∀ found, tree.get steps ≠ .ok found)
    : tree.branch steps = directory [] := by
  induction steps generalizing tree with
  | nil => exact absurd rfl (absent tree)
  | cons name steps ih =>
      cases tree with
      | file content => exact reaches.elim
      | directory entries =>
          obtain ⟨short, further⟩ := reaches
          rw [branch]
          cases listed : entries.lookup name with
          | none => exact branch_directory_nil steps
          | some child =>
              rw [listed] at further
              refine ih further fun found inside => ?_
              exact absent found (get_cons_eq_ok_iff.mpr ⟨short, child, listed, inside⟩)

/-- What was put where nothing was can be removed, and it is the same as before when something is
put there again.
-/
theorem graft_prune_graft {other : FileTree} (reaches : tree.Reaches steps) (filled : steps ≠ [])
    (absent : ∀ found, tree.get steps ≠ .ok found)
    : graft other ((graft part tree steps).prune steps) steps = graft other tree steps := by
  induction steps generalizing tree with
  | nil => exact absurd rfl filled
  | cons name steps ih =>
      cases tree with
      | file content => exact reaches.elim
      | directory entries =>
          obtain ⟨short, further⟩ := reaches
          cases steps with
          | nil =>
              have fresh : entries.lookup name = none := by
                rw [Option.eq_none_iff_forall_ne_some]
                intro child listed
                exact absent child (get_cons_eq_ok_iff.mpr ⟨short, child, listed, rfl⟩)
              simp only [graft, FileTree.prune, filter_setEntry, filter_of_lookup_eq_none fresh]
          | cons next later =>
              have listed := lookup_setEntry name name
                (graft part ((entries.lookup name).getD (directory [])) (next :: later)) entries
              rw [if_pos rfl] at listed
              rw [graft, FileTree.prune, listed]
              simp only [graft, lookup_setEntry, if_pos, Option.getD_some, setEntry_setEntry]
              congr 2
              refine ih further (List.cons_ne_nil _ _) fun found inside => ?_
              cases known : entries.lookup name with
              | none =>
                  rw [known] at inside
                  obtain ⟨_, child, there, _⟩ := get_cons_eq_ok_iff.mp inside
                  cases there
              | some child =>
                  rw [known] at inside
                  exact absent found (get_cons_eq_ok_iff.mpr ⟨short, child, known, inside⟩)

/-- A directory is emptied where one is found.
-/
theorem emptyDirectory_eq_ok_iff {after : FileTree} (filled : steps ≠ [])
    : tree.emptyDirectory steps = .ok after
      ↔ (∃ entries, tree.get steps = .ok (directory entries))
        ∧ after = graft (directory []) tree steps := by
  obtain ⟨name, later, rfl⟩ := List.exists_cons_of_ne_nil filled
  rw [emptyDirectory]
  constructor
  · intro emptied
    obtain ⟨found, there⟩ := exists_get_of_alter emptied fun result made => by cases made
    rw [alter_of_get_eq_ok there filled] at emptied
    cases found with
    | file content => cases emptied
    | directory entries =>
        cases emptied
        exact ⟨⟨entries, there⟩, rfl⟩
  · rintro ⟨⟨entries, there⟩, rfl⟩
    rw [alter_of_get_eq_ok there filled]
    rfl

/-- A directory is removed where one is found.
-/
theorem removeDirectory_of_get_eq_ok {entries : List (String × FileTree)}
    (there : tree.get steps = .ok (directory entries)) (filled : steps ≠ [])
    : tree.removeDirectory steps = .ok (tree.prune steps) := by
  rw [removeDirectory, alter_of_get_eq_ok there filled]
  rfl

end Tablewright.FileTree
