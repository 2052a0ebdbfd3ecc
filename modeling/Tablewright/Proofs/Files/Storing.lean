import Tablewright.Proofs.Files.Trees

/-! Storing files together with the directories above them: what is stored somewhere is stored in
what is there, whatever surrounds it.
-/

namespace Tablewright.FileTree

variable {tree part : FileTree} {steps : List String}

/-- Sets the content of a file and makes the directories above it.
-/
def storeFile (tree : FileTree) (steps : List String) (content : ByteArray)
    : Except FileFault FileTree :=
  match tree.makeDirectories steps.dropLast with
  | (made, .ok _) => made.setFile steps content
  | (_, .error fault) => .error fault

/-- Sets the contents of files, one after the other.
-/
def storeFiles (tree : FileTree)
    : List (List String × ByteArray) → Except FileFault FileTree
  | [] => .ok tree
  | (steps, content) :: rest => do (← tree.storeFile steps content).storeFiles rest

/-- A file is stored when the directories above it can be made and it can be set there.
-/
theorem storeFile_eq_ok_iff {content : ByteArray} {after : FileTree}
    : tree.storeFile steps content = .ok after
      ↔ ∃ made,
          tree.makeDirectories steps.dropLast = (made, .ok ())
          ∧ made.setFile steps content = .ok after := by
  rw [storeFile]
  split
  · next made _ done =>
    simp [done]
  · next fault failed =>
    simp [failed]

/-- To set a file is to change what is there, unless that is a directory.
-/
theorem exists_alter_of_setFile {content : ByteArray} {after : FileTree}
    (set : tree.setFile steps content = .ok after)
    : ∃ change,
        tree.alter change steps = .ok after
        ∧ ∀ found result, change found = .ok result
          → result = some (file content) ∧ ∀ entries, found ≠ some (directory entries) := by
  cases steps with
  | nil => cases set
  | cons name later =>
      refine ⟨_, set, fun found result placed => ?_⟩
      split at placed
      · cases placed
      · next plain =>
        cases placed
        exact ⟨rfl, fun entries same => plain entries same⟩

/-- A file is set in the place of a file or where nothing is, and everything else stays.
-/
theorem contentAt?_setFile {content : ByteArray} {after : FileTree}
    (set : tree.setFile steps content = .ok after) (other : List String)
    : after.contentAt? other = if other = steps then some content else tree.contentAt? other := by
  obtain ⟨change, altered, places⟩ := exists_alter_of_setFile set
  by_cases same : other = steps
  · rw [if_pos same, same]
    exact contentAt?_eq_some_iff.mpr
      (get_alter (fun found result placed => (places found result placed).1) altered)
  · rw [if_neg same]
    exact contentAt?_alter_of_ne places altered same

/-- A file below some steps is set in what was put there.
-/
theorem setFile_graft_append (reaches : tree.Reaches steps) {more : List String}
    (filled : more ≠ []) (content : ByteArray)
    : (graft part tree steps).setFile (steps ++ more) content
      = (part.setFile more content).map fun changed => graft changed tree steps := by
  obtain ⟨next, later, rfl⟩ := List.exists_cons_of_ne_nil filled
  obtain ⟨first, others, spelled⟩ :=
    List.exists_cons_of_ne_nil (List.append_ne_nil_of_right_ne_nil steps filled)
  rw [spelled, setFile, setFile, ← spelled]
  exact alter_graft_append reaches filled

/-- Files below some steps are stored in what is there.
-/
theorem storeFile_append (reaches : tree.Reaches steps) {more : List String}
    (filled : more ≠ []) (content : ByteArray)
    : tree.storeFile (steps ++ more) content
      = ((tree.branch steps).storeFile more content).map fun changed =>
          graft changed tree steps := by
  rw [storeFile, storeFile, List.dropLast_append_of_ne_nil filled,
    makeDirectories_append reaches]
  cases made : (tree.branch steps).makeDirectories more.dropLast with
  | mk part result =>
      cases result with
      | error fault => rfl
      | ok done => exact setFile_graft_append reaches filled content

/-- A file is stored only where no other one is in the way.
-/
theorem reaches_of_storeFile {more : List String} {content : ByteArray} {after : FileTree}
    (filled : more ≠ []) (stored : tree.storeFile (steps ++ more) content = .ok after)
    : tree.Reaches steps := by
  rw [storeFile, List.dropLast_append_of_ne_nil filled] at stored
  split at stored
  · next made _ done => exact reaches_of_makeDirectories (congrArg Prod.snd done)
  · cases stored

/-- Nothing is stored in a file.
-/
theorem storeFile_file_ne_ok {old content : ByteArray} (after : FileTree)
    : (file old).storeFile steps content ≠ .ok after := by
  intro stored
  obtain ⟨made, first, _⟩ := storeFile_eq_ok_iff.mp stored
  cases above : steps.dropLast with
  | nil => rw [above] at first; cases first
  | cons name later => rw [above] at first; cases first

/-- What is stored is found, and all other files stay.
-/
theorem contentAt?_storeFile {content : ByteArray} {after : FileTree}
    (stored : tree.storeFile steps content = .ok after) (other : List String)
    : after.contentAt? other = if other = steps then some content else tree.contentAt? other := by
  rw [storeFile] at stored
  split at stored
  · next made _ done =>
    have kept := contentAt?_makeDirectories tree steps.dropLast other
    rw [contentAt?_setFile stored, ← kept, done]
  · cases stored

/-- What a file is stored below is a directory then.
-/
theorem exists_get_of_storeFile {more : List String} {content : ByteArray} {after : FileTree}
    (filled : more ≠ []) (stored : tree.storeFile (steps ++ more) content = .ok after)
    : ∃ entries, after.get steps = .ok (directory entries) := by
  have found := contentAt?_storeFile stored (steps ++ more)
  rw [if_pos rfl] at found
  exact exists_get_of_get_append filled (contentAt?_eq_some_iff.mp found)

section Several

variable {files : List (List String × ByteArray)}

/-- Files are stored one after the other.
-/
theorem storeFiles_cons_eq_ok_iff {content : ByteArray} {after : FileTree}
    : tree.storeFiles ((steps, content) :: files) = .ok after
      ↔ ∃ between, tree.storeFile steps content = .ok between
          ∧ between.storeFiles files = .ok after := by
  rw [storeFiles, bind_eq_ok_iff]

/-- Files below some steps are stored in what was put there.
-/
theorem storeFiles_graft (reaches : tree.Reaches steps) (filled : ∀ entry ∈ files, entry.1 ≠ [])
    : (graft part tree steps).storeFiles (files.map fun entry => (steps ++ entry.1, entry.2))
      = (part.storeFiles files).map fun changed => graft changed tree steps := by
  induction files generalizing part with
  | nil => rfl
  | cons head rest ih =>
      obtain ⟨first, others⟩ := List.forall_mem_cons.mp filled
      obtain ⟨again, there⟩ := reaches.graft part
      rw [List.map_cons, storeFiles, storeFile_append again first, there]
      cases stored : part.storeFile head.1 head.2 with
      | error fault => simp [storeFiles, stored, bind, Except.bind, Except.map]
      | ok changed =>
          simp [storeFiles, stored, bind, Except.bind, Except.map, graft_graft, ih others]

/-- Files below some steps are stored in what is there, when there are any.
-/
theorem storeFiles_append (reaches : tree.Reaches steps) (some : files ≠ [])
    (filled : ∀ entry ∈ files, entry.1 ≠ [])
    : tree.storeFiles (files.map fun entry => (steps ++ entry.1, entry.2))
      = ((tree.branch steps).storeFiles files).map fun changed => graft changed tree steps := by
  obtain ⟨head, rest, rfl⟩ := List.exists_cons_of_ne_nil some
  obtain ⟨first, others⟩ := List.forall_mem_cons.mp filled
  rw [List.map_cons, storeFiles, storeFile_append reaches first]
  cases stored : (tree.branch steps).storeFile head.1 head.2 with
  | error fault => simp [storeFiles, stored, bind, Except.bind, Except.map]
  | ok changed =>
      simp [storeFiles, stored, bind, Except.bind, Except.map, storeFiles_graft reaches others]

/-- Files are stored below some steps exactly when no file is in the way and they can be stored in
what is there.
-/
theorem storeFiles_append_eq_ok_iff (some : files ≠ []) (filled : ∀ entry ∈ files, entry.1 ≠ [])
    {after : FileTree}
    : tree.storeFiles (files.map fun entry => (steps ++ entry.1, entry.2)) = .ok after
      ↔ tree.Reaches steps
        ∧ ∃ part,
            (tree.branch steps).storeFiles files = .ok part ∧ after = graft part tree steps := by
  constructor
  · intro stored
    have reaches : tree.Reaches steps := by
      obtain ⟨head, rest, rfl⟩ := List.exists_cons_of_ne_nil some
      obtain ⟨between, first, _⟩ := storeFiles_cons_eq_ok_iff.mp stored
      exact reaches_of_storeFile (filled head List.mem_cons_self) first
    rw [storeFiles_append reaches some filled, map_eq_ok_iff] at stored
    obtain ⟨part, inside, rfl⟩ := stored
    exact ⟨reaches, part, inside, rfl⟩
  · rintro ⟨reaches, part, inside, rfl⟩
    rw [storeFiles_append reaches some filled, inside]
    rfl

/-- Nothing is stored below a file.
-/
theorem get_ne_ok_file_of_storeFiles (some : files ≠ []) (filled : ∀ entry ∈ files, entry.1 ≠ [])
    {after : FileTree}
    (stored : tree.storeFiles (files.map fun entry => (steps ++ entry.1, entry.2)) = .ok after)
    (content : ByteArray)
    : tree.get steps ≠ .ok (file content) := by
  intro there
  obtain ⟨_, part, inside, _⟩ := (storeFiles_append_eq_ok_iff some filled).mp stored
  obtain ⟨head, rest, rfl⟩ := List.exists_cons_of_ne_nil some
  rw [(reaches_of_get_eq_ok there).2] at inside
  obtain ⟨between, first, _⟩ := storeFiles_cons_eq_ok_iff.mp inside
  exact storeFile_file_ne_ok _ first

/-- Files stay where none is stored.
-/
theorem contentAt?_storeFiles_of_notMem {after : FileTree} {other : List String}
    (stored : tree.storeFiles files = .ok after) (apart : other ∉ files.map (·.1))
    : after.contentAt? other = tree.contentAt? other := by
  induction files generalizing tree with
  | nil =>
      cases stored
      rfl
  | cons head rest ih =>
      obtain ⟨between, begun, ended⟩ := storeFiles_cons_eq_ok_iff.mp stored
      obtain ⟨different, others⟩ := List.ne_and_not_mem_of_not_mem_cons apart
      rw [ih ended others, contentAt?_storeFile begun, if_neg different]

/-- Stored files are found, and all other files stay.
-/
theorem contentAt?_storeFiles {after : FileTree} (stored : tree.storeFiles files = .ok after)
    (distinct : (files.map (·.1)).Nodup) (other : List String) (content : ByteArray)
    : after.contentAt? other = some content
      ↔ (other, content) ∈ files
        ∨ other ∉ files.map (·.1) ∧ tree.contentAt? other = some content := by
  induction files generalizing tree with
  | nil =>
      cases stored
      simp
  | cons head rest ih =>
      obtain ⟨steps, first⟩ := head
      obtain ⟨between, begun, ended⟩ := storeFiles_cons_eq_ok_iff.mp stored
      obtain ⟨fresh, later⟩ := List.nodup_cons.mp distinct
      rw [ih ended later, contentAt?_storeFile begun]
      by_cases same : other = steps
      · subst same
        have absent : (other, content) ∉ rest := fun member =>
          fresh (List.mem_map.mpr ⟨_, member, rfl⟩)
        simp only [List.map_cons, List.mem_cons, absent, fresh]
        simp [eq_comm]
      · simp [same]

end Several

end Tablewright.FileTree
