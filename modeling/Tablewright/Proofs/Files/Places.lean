import Tablewright.Proofs.Checks
import Tablewright.Proofs.Files.Paths
import Tablewright.Proofs.Files.Storing

/-! What paths name in a tree, and what is done to the tree through them. Where a path leads is
seen from the path alone; the tree only decides whether it leads there.
-/

namespace Tablewright.FileTree

variable {tree after : FileTree} {path : String} {here steps done result : List String}

-----------------------------------------------------------------------------------------
-- Where paths lead
-----------------------------------------------------------------------------------------

/-- A name leads into what it names.
-/
theorem resolve_cons {name : String} (forward : name ≠ "..")
    : tree.resolve done (name :: steps) = tree.resolve (done ++ [name]) steps := by
  rw [resolve]
  exact fun upward => forward upward

/-- A step upwards is taken from a directory.
-/
theorem resolve_upward_eq_ok_iff
    : tree.resolve done (".." :: steps) = .ok result
      ↔ (∃ entries, tree.get done = .ok (directory entries))
        ∧ tree.resolve done.dropLast steps = .ok result := by
  rw [resolve, bind_eq_ok_iff]
  constructor
  · rintro ⟨found, there, followed⟩
    cases found with
    | file content => cases followed
    | directory entries => exact ⟨⟨entries, there⟩, followed⟩
  · rintro ⟨⟨entries, there⟩, followed⟩
    exact ⟨_, there, followed⟩

/-- Steps that do not lead upwards are followed one after the other.
-/
theorem resolve_of_notMem (forward : ".." ∉ steps)
    : tree.resolve done steps = .ok (done ++ steps) := by
  induction steps generalizing done with
  | nil => rw [resolve, List.append_nil]
  | cons name steps ih =>
      obtain ⟨different, others⟩ := List.ne_and_not_mem_of_not_mem_cons forward
      rw [resolve_cons different.symm, ih others, List.append_assoc]
      rfl

/-- In two trees the same steps lead to the same place, if they lead anywhere.
-/
theorem resolve_eq_of_eq_ok {other : FileTree} {second : List String}
    (one : tree.resolve done steps = .ok result) (two : other.resolve done steps = .ok second)
    : result = second := by
  induction steps generalizing done with
  | nil =>
      cases one
      cases two
      rfl
  | cons name steps ih =>
      by_cases upward : name = ".."
      · subst upward
        exact ih (resolve_upward_eq_ok_iff.mp one).2 (resolve_upward_eq_ok_iff.mp two).2
      · rw [resolve_cons upward] at one two
        exact ih one two

/-- The system takes the beginning of a path that it takes.
-/
theorem checkPath_of_isPrefix {start : String} (begins : start.toList <+: path.toList)
    (taken : checkPath path = .ok ())
    : checkPath start = .ok () := by
  obtain ⟨rest, whole⟩ := begins
  have split : path = start ++ String.ofList rest := by
    rw [← String.toList_inj, String.toList_append, String.toList_ofList, whole]
  subst split
  simp only [checkPath, String.toList_append, String.utf8ByteSize_append,
    List.contains_eq_mem, List.mem_append] at taken ⊢
  split at taken
  · cases taken
  · next clean =>
    split at taken
    · cases taken
    · next short =>
      rw [if_neg (by simp at clean ⊢; exact clean.1), if_neg (by omega)]

/-- A path leads somewhere when the system takes it and its steps lead there.
-/
theorem locate_eq_ok_iff
    : tree.locate here path = .ok result
      ↔ checkPath path = .ok ()
        ∧ path ≠ ""
        ∧ tree.resolve (Path.start here path) (Path.steps path) = .ok result := by
  rw [locate, check_bind_eq_ok_iff]
  refine and_congr_right fun _ => ?_
  by_cases empty : path = ""
  · simp [empty]
  · simp [empty]

/-- In two trees a path leads to the same place, if it leads anywhere.
-/
theorem locate_eq_of_eq_ok {other : FileTree} {second : List String}
    (one : tree.locate here path = .ok result) (two : other.locate here path = .ok second)
    : result = second :=
  resolve_eq_of_eq_ok (locate_eq_ok_iff.mp one).2.2 (locate_eq_ok_iff.mp two).2.2

/-- An ordinary path leads where its steps do, in whatever tree.
-/
theorem locate_eq_ok_iff_of_ordinary (ordinary : Path.Ordinary path)
    : tree.locate here path = .ok result
      ↔ checkPath path = .ok () ∧ result = Path.place here path := by
  rw [locate_eq_ok_iff, resolve_of_notMem ordinary.notMem_steps]
  simp [Path.place, ordinary.ne_empty, eq_comm]

-----------------------------------------------------------------------------------------
-- What paths name
-----------------------------------------------------------------------------------------

/-- A path names a file when it leads to one and does not ask for a directory.
-/
theorem open?_eq_file_iff {content : ByteArray}
    : tree.open? here path = .ok (file content)
      ↔ Path.isDirectoryOnly path = false
        ∧ ∃ steps, tree.locate here path = .ok steps ∧ tree.contentAt? steps = some content := by
  simp only [open?, bind_eq_ok_iff, contentAt?_eq_some_iff]
  constructor
  · rintro ⟨steps, located, found, there, opened⟩
    cases found with
    | file old =>
        cases only : Path.isDirectoryOnly path with
        | true => simp [only] at opened
        | false =>
            simp [only] at opened
            exact ⟨rfl, steps, located, opened ▸ there⟩
    | directory entries => cases opened
  · rintro ⟨only, steps, located, there⟩
    refine ⟨steps, located, _, there, ?_⟩
    simp [only]

/-- An ordinary path names the directory that its steps lead to.
-/
theorem open?_of_get_eq_directory {entries : List (String × FileTree)}
    (ordinary : Path.Ordinary path) (taken : checkPath path = .ok ())
    (there : tree.get (Path.place here path) = .ok (directory entries))
    : tree.open? here path = .ok (directory entries) := by
  rw [open?, bind_eq_ok_iff]
  refine ⟨_, (locate_eq_ok_iff_of_ordinary ordinary).mpr ⟨taken, rfl⟩, ?_⟩
  rw [bind_eq_ok_iff]
  exact ⟨_, there, rfl⟩

/-- The text of a file is read where the file is.
-/
theorem readText_eq_ok_iff {text : String}
    : tree.readText here path = .ok text
      ↔ ∃ content,
          tree.open? here path = .ok (file content) ∧ String.fromUTF8? content = some text := by
  rw [readText, bind_eq_ok_iff]
  constructor
  · rintro ⟨found, opened, read⟩
    cases found with
    | directory entries => cases read
    | file content =>
        refine ⟨content, opened, ?_⟩
        cases decoded : String.fromUTF8? content with
        | none => simp [decoded] at read
        | some found =>
            simp [decoded] at read
            rw [read]
  · rintro ⟨content, opened, decoded⟩
    refine ⟨_, opened, ?_⟩
    simp [decoded]

/-- All files of a tree are those of another one, or they have texts of some kind.
-/
def Renewed (Fresh : String → Prop) (before after : FileTree) : Prop :=
  ∀ steps content,
    after.contentAt? steps = some content
    → before.contentAt? steps = some content ∨ ∃ text, Fresh text ∧ content = text.toUTF8

/-- What is read where files were renewed is what was read there before, or a new text.
-/
theorem Renewed.eq_or_of_readText {before after : FileTree} {Fresh : String → Prop}
    (renewed : Renewed Fresh before after) {text other : String}
    (one : before.readText here path = .ok text)
    (two : after.readText here path = .ok other)
    : other = text ∨ Fresh other := by
  obtain ⟨content, opened, decoded⟩ := readText_eq_ok_iff.mp one
  obtain ⟨found, reopened, redecoded⟩ := readText_eq_ok_iff.mp two
  obtain ⟨_, steps, located, there⟩ := open?_eq_file_iff.mp opened
  obtain ⟨_, same, relocated, here⟩ := open?_eq_file_iff.mp reopened
  obtain rfl := locate_eq_of_eq_ok located relocated
  rcases renewed _ _ here with old | ⟨fresh, kind, rfl⟩
  · rw [there] at old
    cases old
    rw [decoded] at redecoded
    exact .inl (Option.some.inj redecoded).symm
  · have whole : String.fromUTF8? fresh.toUTF8 = some fresh := by
      simp only [String.fromUTF8?, String.toUTF8_eq_toByteArray, dif_pos fresh.isValidUTF8]
      rfl
    rw [whole] at redecoded
    exact .inr (Option.some.inj redecoded ▸ kind)

-----------------------------------------------------------------------------------------
-- What is done through paths
-----------------------------------------------------------------------------------------

/-- Steps that do not lead upwards are made one after the other.
-/
theorem makePath_of_notMem (forward : ".." ∉ steps)
    : tree.makePath done steps = tree.makeDirectories (done ++ steps) := by
  induction steps generalizing done with
  | nil => rw [makePath, List.append_nil]
  | cons name steps ih =>
      obtain ⟨different, others⟩ := List.ne_and_not_mem_of_not_mem_cons forward
      rw [makePath, ih others, List.append_assoc]
      · rfl
      · exact fun same => different same.symm

/-- What starts in the working directory finds that when it is a directory of the tree.
-/
theorem checkStart_eq_ok_iff
    : tree.checkStart steps = .ok () ↔ ∃ entries, tree.get steps = .ok (directory entries) := by
  rw [checkStart, bind_eq_ok_iff]
  constructor
  · rintro ⟨found, there, checked⟩
    cases found with
    | file content => cases checked
    | directory entries => exact ⟨entries, there⟩
  · rintro ⟨entries, there⟩
    exact ⟨_, there, rfl⟩

/-- The directories of a path that does not lead upwards are made when the system takes the path, and
when the working directory is there if the path starts in it.
-/
theorem createDirectories_eq_ok_iff (filled : path ≠ "") (forward : ".." ∉ Path.steps path)
    : tree.createDirectories here path = (after, .ok ())
      ↔ checkPath path = .ok ()
        ∧ tree.checkStart (Path.start here path) = .ok ()
        ∧ tree.makeDirectories (Path.place here path) = (after, .ok ()) := by
  have different : ¬ (path == "") = true := by simpa using filled
  rw [createDirectories, if_neg different, makePath_of_notMem forward, ← Path.place]
  cases checked : checkPath path with
  | error fault => simp [bind, Except.bind]
  | ok taken =>
      cases begun : tree.checkStart (Path.start here path) with
      | error fault => simp [bind, Except.bind]
      | ok found => simp [bind, Except.bind]

/-- A text is written through an ordinary path that does not ask for a directory.
-/
theorem writeText_eq_ok_iff {text : String} (ordinary : Path.Ordinary path)
    (only : Path.isDirectoryOnly path = false)
    : tree.writeText here path text = .ok after
      ↔ checkPath path = .ok () ∧ tree.setFile (Path.place here path) text.toUTF8 = .ok after := by
  simp only [writeText, bind_eq_ok_iff, locate_eq_ok_iff_of_ordinary ordinary, only]
  constructor
  · rintro ⟨_, ⟨taken, rfl⟩, set⟩
    exact ⟨taken, set⟩
  · rintro ⟨taken, set⟩
    exact ⟨_, ⟨taken, rfl⟩, set⟩

/-- A directory that an ordinary path names is removed as a whole: it is emptied and then taken out
of the one that it is in.
-/
theorem clear_eq_ok_iff (ordinary : Path.Ordinary path)
    : tree.clear here path = (after, .ok ())
      ↔ checkPath path = .ok ()
        ∧ (∃ entries, tree.get (Path.place here path) = .ok (directory entries))
        ∧ after = (graft (directory []) tree (Path.place here path)).prune (Path.place here path) := by
  have filled := ordinary.place_ne_nil here
  have emptied {smaller : FileTree}
      : (do tree.emptyDirectory (← tree.locate here path)) = .ok smaller
        ↔ checkPath path = .ok ()
          ∧ (∃ entries, tree.get (Path.place here path) = .ok (directory entries))
          ∧ smaller = graft (directory []) tree (Path.place here path) := by
    rw [bind_eq_ok_iff]
    simp only [locate_eq_ok_iff_of_ordinary ordinary]
    constructor
    · rintro ⟨_, ⟨taken, rfl⟩, done⟩
      exact ⟨taken, (emptyDirectory_eq_ok_iff filled).mp done⟩
    · rintro ⟨taken, done⟩
      exact ⟨_, ⟨taken, rfl⟩, (emptyDirectory_eq_ok_iff filled).mpr done⟩
  rw [clear]
  cases first : (do tree.emptyDirectory (← tree.locate here path)) with
  | error fault =>
      constructor
      · intro cleared
        cases cleared
      · rintro ⟨taken, there, rfl⟩
        rw [emptied.mpr ⟨taken, there, rfl⟩] at first
        cases first
  | ok smaller =>
      obtain ⟨taken, there, rfl⟩ := emptied.mp first
      have removed : (graft (directory []) tree (Path.place here path)).removeEmptied here path
          = .ok ((graft (directory []) tree (Path.place here path)).prune (Path.place here path)) := by
        obtain ⟨entries, listed⟩ := there
        have empty := get_graft_append (reaches_of_get_eq_ok listed).1 (directory []) []
        rw [List.append_nil, get] at empty
        have plain : ¬ ((Path.splitEnd path).2 = "." ∨ (Path.splitEnd path).2 = "..") :=
          not_or.mpr ordinary.splitEnd
        simp only [removeEmptied, if_neg plain]
        rw [bind_eq_ok_iff]
        exact ⟨_, (locate_eq_ok_iff_of_ordinary ordinary).mpr ⟨taken, rfl⟩,
          removeDirectory_of_get_eq_ok empty filled⟩
      simp only [removed, taken, there, true_and, Prod.mk.injEq, and_true]
      exact eq_comm

end Tablewright.FileTree
