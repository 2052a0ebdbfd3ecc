import Tablewright.Package.Write
import Tablewright.Proofs.Files.Places
import Tablewright.Proofs.Machines

/-! Writing a package into a directory: what is there afterwards, what stays, and that nothing
changes when the same package is written again.
-/

namespace Tablewright.Package

open FileTree

variable {network : (question : Http.Question) → Http.Answer question}
variable {machine after : Host.Machine} {directory name text : String}
variable {documents : List (String × String)}

/-- The files of documents: the names that lead to each, and its text in bytes.
-/
def filesOf (documents : List (String × String)) : List (List String × ByteArray) :=
  documents.map fun document => (Path.pieces document.1, document.2.toUTF8)

/-- A path without NUL, and not too long, as well as the path above it.
-/
def Writable (path : String) : Prop :=
  checkPath path = .ok () ∧ ∀ parent, Path.parent? path = some parent → checkPath parent = .ok ()

/-- A document is written after the directory above it is made.
-/
theorem run_writeDocument_eq_ok_iff {path parent : String} (above : Path.parent? path = some parent)
    : (writeDocument path text).run (Host.Machine.respond network) machine = (.ok (), after)
      ↔ ∃ made files,
          machine.files.createDirectories machine.directory parent = (made, .ok ())
          ∧ made.writeText machine.directory path text = .ok files
          ∧ after = { machine with files } := by
  rw [writeDocument, writeDocument.makeParent, above]
  simp only [Dialogue.run_bind, Host.createDirectories, Host.writeText, Dialogue.run,
    Host.Machine.respond]
  cases first : machine.files.createDirectories machine.directory parent with
  | mk made result =>
      cases result with
      | error fault => simp
      | ok done =>
          simp only [Dialogue.run_bind, Dialogue.run, Host.Machine.respond, Dialogue.run_pure]
          cases second : made.writeText machine.directory path text with
          | error fault => simp [second]
          | ok files => simp [second, eq_comm]

/-- A document is written when the system takes its path, the directory that the path starts in is
there, and its file can be stored.
-/
theorem run_writeDocument_join_eq_ok_iff (ordinary : Path.Ordinary directory)
    (named : Path.IsName name)
    : (writeDocument (Path.join directory name) text).run (Host.Machine.respond network) machine
        = (.ok (), after)
      ↔ (Writable (Path.join directory name)
          ∧ machine.files.checkStart (Path.start machine.directory directory) = .ok ())
        ∧ ∃ files,
            machine.files.storeFile (Path.place machine.directory directory ++ [name]) text.toUTF8
              = .ok files
            ∧ after = { machine with files } := by
  obtain ⟨parent, above, filled, begins, leads⟩ := Path.exists_parent?_join ordinary named
  have forward : ".." ∉ Path.steps parent := leads ▸ ordinary.notMem_steps
  have starts : Path.start machine.directory parent = Path.start machine.directory directory := by
    rw [Path.start, Path.start, begins]
  have place : Path.place machine.directory parent = Path.place machine.directory directory := by
    rw [Path.place, Path.place, starts, leads]
  rw [run_writeDocument_eq_ok_iff above, Writable]
  simp only [above, createDirectories_eq_ok_iff filled forward,
    writeText_eq_ok_iff (ordinary.join named) (Path.isDirectoryOnly_join ordinary.ne_empty named),
    storeFile_eq_ok_iff, List.dropLast_concat, starts, place,
    Path.place_join ordinary.ne_empty named, Option.some.injEq, forall_eq']
  constructor
  · rintro ⟨made, files, ⟨taken, begun, first⟩, ⟨too, second⟩, rfl⟩
    exact ⟨⟨⟨too, taken⟩, begun⟩, files, ⟨made, first, second⟩, rfl⟩
  · rintro ⟨⟨⟨too, taken⟩, begun⟩, files, ⟨made, first, second⟩, rfl⟩
    exact ⟨made, files, ⟨taken, begun, first⟩, ⟨too, second⟩, rfl⟩

/-- The path of a document below a directory ends with a name, and the names before it lead below
the directory.
-/
theorem exists_pathBelow_eq_join {path : String} (ordinary : Path.Ordinary directory)
    (plain : Path.Plain path)
    : ∃ above last,
        Path.pieces path = above ++ [last]
        ∧ (∀ name ∈ above, Path.IsName name)
        ∧ Path.IsName last
        ∧ Path.Ordinary (above.foldl Path.join directory)
        ∧ Path.isAbsolute (above.foldl Path.join directory) = Path.isAbsolute directory
        ∧ Path.steps (above.foldl Path.join directory) = Path.steps directory ++ above
        ∧ pathBelow directory path = Path.join (above.foldl Path.join directory) last := by
  obtain ⟨above, last, split⟩ :=
    (List.eq_nil_or_concat' (Path.pieces path)).resolve_left (Path.pieces_ne_nil path)
  rw [Path.Plain, split, List.forall_mem_append] at plain
  obtain ⟨names, ends⟩ := plain
  obtain ⟨further, begins, leads⟩ := ordinary.foldl_join names
  refine ⟨above, last, split, names, List.forall_mem_singleton.mp ends, further,
    Path.isAbsolute_eq_of_isPrefix ordinary.ne_empty begins, leads, ?_⟩
  change (Path.pieces path).foldl Path.join directory = _
  rw [split, List.foldl_concat]

/-- A document below a directory is written when the system takes its path, the directory that the
path starts in is there, and its file can be stored.
-/
theorem run_writeDocument_pathBelow_eq_ok_iff {path : String}
    (ordinary : Path.Ordinary directory) (plain : Path.Plain path)
    : (writeDocument (pathBelow directory path) text).run (Host.Machine.respond network) machine
        = (.ok (), after)
      ↔ (Writable (pathBelow directory path)
          ∧ machine.files.checkStart (Path.start machine.directory directory) = .ok ())
        ∧ ∃ files,
            machine.files.storeFile
                (Path.place machine.directory directory ++ Path.pieces path) text.toUTF8
              = .ok files
            ∧ after = { machine with files } := by
  obtain ⟨above, last, split, _, named, further, begins, leads, below⟩ :=
    exists_pathBelow_eq_join ordinary plain
  rw [below, run_writeDocument_join_eq_ok_iff further named, Path.place, Path.place, Path.start,
    Path.start, begins, leads, split, List.append_assoc, List.append_assoc, List.append_assoc]

/-- Documents are written one after the other.
-/
theorem run_writeDocuments_cons_eq_ok_iff {path : String}
    : (writeDocuments directory ((path, text) :: documents)).run (Host.Machine.respond network)
          machine
        = (.ok (), after)
      ↔ ∃ between,
          (writeDocument (pathBelow directory path) text).run (Host.Machine.respond network) machine
            = (.ok (), between)
          ∧ (writeDocuments directory documents).run (Host.Machine.respond network) between
            = (.ok (), after) := by
  rw [writeDocuments, Dialogue.run_bind]
  cases first : (writeDocument (pathBelow directory path) text).run
      (Host.Machine.respond network) machine with
  | mk result between => cases result <;> simp

/-- Documents are written when the system takes their paths, the directory that these start in is
there, and their files can be stored.
Witness: induction on the documents, each of which is written into what those before it leave.
-/
theorem run_writeDocuments_eq_ok_iff (ordinary : Path.Ordinary directory)
    (plain : ∀ document ∈ documents, Path.Plain document.1)
    : (writeDocuments directory documents).run (Host.Machine.respond network) machine
        = (.ok (), after)
      ↔ (∀ document ∈ documents,
          Writable (pathBelow directory document.1)
          ∧ machine.files.checkStart (Path.start machine.directory directory) = .ok ())
        ∧ ∃ files,
            machine.files.storeFiles
                ((filesOf documents).map fun entry =>
                  (Path.place machine.directory directory ++ entry.1, entry.2))
              = .ok files
            ∧ after = { machine with files } := by
  induction documents generalizing machine with
  | nil =>
      simp [writeDocuments, filesOf, storeFiles, eq_comm]
  | cons document rest ih =>
      obtain ⟨path, text⟩ := document
      obtain ⟨first, others⟩ := List.forall_mem_cons.mp plain
      simp only [run_writeDocuments_cons_eq_ok_iff,
        run_writeDocument_pathBelow_eq_ok_iff ordinary first, ih others, List.forall_mem_cons,
        filesOf, List.map_cons, storeFiles_cons_eq_ok_iff]
      constructor
      · rintro ⟨_, ⟨taken, between, stored, rfl⟩, later, files, ended, rfl⟩
        exact ⟨⟨taken, fun other member => ⟨(later other member).1, taken.2⟩⟩, files,
          ⟨between, stored, ended⟩, rfl⟩
      · rintro ⟨⟨taken, later⟩, files, ⟨between, stored, ended⟩, rfl⟩
        -- With a file below it, the directory is there for the others too.
        have begun : between.checkStart (Path.start machine.directory directory) = .ok () := by
          have below := stored
          rw [Path.place, List.append_assoc] at below
          exact checkStart_eq_ok_iff.mpr (exists_get_of_storeFile
            (List.append_ne_nil_of_left_ne_nil ordinary.steps_ne_nil _) below)
        exact ⟨_, ⟨taken, between, stored, rfl⟩,
          fun other member => ⟨(later other member).1, begun⟩, files, ended, rfl⟩

-----------------------------------------------------------------------------------------
-- Writing in place of what is there
-----------------------------------------------------------------------------------------

/-- Writing changes a tree so: below some steps, where nothing was found once the place was clear,
there is what comes of storing the files in an empty directory. All other files are as before.
-/
structure Planted (files : List (List String × ByteArray)) (steps : List String)
    (before base part after : FileTree)
    : Prop where
  reached : base.Reaches steps
  clear : ∀ found, base.get steps ≠ .ok found
  kept : ∀ other, ¬ steps <+: other → base.contentAt? other = before.contentAt? other
  stored : (FileTree.directory []).storeFiles files = .ok part
  planted : after = graft part base steps

/-- Files that are stored where nothing is found are planted there.
-/
theorem exists_planted_of_storeFiles {files : List (List String × ByteArray)} {steps : List String}
    {before base result : FileTree} (some : files ≠ []) (filled : ∀ entry ∈ files, entry.1 ≠ [])
    (absent : ∀ found, base.get steps ≠ .ok found)
    (kept : ∀ other, ¬ steps <+: other → base.contentAt? other = before.contentAt? other)
    (stored : base.storeFiles (files.map fun entry => (steps ++ entry.1, entry.2)) = .ok result)
    : ∃ part, Planted files steps before base part result := by
  obtain ⟨reaches, part, inside, rfl⟩ := (storeFiles_append_eq_ok_iff some filled).mp stored
  rw [branch_of_get_ne_ok reaches absent] at inside
  exact ⟨part, reaches, absent, kept, inside, rfl⟩

namespace Planted

variable {files : List (List String × ByteArray)} {steps other : List String}
variable {before base part result : FileTree} {content : ByteArray}
variable (planted : Planted files steps before base part result)
include planted

/-- The stored files are found behind the steps, and nothing else.
-/
theorem contentAt?_append_eq_some_iff (distinct : (files.map (·.1)).Nodup)
    : result.contentAt? (steps ++ other) = some content ↔ (other, content) ∈ files := by
  rw [planted.planted, contentAt?, get_graft_append planted.reached, ← contentAt?,
    contentAt?_storeFiles planted.stored distinct, contentAt?_directory_nil]
  simp

/-- Files elsewhere are as before.
-/
theorem contentAt?_of_not_isPrefix (apart : ¬ steps <+: other)
    : result.contentAt? other = before.contentAt? other := by
  rw [planted.planted, contentAt?_graft_of_not_isPrefix apart, planted.kept other apart]

/-- What is planted is a directory, where no file is stored without a name.
-/
theorem exists_get_eq_directory (filled : ∀ entry ∈ files, entry.1 ≠ [])
    : ∃ entries, result.get steps = .ok (.directory entries) := by
  have there := get_graft_append planted.reached part []
  rw [List.append_nil, FileTree.get, ← planted.planted] at there
  cases part with
  | directory entries => exact ⟨entries, there⟩
  | file content =>
      have unnamed : [] ∉ files.map (·.1) := by
        rintro member
        obtain ⟨entry, listed, empty⟩ := List.mem_map.mp member
        exact filled entry listed empty
      have none := contentAt?_storeFiles_of_notMem planted.stored unnamed
      rw [contentAt?_directory_nil] at none
      cases none

/-- When what is planted is removed and planted again, nothing has changed.
-/
theorem graft_prune (filled : steps ≠ [])
    : graft part ((graft (.directory []) result steps).prune steps) steps = result := by
  rw [planted.planted, graft_graft]
  exact graft_prune_graft planted.reached filled planted.clear

end Planted

/-- A package is written into a place that is cleared if there is anything.
-/
theorem run_write_eq_ok_iff {package : Package}
    : (package.write directory).run (Host.Machine.respond network) machine = (.ok (), after)
      ↔ ∃ cleared,
          (if (machine.files.open? machine.directory directory).isOk then
              machine.files.clear machine.directory directory = (cleared, .ok ())
            else
              cleared = machine.files)
          ∧ (writeDocuments directory package.documents.entries).run
                (Host.Machine.respond network) { machine with files := cleared }
              = (.ok (), after) := by
  rw [write]
  simp only [Dialogue.run_bind, Host.pathExists, Host.clear, Dialogue.run, Host.Machine.respond]
  by_cases there : (machine.files.open? machine.directory directory).isOk = true
  · simp only [there, if_true, Dialogue.run_bind, Dialogue.run, Host.Machine.respond]
    cases machine.files.clear machine.directory directory with
    | mk files result => cases result <;> simp
  · simp [there]

section Write

variable {package : Package} (ordinary : Path.Ordinary directory)
variable (plain : ∀ document ∈ package.documents.entries, Path.Plain document.1)
variable (some : package.documents.entries ≠ [])

/-- The files of documents have names.
-/
theorem filled_of_plain {entry : List String × ByteArray}
    (member : entry ∈ filesOf documents)
    : entry.1 ≠ [] := by
  obtain ⟨document, _, rfl⟩ := List.mem_map.mp member
  exact Path.pieces_ne_nil _

include ordinary plain some

omit some in
/-- The system takes the path of a directory when it takes those of the documents below it.
-/
theorem checkPath_of_writable {document : String × String}
    (member : document ∈ package.documents.entries)
    (taken : Writable (pathBelow directory document.1))
    : checkPath directory = .ok () :=
  checkPath_of_isPrefix (ordinary.foldl_join (plain document member)).2.1 taken.1

/-- A package that was written is planted.
-/
theorem exists_planted_of_run_write
    (written
      : (package.write directory).run (Host.Machine.respond network) machine = (.ok (), after))
    : (∀ document ∈ package.documents.entries, Writable (pathBelow directory document.1))
      ∧ machine.files.contentAt? (Path.place machine.directory directory) = none
      ∧ ∃ base part files,
          Planted (filesOf package.documents.entries) (Path.place machine.directory directory)
            machine.files base part files
          ∧ after = { machine with files } := by
  obtain ⟨cleared, began, ended⟩ := run_write_eq_ok_iff.mp written
  obtain ⟨taken, files, stored, rfl⟩ := (run_writeDocuments_eq_ok_iff ordinary plain).mp ended
  have nonempty : filesOf package.documents.entries ≠ [] := by simpa [filesOf] using some
  have below (entry : List String × ByteArray) (member : entry ∈ filesOf package.documents.entries)
      : entry.1 ≠ [] :=
    filled_of_plain member
  refine ⟨fun document member => (taken document member).1, ?_⟩
  by_cases there : (machine.files.open? machine.directory directory).isOk = true
  · -- What was there is removed first.
    rw [if_pos there] at began
    obtain ⟨_, ⟨entries, found⟩, rfl⟩ := (clear_eq_ok_iff ordinary).mp began
    obtain ⟨part, planted⟩ := exists_planted_of_storeFiles nonempty below
      (get_prune_ne_ok (ordinary.place_ne_nil machine.directory)) (fun other apart =>
        (contentAt?_prune_of_not_isPrefix apart).trans (contentAt?_graft_of_not_isPrefix apart))
      stored
    refine ⟨?_, _, part, files, planted, rfl⟩
    rw [contentAt?, found]
  · -- Nothing is there that a file could be stored in.
    rw [if_neg there] at began
    subst began
    have absent : ∀ found, machine.files.get (Path.place machine.directory directory) ≠ .ok found := by
      intro found listed
      cases found with
      | file content => exact get_ne_ok_file_of_storeFiles nonempty below stored content listed
      | directory entries =>
          obtain ⟨document, member⟩ := List.exists_mem_of_ne_nil _ some
          have accepted := checkPath_of_writable ordinary plain member (taken document member).1
          rw [open?_of_get_eq_directory ordinary accepted listed] at there
          exact there rfl
    obtain ⟨part, planted⟩ :=
      exists_planted_of_storeFiles nonempty below absent (fun _ _ => rfl) stored
    refine ⟨?_, _, part, files, planted, rfl⟩
    rw [Option.eq_none_iff_forall_ne_some]
    exact fun content read => absent _ (contentAt?_eq_some_iff.mp read)

/-- A package that was written can be written again, and nothing changes.
-/
theorem run_write_again
    (written
      : (package.write directory).run (Host.Machine.respond network) machine = (.ok (), after))
    : (package.write directory).run (Host.Machine.respond network) after = (.ok (), after) := by
  obtain ⟨taken, _, base, part, files, planted, rfl⟩ :=
    exists_planted_of_run_write ordinary plain some written
  obtain ⟨document, member⟩ := List.exists_mem_of_ne_nil _ some
  have accepted := checkPath_of_writable ordinary plain member (taken document member)
  have filled := ordinary.place_ne_nil machine.directory
  have nonempty : filesOf package.documents.entries ≠ [] := by simpa [filesOf] using some
  obtain ⟨entries, there⟩ :=
    planted.exists_get_eq_directory fun _ member => filled_of_plain member
  have cleared : files.clear machine.directory directory
      = ((graft (.directory []) files (Path.place machine.directory directory)).prune
          (Path.place machine.directory directory), .ok ()) :=
    (clear_eq_ok_iff ordinary).mpr ⟨accepted, ⟨entries, there⟩, rfl⟩
  have reached := (reaches_of_get_eq_ok there).1.graft (.directory [])
  have begun : ((graft (.directory []) files (Path.place machine.directory directory)).prune
      (Path.place machine.directory directory)).checkStart (Path.start machine.directory directory)
        = .ok () := by
    -- Removing a place below it leaves the directory that the path starts in.
    have empty := get_graft_append (reaches_of_get_eq_ok there).1 (.directory []) []
    rw [List.append_nil, Path.place] at empty
    obtain ⟨_, above⟩ := exists_get_of_get_append ordinary.steps_ne_nil empty
    exact checkStart_eq_ok_iff.mpr (exists_get_prune_append ordinary.steps_ne_nil above)
  refine run_write_eq_ok_iff.mpr
    ⟨(graft (.directory []) files (Path.place machine.directory directory)).prune
      (Path.place machine.directory directory), ?_, ?_⟩
  · rw [if_pos, cleared]
    rw [open?_of_get_eq_directory ordinary accepted there]
    rfl
  · refine (run_writeDocuments_eq_ok_iff ordinary plain).mpr
      ⟨fun document member => ⟨taken document member, begun⟩, files, ?_, rfl⟩
    have reaches := reached.1.prune
    refine (storeFiles_append_eq_ok_iff nonempty fun _ member => filled_of_plain member).mpr
      ⟨reaches, part, ?_, (planted.graft_prune filled).symm⟩
    rw [branch_of_get_ne_ok reaches (get_prune_ne_ok filled)]
    exact planted.stored

end Write

end Tablewright.Package
